import ShaderBuild.Source.Expansion

/-!
What the expansion of a file can do, as relations: `Expands` for its successes and `Fails` for its
failures, with one rule for each kind of line. Main statements: `expand_ok_iff`,
`fails_of_expand_error`, `preprocess_ok_iff`.
-/

namespace ShaderBuild

/-- Lines of a file in which includes may go `room` levels deep expand to `e`. -/
inductive Expands (r : Resolver) :
    (room : Nat) → Frame → List (List Char) → List Path → Expansion → Prop
  | nil {room : Nat} {f : Frame} {once : List Path} : Expands r room f [] once ⟨[], [], once⟩
  | pragma {room : Nat} {f : Frame} {line : List Char} {rest : List (List Char)} {once : List Path}
      {e : Expansion} (other : IncludeLine.ofLine line = .other) (once? : isPragmaOnce line = true)
      (tail : Expands r room f rest once e) : Expands r room f (line :: rest) once e
  | copy {room : Nat} {f : Frame} {line : List Char} {rest : List (List Char)} {once : List Path}
      {e : Expansion} (other : IncludeLine.ofLine line = .other) (plain : isPragmaOnce line = false)
      (tail : Expands r room f rest once e) :
        Expands r room f (line :: rest) once (e.prepend [line] [])
  | skip {room : Nat} {f : Frame} {line : List Char} {rest : List (List Char)} {once : List Path}
      {e : Expansion} {kind : IncludeKind} {name : List Char} {text : IncludeText}
      (request : IncludeLine.ofLine line = .request kind name)
      (found : (r.request kind f.dir (String.ofList name)).value = some text)
      (fresh : text.path.mem f.stack = false) (seen : text.path.mem once = true)
      (tail : Expands r room f rest once e) :
      Expands r room f (line :: rest) once
        (e.prepend [] [.record (String.ofList name) f.dir kind (some text)])
  | enter {room : Nat} {f : Frame} {line : List Char} {rest : List (List Char)} {once : List Path}
      {inner e : Expansion} {kind : IncludeKind} {name : List Char} {text : IncludeText}
      (request : IncludeLine.ofLine line = .request kind name)
      (found : (r.request kind f.dir (String.ofList name)).value = some text)
      (fresh : text.path.mem f.stack = false) (new : text.path.mem once = false)
      (body : Expands r room (f.enter text.path) (Text.lines text.contents.toList)
        (onceAfter text.path text.contents.toList once) inner)
      (tail : Expands r (room + 1) f rest inner.once e) :
      Expands r (room + 1) f (line :: rest) once
        (e.prepend inner.lines (.record (String.ofList name) f.dir kind (some text) ::
          inner.dependencies))

/-- Lines from `number` on of a file in which includes may go `room` levels deep fail. -/
inductive Fails (r : Resolver) (limit : Nat) :
    (room : Nat) → Frame → (number : Nat) → List (List Char) → List Path → PreprocessError → Prop
  | malformed {room : Nat} {f : Frame} {number : Nat} {line : List Char} {rest : List (List Char)}
      {once : List Path} (malformed : IncludeLine.ofLine line = .malformed) :
      Fails r limit room f number (line :: rest) once (.malformed f.file number)
  | notFound {room : Nat} {f : Frame} {number : Nat} {line : List Char} {rest : List (List Char)}
      {once : List Path} {kind : IncludeKind} {name : List Char}
      (request : IncludeLine.ofLine line = .request kind name)
      (missing : (r.request kind f.dir (String.ofList name)).value = none) :
      Fails r limit room f number (line :: rest) once (.notFound (String.ofList name) f.file number)
  | recursive {room : Nat} {f : Frame} {number : Nat} {line : List Char} {rest : List (List Char)}
      {once : List Path} {kind : IncludeKind} {name : List Char} {text : IncludeText}
      (request : IncludeLine.ofLine line = .request kind name)
      (found : (r.request kind f.dir (String.ofList name)).value = some text)
      (open? : text.path.mem f.stack = true) :
      Fails r limit room f number (line :: rest) once
        (.recursive (String.ofList name) f.file number)
  | tooDeep {f : Frame} {number : Nat} {line : List Char} {rest : List (List Char)}
      {once : List Path} {kind : IncludeKind} {name : List Char} {text : IncludeText}
      (request : IncludeLine.ofLine line = .request kind name)
      (found : (r.request kind f.dir (String.ofList name)).value = some text)
      (fresh : text.path.mem f.stack = false) (new : text.path.mem once = false) :
      Fails r limit 0 f number (line :: rest) once
        (.tooDeep (String.ofList name) f.file number limit)
  | inside {room : Nat} {f : Frame} {number : Nat} {line : List Char} {rest : List (List Char)}
      {once : List Path} {kind : IncludeKind} {name : List Char} {text : IncludeText}
        {e : PreprocessError}
      (request : IncludeLine.ofLine line = .request kind name)
      (found : (r.request kind f.dir (String.ofList name)).value = some text)
      (fresh : text.path.mem f.stack = false) (new : text.path.mem once = false)
      (body : Fails r limit room (f.enter text.path) 1 (Text.lines text.contents.toList)
        (onceAfter text.path text.contents.toList once) e) :
      Fails r limit (room + 1) f number (line :: rest) once e
  | later {room : Nat} {f : Frame} {number : Nat} {line : List Char} {rest : List (List Char)}
      {once : List Path} {head : Expansion} {e : PreprocessError}
      (passed : Expands r room f [line] once head)
      (tail : Fails r limit room f (number + 1) rest head.once e) :
      Fails r limit room f number (line :: rest) once e

/-- How includes are entered with `room` levels left. -/
def enterAt (r : Resolver) (limit : Nat) :
    Nat → Option (Frame → List (List Char) → List Path → Traced (Except PreprocessError Expansion))
  | 0 => none
  | room + 1 => some (expand r limit room)

theorem expand_eq (r : Resolver) (limit room : Nat) (f : Frame) (lines : List (List Char))
    (once : List Path) :
    expand r limit room f lines once =
      expandLines r limit (enterAt r limit room) f 1 lines once := by
  cases room <;> rfl

/-- What one line does to the value of an expansion. -/
theorem value_expandLines_cons (r : Resolver) (limit room : Nat) (f : Frame) (number : Nat)
    (line : List Char) (rest : List (List Char)) (once : List Path) :
    (expandLines r limit (enterAt r limit room) f number (line :: rest) once).value =
      match IncludeLine.ofLine line with
      | .other =>
        if isPragmaOnce line then
          (expandLines r limit (enterAt r limit room) f (number + 1) rest once).value
        else (expandLines r limit (enterAt r limit room) f (number + 1) rest once).value.map
          (·.prepend [line] [])
      | .malformed => .error (.malformed f.file number)
      | .request kind name =>
        match (r.request kind f.dir (String.ofList name)).value with
        | none => .error (.notFound (String.ofList name) f.file number)
        | some text =>
          if text.path.mem f.stack then .error (.recursive (String.ofList name) f.file number)
          else if text.path.mem once then
            (expandLines r limit (enterAt r limit room) f (number + 1) rest once).value.map
              (·.prepend [] [.record (String.ofList name) f.dir kind (some text)])
          else match room with
            | 0 => .error (.tooDeep (String.ofList name) f.file number limit)
            | room + 1 =>
              match (expand r limit room (f.enter text.path) (Text.lines text.contents.toList)
                (onceAfter text.path text.contents.toList once)).value with
              | .error e => .error e
              | .ok inner =>
                (expandLines r limit (enterAt r limit (room + 1)) f (number + 1) rest
                  inner.once).value.map
                  (·.prepend inner.lines
                    (.record (String.ofList name) f.dir kind (some text) ::
                      inner.dependencies)) := by
  rw [expandLines]
  cases IncludeLine.ofLine line with
  | malformed => rfl
  | other =>
    simp only
    split <;> rfl
  | request kind name =>
    simp only [Traced.value_bind]
    cases (r.request kind f.dir (String.ofList name)).value with
    | none => rfl
    | some text =>
      simp only
      split
      · rfl
      split
      · rfl
      cases room with
      | zero => rfl
      | succ room =>
        simp only [enterAt, Traced.value_bind]
        cases (expand r limit room (f.enter text.path) (Text.lines text.contents.toList)
          (onceAfter text.path text.contents.toList once)).value with
        | error e => rfl
        | ok inner => rfl

/-! ## Successes -/

theorem Expands.value {r : Resolver} {limit room : Nat} {f : Frame} {lines : List (List Char)}
    {once : List Path} {e : Expansion} (h : Expands r room f lines once e) (number : Nat) :
    (expandLines r limit (enterAt r limit room) f number lines once).value = .ok e := by
  induction h generalizing number with
  | nil => rw [expandLines]; rfl
  | pragma other once? _ ih => simp only [value_expandLines_cons, other, once?, ih, if_true]
  | copy other plain _ ih => simp [value_expandLines_cons, other, plain, ih, Except.map]
  | skip request found fresh seen _ ih =>
    simp [value_expandLines_cons, request, found, fresh, seen, ih, Except.map]
  | enter request found fresh new _ _ ihBody ihTail =>
    simp [value_expandLines_cons, request, found, fresh, new, expand_eq, ihBody, ihTail, Except.map]

/-- What holds of every line of a text that is no directive holds of every line that is copied. -/
theorem Expands.forall_lines {r : Resolver} {room : Nat} {f : Frame} {lines : List (List Char)}
    {once : List Path} {e : Expansion} {P : List Char → Prop} (h : Expands r room f lines once e)
    (htexts : ∀ text, ∀ l ∈ Text.lines text, IncludeLine.ofLine l = .other →
      isPragmaOnce l = false → P l)
    (hlines : ∀ l ∈ lines, IncludeLine.ofLine l = .other → isPragmaOnce l = false → P l) :
    ∀ l ∈ e.lines, P l := by
  induction h with
  | nil => exact nofun
  | pragma _ _ _ ih => exact ih (List.forall_mem_cons.1 hlines).2
  | copy other plain _ ih =>
    obtain ⟨hline, hrest⟩ := List.forall_mem_cons.1 hlines
    exact List.forall_mem_cons.2 ⟨hline other plain, ih hrest⟩
  | skip _ _ _ _ _ ih => exact ih (List.forall_mem_cons.1 hlines).2
  | enter _ _ _ _ _ _ ihBody ihTail =>
    have hbody := ihBody (htexts _)
    exact List.forall_mem_append.2 ⟨hbody, ihTail (List.forall_mem_cons.1 hlines).2⟩

/-! ## Every outcome -/

/-- What the outcome of lines from `number` on says about them. -/
def Outcome (r : Resolver) (limit room : Nat) (f : Frame) (number : Nat) (lines : List (List Char))
    (once : List Path) : Except PreprocessError Expansion → Prop
  | .ok e => Expands r room f lines once e
  | .error e => Fails r limit room f number lines once e

/-- An outcome of the lines behind a line that is passed. -/
theorem Outcome.behind {r : Resolver} {limit room : Nat} {f : Frame} {number : Nat}
    {line : List Char} {rest : List (List Char)} {once : List Path} {head : Expansion}
    {result : Except PreprocessError Expansion} (put : Expansion → Expansion)
    (passed : Expands r room f [line] once head)
    (hput : ∀ {e}, Expands r room f rest head.once e → Expands r room f (line :: rest) once (put e))
    (h : Outcome r limit room f (number + 1) rest head.once result) :
    Outcome r limit room f number (line :: rest) once (result.map put) := by
  cases result with
  | ok e => exact hput h
  | error e => exact .later passed h

theorem outcome_value (r : Resolver) (limit room : Nat) (f : Frame) (number : Nat)
    (lines : List (List Char)) (once : List Path) :
    Outcome r limit room f number lines once
      (expandLines r limit (enterAt r limit room) f number lines once).value := by
  -- Entering takes one off the room; every other step takes one line off the list.
  induction room using Nat.strongRecOn generalizing f number lines once with
  | ind room ihRoom =>
    induction lines generalizing number once with
    | nil => exact Expands.nil
    | cons line rest ih =>
      rw [value_expandLines_cons]
      cases hline : IncludeLine.ofLine line with
      | malformed => exact Fails.malformed hline
      | other =>
        simp only
        split
        · rename_i hpragma
          have := Outcome.behind id (.pragma hline hpragma .nil) (.pragma hline hpragma)
            (ih (number + 1) once)
          rwa [Except.map_id, id_eq] at this
        · rename_i hplain
          have hplain := eq_false_of_ne_true hplain
          exact Outcome.behind _ (.copy hline hplain .nil) (.copy hline hplain)
            (ih (number + 1) once)
      | request kind name =>
        simp only
        cases hfound : (r.request kind f.dir (String.ofList name)).value with
        | none => exact Fails.notFound hline hfound
        | some text =>
          simp only
          split
          · exact Fails.recursive hline hfound ‹_›
          rename_i hfresh
          have hfresh := eq_false_of_ne_true hfresh
          split
          · rename_i hseen
            exact Outcome.behind _ (.skip hline hfound hfresh hseen .nil)
              (.skip hline hfound hfresh hseen)
              (ih (number + 1) once)
          rename_i hnew
          have hnew := eq_false_of_ne_true hnew
          cases room with
          | zero => exact Fails.tooDeep hline hfound hfresh hnew
          | succ room =>
            simp only [expand_eq]
            have hbody := ihRoom room (Nat.lt_succ_self room) (f.enter text.path) 1
              (Text.lines text.contents.toList) (onceAfter text.path text.contents.toList once)
            revert hbody
            cases (expandLines r limit (enterAt r limit room) (f.enter text.path) 1
              (Text.lines text.contents.toList)
                (onceAfter text.path text.contents.toList once)).value with
            | error e => exact fun hbody => Fails.inside hline hfound hfresh hnew hbody
            | ok inner =>
              intro hbody
              exact Outcome.behind _ (.enter hline hfound hfresh hnew hbody .nil)
                (.enter hline hfound hfresh hnew hbody) (ih (number + 1) inner.once)

/-! ## The whole of a file -/

theorem expand_ok_iff {r : Resolver} {limit room : Nat} {f : Frame} {lines : List (List Char)}
    {once : List Path} {e : Expansion} :
    (expand r limit room f lines once).value = .ok e ↔ Expands r room f lines once e := by
  rw [expand_eq]
  constructor
  · intro h
    have := outcome_value r limit room f 1 lines once
    rwa [h] at this
  · exact fun h => h.value 1

theorem fails_of_expand_error {r : Resolver} {limit room : Nat} {f : Frame}
    {lines : List (List Char)} {once : List Path} {e : PreprocessError}
    (h : (expand r limit room f lines once).value = .error e) :
    Fails r limit room f 1 lines once e := by
  rw [expand_eq] at h
  have := outcome_value r limit room f 1 lines once
  rwa [h] at this

/-- The frame of a source text that was read from a path. -/
def Resolver.frame (r : Resolver) (path : Path) : Frame := ⟨path, path.parentDir, [r.resolved path]⟩

/-- The expansion of a source text that was read from a path. -/
def Resolver.expansion (r : Resolver) (limit : Nat) (source : String) (path : Path) :
    Except PreprocessError Expansion :=
  (expand r limit limit (r.frame path) (Text.lines source.toList)
    (onceAfter (r.resolved path) source.toList [])).value

theorem value_preprocess (r : Resolver) (limit : Nat) (defines : List Define) (source : String)
    (path : Path) :
    (preprocess r limit defines source path).value =
      match r.expansion limit source path with
      | .error e => .error e
      | .ok expansion =>
        match Define.inject? expansion.code defines with
        | none => .panicked
        | some code => .ok ⟨String.ofList code, expansion.dependencies⟩ := by
  rw [preprocess, Traced.value_bind, Resolver.expansion, Resolver.frame]
  cases (expand r limit limit ⟨path, path.parentDir, [r.resolved path]⟩ (Text.lines source.toList)
    (onceAfter (r.resolved path) source.toList [])).value with
  | error e => rfl
  | ok expansion =>
    simp only
    cases Define.inject? expansion.code defines <;> rfl

theorem preprocess_ok_iff {r : Resolver} {limit : Nat} {defines : List Define} {source : String}
    {path : Path} {out : Preprocessed} :
    (preprocess r limit defines source path).value = .ok out ↔
      ∃ e code, r.expansion limit source path = .ok e ∧ Define.inject? e.code defines = some code ∧
        out = ⟨String.ofList code, e.dependencies⟩ := by
  rw [value_preprocess]
  constructor
  · intro h
    cases hexpansion : r.expansion limit source path with
    | error e =>
      rw [hexpansion] at h
      cases h
    | ok e =>
      rw [hexpansion] at h
      cases hinject : Define.inject? e.code defines with
      | none => simp [hinject] at h
      | some code =>
        simp only [hinject] at h
        cases h
        exact ⟨e, code, rfl, hinject, rfl⟩
  · rintro ⟨e, code, hexpansion, hinject, rfl⟩
    simp only [hexpansion, hinject]

end ShaderBuild
