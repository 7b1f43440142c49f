import Mathlib.Data.List.Basic
import ShaderBuild.Files.Memory
import ShaderBuild.Proofs.Expansion
import ShaderBuild.Proofs.TextLines

/-!
Where the lines of the defines are put. The place is a byte offset that counts one byte for the end
of each line, while a carriage return before the newline is no part of a line either. Main
statement: `defines_keep_lines_iff`, by which the defines stand as whole lines behind the first
version line, or at the top, exactly if no line up to the first version line ends in a carriage
return. Where one does, the defines can tear the version line (`defines_can_tear_lines`).
-/

namespace ShaderBuild

/-! ## Bytes of whole lines -/

namespace Text

theorem byteLength_append (cs ds : List Char) :
    byteLength (cs ++ ds) = byteLength cs + byteLength ds := by
  induction cs with
  | nil => simp [byteLength]
  | cons c cs ih =>
    rw [List.cons_append, byteLength, byteLength, ih]
    omega

/-- Whether a line ends in a carriage return. -/
def endsInReturn (line : List Char) : Bool := line.getLast? == some '\r'

theorem byteLength_dropReturn (line : List Char) :
    byteLength (dropReturn line) + (if endsInReturn line then 1 else 0) = byteLength line := by
  by_cases h : line.getLast? = some '\r'
  · obtain ⟨before, rfl⟩ := List.getLast?_eq_some_iff.1 h
    have hsize : '\r'.utf8Size = 1 := by decide
    simp [endsInReturn, byteLength_append, byteLength, hsize]
  · simp [endsInReturn, h, dropReturn_of_getLast?_ne h]

/-- Without the carriage returns at the ends of its lines, a text is shorter by as many bytes. -/
theorem byteLength_terminated_map_dropReturn (ls : List (List Char)) :
    byteLength (terminated (ls.map dropReturn)) + ls.countP endsInReturn =
      byteLength (terminated ls) := by
  induction ls with
  | nil => rfl
  | cons line rest ih =>
    have hline := byteLength_dropReturn line
    simp only [List.map_cons, terminated_cons, byteLength_append, byteLength, List.countP_cons]
    omega

end Text

/-! ## Splitting at a byte -/

namespace Define

theorem splitAtByte?_append (before cs after : List Char) :
    splitAtByte? before (Text.byteLength cs) (cs ++ after) =
      some (before.reverse ++ cs, after) := by
  induction cs generalizing before with
  | nil => simp [Text.byteLength, splitAtByte?]
  | cons c cs ih =>
    have hsize := c.utf8Size_pos
    obtain ⟨size, hsucc⟩ := Nat.exists_eq_add_of_lt hsize
    have hlength : Text.byteLength (c :: cs) = size + Text.byteLength cs + 1 := by
      rw [Text.byteLength]
      omega
    have hrest : size + Text.byteLength cs + 1 - c.utf8Size = Text.byteLength cs := by omega
    rw [hlength, List.cons_append, splitAtByte?, if_pos (by omega), hrest, ih]
    simp

theorem eq_append_of_splitAtByte? {before cs front after : List Char} {offset : Nat}
    (h : splitAtByte? before offset cs = some (front, after)) :
    ∃ taken, front = before.reverse ++ taken ∧ cs = taken ++ after ∧
      Text.byteLength taken = offset := by
  induction cs generalizing before offset with
  | nil =>
    cases offset with
    | zero =>
      cases h
      exact ⟨[], by simp [Text.byteLength]⟩
    | succ offset => cases h
  | cons c cs ih =>
    cases offset with
    | zero =>
      cases h
      exact ⟨[], by simp [Text.byteLength]⟩
    | succ offset =>
      rw [splitAtByte?] at h
      split at h
      · obtain ⟨taken, hfront, hcs, hlength⟩ := ih h
        refine ⟨c :: taken, by simp [hfront], by rw [hcs, List.cons_append], ?_⟩
        rw [Text.byteLength, hlength]
        omega
      · cases h

/-- A text is not split at an offset at which none of its characters begins. -/
theorem splitAtByte?_eq_none_iff {before cs : List Char} {offset : Nat} :
    splitAtByte? before offset cs = none ↔
      ∀ front rest, cs = front ++ rest → Text.byteLength front ≠ offset := by
  constructor
  · rintro h front rest rfl rfl
    rw [splitAtByte?_append] at h
    cases h
  · intro h
    cases hsplit : splitAtByte? before offset cs with
    | none => rfl
    | some parts =>
      obtain ⟨taken, _, hcs, hlength⟩ := eq_append_of_splitAtByte? hsplit
      exact absurd hlength (h taken parts.2 hcs)

/-- The place that is counted for the defines in a text is inside one of its characters. -/
def PlaceInside (code : List Char) : Prop :=
  ∃ stop, versionEnd? 0 (Text.lines code) = some stop ∧ stop < Text.byteLength code ∧
    ∀ front rest, code = front ++ rest → Text.byteLength front ≠ stop

theorem inject?_eq_none_iff {code : List Char} {defines : List Define} :
    inject? code defines = none ↔ defines ≠ [] ∧ PlaceInside code := by
  by_cases hne : defines = []
  · simp [inject?, hne]
  rw [inject?, if_neg hne, PlaceInside]
  cases versionEnd? 0 (Text.lines code) with
  | none => simp
  | some stop =>
    have hsplit : splitAtByte? [] (min stop (Text.byteLength code)) code = none ↔
        stop < Text.byteLength code ∧
          ∀ front rest, code = front ++ rest → Text.byteLength front ≠ stop := by
      rw [splitAtByte?_eq_none_iff]
      constructor
      · intro h
        -- At its end a text can be split.
        have hbefore : stop < Text.byteLength code := by
          have hend := h code [] (List.append_nil _).symm
          omega
        rw [Nat.min_eq_left (Nat.le_of_lt hbefore)] at h
        exact ⟨hbefore, h⟩
      · rintro ⟨hbefore, h⟩
        rw [Nat.min_eq_left (Nat.le_of_lt hbefore)]
        exact h
    simp only [Option.some.injEq, exists_eq_left', ← hsplit]
    cases splitAtByte? [] (min stop (Text.byteLength code)) code <;> simp [hne]

/-! ## The place of the defines -/

/-- The line of a define, without its end. -/
def text (d : Define) : List Char :=
  "#define ".toList ++ d.1.toList ++ (if d.2 = "" then [] else ' ' :: d.2.toList)

theorem block_eq (defines : List Define) : block defines = Text.terminated (defines.map text) := by
  rw [block, Text.terminated, List.flatMap_map]
  rfl

theorem isVersion_text (d : Define) : isVersion (text d) = false := rfl

theorem newline_not_mem_text {d : Define} (h : '\n' ∉ d.1.toList ∧ '\n' ∉ d.2.toList) :
    '\n' ∉ text d := by
  have hword : '\n' ∉ "#define ".toList := by decide
  have hvalue : '\n' ∉ (if d.2 = "" then [] else ' ' :: d.2.toList) := by
    split
    · exact List.not_mem_nil
    · exact List.not_mem_cons_of_ne_of_not_mem (by decide) h.2
  unfold text
  exact List.not_mem_append (List.not_mem_append hword h.1) hvalue

/-- Lines put directly behind the first version line of others, or before all of them if there is
none. -/
def placed (added lines : List (List Char)) : List (List Char) :=
  match lines.findIdx? isVersion with
  | some i => lines.take (i + 1) ++ added ++ lines.drop (i + 1)
  | none => added ++ lines

/-- A line up to the first version line ends in a carriage return. -/
def ReturnUpToVersion (lines : List (List Char)) : Prop :=
  ∃ i, lines.findIdx? isVersion = some i ∧ ∃ line ∈ lines.take (i + 1), Text.endsInReturn line

instance (lines : List (List Char)) : Decidable (ReturnUpToVersion lines) :=
  decidable_of_iff
    (((lines.findIdx? isVersion).any fun i => (lines.take (i + 1)).any Text.endsInReturn) = true)
      (by simp only [ReturnUpToVersion, Option.any_eq_true, List.any_eq_true])

/-- Lines have a first version line or none. -/
theorem version_cases (lines : List (List Char)) :
    (∀ line ∈ lines, isVersion line = false) ∨
    ∃ before line after, lines = before ++ line :: after ∧ (∀ l ∈ before, isVersion l = false) ∧
      isVersion line := by
  cases h : lines.find? isVersion with
  | none => exact .inl (by simpa using List.find?_eq_none.1 h)
  | some line =>
    obtain ⟨hline, before, after, hlines, hbefore⟩ := List.find?_eq_some_iff_append.1 h
    exact .inr ⟨before, line, after, hlines, by simpa using hbefore, hline⟩

section FirstVersion

variable {before after : List (List Char)} {line : List Char}
  (hbefore : ∀ l ∈ before, isVersion l = false) (hline : isVersion line)

include hbefore hline

theorem findIdx?_version : (before ++ line :: after).findIdx? isVersion = some before.length := by
  have hnone : before.findIdx? isVersion = none := by simpa using hbefore
  simp [List.findIdx?_append, List.findIdx?_cons, hnone, hline]

theorem placed_version (added : List (List Char)) :
    placed added (before ++ line :: after) = before ++ line :: added ++ after := by
  simp [placed, findIdx?_version hbefore hline, List.take_length_add_append,
    List.drop_length_add_append]

theorem returnUpToVersion_iff :
    ReturnUpToVersion (before ++ line :: after) ↔
      ∃ l ∈ before ++ [line], Text.endsInReturn l = true := by
  simp [ReturnUpToVersion, findIdx?_version hbefore hline, List.take_length_add_append]

theorem versionEnd?_version (start : Nat) :
    versionEnd? start ((before ++ line :: after).map Text.dropReturn) =
      some (start +
        Text.byteLength (Text.terminated ((before ++ [line]).map Text.dropReturn))) := by
  induction before generalizing start with
  | nil =>
    rw [List.nil_append, List.map_cons, versionEnd?, isVersion_dropReturn, if_pos hline]
    simp [Text.byteLength_append, Text.byteLength, Nat.add_assoc]
    decide
  | cons first before ih =>
    obtain ⟨hfirst, hrest⟩ := List.forall_mem_cons.1 hbefore
    have hnewline : '\n'.utf8Size = 1 := by decide
    rw [List.cons_append, List.map_cons, versionEnd?, isVersion_dropReturn, hfirst,
      if_neg (by simp), ih hrest]
    simp only [List.cons_append, List.map_cons, Text.terminated_cons, Text.byteLength_append,
      Text.byteLength, hnewline]
    congr 1
    omega

end FirstVersion

theorem versionEnd?_of_none {lines : List (List Char)} (h : ∀ l ∈ lines, isVersion l = false)
    (start : Nat) :
    versionEnd? start (lines.map Text.dropReturn) = none := by
  induction lines generalizing start with
  | nil => rfl
  | cons line rest ih =>
    obtain ⟨hline, hrest⟩ := List.forall_mem_cons.1 h
    rw [List.map_cons, versionEnd?, isVersion_dropReturn, hline, if_neg (by simp), ih hrest]

theorem placed_of_none {lines : List (List Char)} (h : ∀ l ∈ lines, isVersion l = false)
    (added : List (List Char)) :
    placed added lines = added ++ lines := by
  have hnone : lines.findIdx? isVersion = none := by simpa using h
  rw [placed, hnone]

theorem not_returnUpToVersion_of_none {lines : List (List Char)}
    (h : ∀ l ∈ lines, isVersion l = false) :
    ¬ ReturnUpToVersion lines := by
  have hnone : lines.findIdx? isVersion = none := by simpa using h
  simp [ReturnUpToVersion, hnone]

theorem mem_placed {added lines : List (List Char)} {l : List Char} (h : l ∈ placed added lines) :
    l ∈ added ∨ l ∈ lines := by
  rcases version_cases lines with hnone | ⟨before, line, after, rfl, hbefore, hline⟩
  · rw [placed_of_none hnone] at h
    exact List.mem_append.1 h
  · rw [placed_version hbefore hline] at h
    simp only [List.mem_append, List.mem_cons] at h ⊢
    tauto

/-- The empty piece behind the last newline stays where it is. -/
theorem placed_concat_nil (added lines : List (List Char)) :
    placed added (lines ++ [[]]) = placed added lines ++ [[]] := by
  rcases version_cases lines with hnone | ⟨before, line, after, rfl, hbefore, hline⟩
  · have hnone' : ∀ l ∈ lines ++ [[]], isVersion l = false :=
      List.forall_mem_append.2 ⟨hnone, List.forall_mem_singleton.2 rfl⟩
    rw [placed_of_none hnone, placed_of_none hnone', List.append_assoc]
  · rw [List.append_assoc, List.cons_append, placed_version hbefore hline,
      placed_version hbefore hline]
    simp only [List.append_assoc]

theorem returnUpToVersion_concat_nil (lines : List (List Char)) :
    ReturnUpToVersion (lines ++ [[]]) ↔ ReturnUpToVersion lines := by
  rcases version_cases lines with hnone | ⟨before, line, after, rfl, hbefore, hline⟩
  · have hnone' : ∀ l ∈ lines ++ [[]], isVersion l = false :=
      List.forall_mem_append.2 ⟨hnone, List.forall_mem_singleton.2 rfl⟩
    exact iff_of_false (not_returnUpToVersion_of_none hnone') (not_returnUpToVersion_of_none hnone)
  · rw [List.append_assoc, List.cons_append, returnUpToVersion_iff hbefore hline,
      returnUpToVersion_iff hbefore hline]

/-! ## Defines in a text of whole lines -/

/-- The texts before and behind the place of the defines, with the defines between them. -/
def between (defines : List Define) (parts : List Char × List Char) : List Char :=
  parts.1 ++ (if parts.1.getLast? = some '\n' then [] else ['\n']) ++ block defines ++ parts.2

section Version

variable {defines : List Define} {before after : List (List Char)} {line : List Char}

theorem terminated_version (before : List (List Char)) (line : List Char)
    (after : List (List Char)) :
    Text.terminated (before ++ line :: after) = Text.terminated (before ++ [line]) ++
      Text.terminated after := by
  simp

theorem inject?_version (hne : defines ≠ []) (hnewline : ∀ l ∈ before ++ line :: after, '\n' ∉ l)
    (hbefore : ∀ l ∈ before, isVersion l = false) (hline : isVersion line) :
    inject? (Text.terminated (before ++ line :: after)) defines =
      (splitAtByte? [] (Text.byteLength (Text.terminated ((before ++ [line]).map Text.dropReturn)))
        (Text.terminated (before ++ line :: after))).map (between defines) := by
  have hcount := Text.byteLength_terminated_map_dropReturn (before ++ [line])
  have hwithin : Text.byteLength (Text.terminated ((before ++ [line]).map Text.dropReturn)) ≤
      Text.byteLength (Text.terminated (before ++ line :: after)) := by
    rw [terminated_version before line after, Text.byteLength_append]
    omega
  rw [inject?, if_neg hne, Text.lines_terminated hnewline, versionEnd?_version hbefore hline]
  simp only [Nat.zero_add, Nat.min_eq_left hwithin]
  cases splitAtByte? [] (Text.byteLength (Text.terminated ((before ++ [line]).map Text.dropReturn)))
    (Text.terminated (before ++ line :: after)) <;> rfl

/-- The place is right where no line up to the version line ends in a carriage return. -/
theorem splitAtByte?_aligned (h : ∀ l ∈ before ++ [line], Text.endsInReturn l = false) :
    splitAtByte? [] (Text.byteLength (Text.terminated ((before ++ [line]).map Text.dropReturn)))
        (Text.terminated (before ++ line :: after)) =
      some (Text.terminated (before ++ [line]), Text.terminated after) := by
  have hcount := Text.byteLength_terminated_map_dropReturn (before ++ [line])
  have hnone : (before ++ [line]).countP Text.endsInReturn = 0 := by
    rw [List.countP_eq_zero]
    intro l hl
    rw [h l hl]
    exact Bool.false_ne_true
  rw [hnone, Nat.add_zero] at hcount
  rw [hcount, terminated_version before line after, splitAtByte?_append]
  rfl

theorem between_aligned :
    between defines (Text.terminated (before ++ [line]), Text.terminated after) =
      Text.terminated (before ++ line :: defines.map text ++ after) := by
  rw [between, if_pos (Text.getLast?_terminated (by simp)), block_eq]
  simp

/-- The defines put in front of lines up to the first version line are not the defines behind
them. -/
theorem ne_of_version_last {added missed : List (List Char)} (hadded : added ≠ [])
    (hplain : ∀ l ∈ added, isVersion l = false) (hmissed : ∀ l ∈ missed, isVersion l = false)
    (hline : isVersion line) : added ++ (missed ++ [line]) ≠ (missed ++ [line]) ++ added := by
  intro h
  have hfront : ∀ l ∈ added ++ missed, isVersion l = false :=
    List.forall_mem_append.2 ⟨hplain, hmissed⟩
  have hindex := congrArg (List.findIdx? isVersion) h
  rw [← List.append_assoc, findIdx?_version hfront hline, List.append_assoc, List.singleton_append,
    findIdx?_version hmissed hline] at hindex
  have hlength : added.length = 0 := by simpa using hindex
  exact hadded (List.length_eq_zero_iff.1 hlength)

/-- Behind a piece of the lines up to the version line that is too short, the defines stand
elsewhere. -/
theorem between_ne_of_short (hne : defines ≠ []) (hdefines : ∀ d ∈ defines, '\n' ∉ text d)
    (hnewline : ∀ l ∈ before ++ [line], '\n' ∉ l) (hbefore : ∀ l ∈ before, isVersion l = false)
    (hline : isVersion line) {front missed : List Char}
    (hhead : Text.terminated (before ++ [line]) = front ++ missed) (hmissed : missed ≠ []) :
    between defines (front, missed ++ Text.terminated after) ≠
      Text.terminated (before ++ line :: defines.map text ++ after) := by
  intro heq
  have hexpected : Text.terminated (before ++ line :: defines.map text ++ after) =
      front ++ (missed ++ block defines) ++ Text.terminated after := by
    rw [List.append_assoc, List.cons_append, terminated_version, hhead, Text.terminated_append,
      block_eq]
    simp only [List.append_assoc]
  have hcommute : (if front.getLast? = some '\n' then [] else ['\n']) ++ block defines ++ missed =
      missed ++ block defines := by
    rw [hexpected, between] at heq
    simp only [List.append_assoc, List.append_cancel_left_eq] at heq
    simp only [← List.append_assoc, List.append_cancel_right_eq] at heq
    exact heq
  have hfront : front.getLast? = some '\n' := by
    refine Decidable.byContradiction fun h => ?_
    have hlength := congrArg List.length hcommute
    simp [h] at hlength
    omega
  rw [if_pos hfront, List.nil_append] at hcommute
  have hlast : missed.getLast? = some '\n' := by
    have hend : (Text.terminated (before ++ [line])).getLast? = some '\n' :=
      Text.getLast?_terminated (by simp)
    rwa [hhead, List.getLast?_append_of_ne_nil _ hmissed] at hend
  obtain ⟨kept, _, hkept, rfl⟩ := Text.exists_terminated hfront
  obtain ⟨passed, hpassed, hpassedLines, rfl⟩ := Text.exists_terminated hlast
  rw [← Text.terminated_append] at hhead
  have hlines :=
    Text.terminated_injective hnewline (List.forall_mem_append.2 ⟨hkept, hpassedLines⟩) hhead
  obtain ⟨inner, last, rfl⟩ := (List.eq_nil_or_concat' passed).resolve_left hpassed
  rw [← List.append_assoc] at hlines
  obtain ⟨rfl, hlast⟩ := List.append_inj' hlines rfl
  obtain rfl : line = last := List.singleton_inj.1 hlast
  have hadded : ∀ l ∈ defines.map text, '\n' ∉ l := List.forall_mem_map.2 hdefines
  have hplain : ∀ l ∈ defines.map text, isVersion l = false :=
    List.forall_mem_map.2 fun d _ => isVersion_text d
  rw [block_eq, ← Text.terminated_append, ← Text.terminated_append] at hcommute
  have hswapped := Text.terminated_injective (List.forall_mem_append.2 ⟨hadded, hpassedLines⟩)
    (List.forall_mem_append.2 ⟨hpassedLines, hadded⟩) hcommute
  have hpassedPlain : ∀ l ∈ inner, isVersion l = false :=
    fun l hl => hbefore l (List.mem_append_right _ hl)
  exact ne_of_version_last (by simpa using hne) hplain hpassedPlain hline hswapped

end Version

/-- Where a line up to the version line ends in a carriage return, the place is in front of the end
of the version line. -/
theorem exists_missed {before after : List (List Char)} {line : List Char} {front rest : List Char}
    (hreturn : ∃ l ∈ before ++ [line], Text.endsInReturn l = true)
    (hsplit : splitAtByte? []
    (Text.byteLength (Text.terminated ((before ++ [line]).map Text.dropReturn)))
      (Text.terminated (before ++ line :: after)) = some (front, rest)) :
    ∃ missed, missed ≠ [] ∧ Text.terminated (before ++ [line]) = front ++ missed ∧
      rest = missed ++ Text.terminated after := by
  obtain ⟨taken, rfl, hparts, hlength⟩ := eq_append_of_splitAtByte? hsplit
  have hcount := Text.byteLength_terminated_map_dropReturn (before ++ [line])
  have hpos := List.countP_pos_iff.2 hreturn
  rw [terminated_version before line after] at hparts
  rcases List.append_eq_append_iff.1 hparts with ⟨extra, rfl, _⟩ | ⟨missed, hhead, hrest⟩
  · rw [Text.byteLength_append] at hlength
    omega
  · refine ⟨missed, ?_, hhead, hrest⟩
    rintro rfl
    rw [hhead, List.append_nil] at hcount
    omega

/-- Defines without newlines stand as whole lines in their place exactly if no line up to the first
version line ends in a carriage return. -/
theorem inject?_eq_placed_iff {defines : List Define} (hne : defines ≠ [])
    (hdefines : ∀ d ∈ defines, '\n' ∉ text d) {lines : List (List Char)}
    (hlines : ∀ l ∈ lines, '\n' ∉ l) :
    inject? (Text.terminated lines) defines =
      some (Text.terminated (placed (defines.map text) lines)) ↔ ¬ ReturnUpToVersion lines := by
  rcases version_cases lines with hnone | ⟨before, line, after, rfl, hbefore, hline⟩
  · have hend := versionEnd?_of_none hnone 0
    rw [inject?, if_neg hne, Text.lines_terminated hlines, hend, placed_of_none hnone,
      Text.terminated_append, block_eq]
    exact ⟨fun _ => not_returnUpToVersion_of_none hnone, fun _ => rfl⟩
  have hhead : ∀ l ∈ before ++ [line], '\n' ∉ l := by
    rw [List.append_cons] at hlines
    exact fun l hl => hlines l (List.mem_append_left _ hl)
  rw [inject?_version hne hlines hbefore hline, placed_version hbefore hline,
    returnUpToVersion_iff hbefore hline]
  constructor
  · intro hplaced hreturn
    obtain ⟨⟨front, rest⟩, hsplit, hbetween⟩ := Option.map_eq_some_iff.1 hplaced
    obtain ⟨missed, hmissed, heq, rfl⟩ := exists_missed hreturn hsplit
    exact between_ne_of_short hne hdefines hhead hbefore hline heq hmissed hbetween
  · intro h
    have haligned : ∀ l ∈ before ++ [line], Text.endsInReturn l = false :=
      fun l hl => Bool.eq_false_iff.2 fun hreturn => h ⟨l, hl, hreturn⟩
    rw [splitAtByte?_aligned haligned, Option.map_some, between_aligned]

end Define

/-! ## Preprocessing with defines -/

/-- With the defines, preprocessing does what it does without them, and puts the lines of the
defines in their place between lines that it leaves as they are. -/
structure KeepsLines (r : Resolver) (limit : Nat) (source : String) (path : Path)
    (defines : List Define) :
    Prop where
  succeeds_iff : (∃ out, (preprocess r limit defines source path).value = .ok out) ↔
    ∃ plain, (preprocess r limit [] source path).value = .ok plain
  unbroken : (preprocess r limit defines source path).value ≠ .panicked
  dependencies : ∀ out plain, (preprocess r limit defines source path).value = .ok out →
    (preprocess r limit [] source path).value = .ok plain → out.dependencies = plain.dependencies
  lines : ∀ out plain, (preprocess r limit defines source path).value = .ok out →
    (preprocess r limit [] source path).value = .ok plain →
    Text.splitOn '\n' out.code.toList =
      Define.placed (defines.map Define.text) (Text.splitOn '\n' plain.code.toList)

section

variable {r : Resolver} {limit : Nat} {source : String} {path : Path}

theorem preprocess_plain {e : Expansion} (h : r.expansion limit source path = .ok e) :
    (preprocess r limit [] source path).value =
      .ok ⟨String.ofList (Text.terminated e.lines), e.dependencies⟩ := by
  rw [value_preprocess, h]
  rfl

theorem preprocess_defines {e : Expansion} (h : r.expansion limit source path = .ok e)
    (defines : List Define) :
    (preprocess r limit defines source path).value =
      match Define.inject? (Text.terminated e.lines) defines with
      | none => .panicked
      | some code => .ok ⟨String.ofList code, e.dependencies⟩ := by
  rw [value_preprocess, h]
  rfl

/-- No line that an expansion copies has a newline in it. -/
theorem newline_not_mem_expansion {e : Expansion} (h : r.expansion limit source path = .ok e) :
    ∀ l ∈ e.lines, '\n' ∉ l := by
  have hexpands : Expands r limit (r.frame path) (Text.lines source.toList)
    (onceAfter (r.resolved path) source.toList []) e := expand_ok_iff.1 h
  exact hexpands.forall_lines (fun _ _ hl _ _ => Text.newline_not_mem_lines hl)
    fun _ hl _ _ => Text.newline_not_mem_lines hl

theorem keepsLines_of_error {defines : List Define} {e : PreprocessError}
    (h : r.expansion limit source path = .error e) : KeepsLines r limit source path defines := by
  have hfails : ∀ ds, (preprocess r limit ds source path).value = .error e := by
    intro ds
    rw [value_preprocess, h]
  refine ⟨?_, ?_, ?_, ?_⟩ <;> simp [hfails]

/-- Lines are kept exactly if the text with the defines is that of the lines in their places. -/
theorem keepsLines_iff_inject? {defines : List Define}
    (hdefines : ∀ d ∈ defines, '\n' ∉ Define.text d) {e : Expansion}
    (h : r.expansion limit source path = .ok e) :
    KeepsLines r limit source path defines ↔ Define.inject? (Text.terminated e.lines) defines =
      some (Text.terminated (Define.placed (defines.map Define.text) e.lines)) := by
  have hnewline := newline_not_mem_expansion h
  have hplaced :
    Text.splitOn '\n' (Text.terminated (Define.placed (defines.map Define.text) e.lines)) =
      Define.placed (defines.map Define.text) (Text.splitOn '\n' (Text.terminated e.lines)) := by
    rw [Text.splitOn_terminated hnewline, Define.placed_concat_nil, Text.splitOn_terminated]
    intro l hl
    rcases Define.mem_placed hl with hl | hl
    · obtain ⟨d, hd, rfl⟩ := List.mem_map.1 hl
      exact hdefines d hd
    · exact hnewline l hl
  have hplain := preprocess_plain h
  constructor
  · intro hkeeps
    obtain ⟨out, hout⟩ := hkeeps.succeeds_iff.2 ⟨_, hplain⟩
    have hlines := hkeeps.lines out _ hout hplain
    rw [preprocess_defines h] at hout
    cases hinject : Define.inject? (Text.terminated e.lines) defines with
    | none =>
      rw [hinject] at hout
      cases hout
    | some code =>
      rw [hinject] at hout
      cases hout
      simp only [String.toList_ofList] at hlines
      rw [← Text.join_splitOn '\n' code, hlines, ← hplaced, Text.join_splitOn]
  · intro hinject
    have hdefined := preprocess_defines h defines
    rw [hinject] at hdefined
    refine ⟨⟨fun _ => ⟨_, hplain⟩, fun _ => ⟨_, hdefined⟩⟩, ?_, ?_, ?_⟩
    · rw [hdefined]
      exact nofun
    · intro out plain hout hplain'
      cases hdefined.symm.trans hout
      cases hplain.symm.trans hplain'
      rfl
    · intro out plain hout hplain'
      cases hdefined.symm.trans hout
      cases hplain.symm.trans hplain'
      simpa only [String.toList_ofList] using hplaced

end

/-- Defines without newlines stand as whole lines in their place exactly if no line of the text
without them, up to its first version line, ends in a carriage return. -/
theorem defines_keep_lines_iff (finder : Finder) (files : Files) (limit : Nat)
    (source : String) (path : Path) (defines : List Define) (hne : defines ≠ [])
    (hnewline : ∀ d ∈ defines, '\n' ∉ d.1.toList ∧ '\n' ∉ d.2.toList) :
    KeepsLines (finder.resolver files) limit source path defines ↔
      ∀ plain, (preprocess (finder.resolver files) limit [] source path).value = .ok plain →
        ¬ Define.ReturnUpToVersion (Text.splitOn '\n' plain.code.toList) := by
  cases hexpansion : (finder.resolver files).expansion limit source path with
  | error e =>
    have hfails : (preprocess (finder.resolver files) limit [] source path).value = .error e := by
      rw [value_preprocess, hexpansion]
    refine iff_of_true (keepsLines_of_error hexpansion) fun plain hplain => ?_
    rw [hfails] at hplain
    cases hplain
  | ok e =>
    have hdefines : ∀ d ∈ defines, '\n' ∉ Define.text d :=
      fun d hd => Define.newline_not_mem_text (hnewline d hd)
    have hlines := newline_not_mem_expansion hexpansion
    rw [keepsLines_iff_inject? hdefines hexpansion,
      Define.inject?_eq_placed_iff hne hdefines hlines, preprocess_plain hexpansion]
    constructor
    · rintro haligned plain hplain
      cases hplain
      rwa [String.toList_ofList, Text.splitOn_terminated hlines,
        Define.returnUpToVersion_concat_nil]
    · intro haligned
      have hcode := haligned _ rfl
      rwa [String.toList_ofList, Text.splitOn_terminated hlines,
        Define.returnUpToVersion_concat_nil] at hcode

/-! ## A version line in an included file -/

namespace KeepsLines

/-- A header with the version in its second line, and a carriage return in the line behind that. -/
def versioned : MemoryFiles := .ofTexts [("v", "// é\r\n#version 450\r\nfloat x;\r\r\n")]

def overVersioned : Resolver := Finder.new.resolver versioned.files

def flags : List Define := [("A", "1"), ("B", "")]

theorem defines_keep_lines_versioned :
    flags ≠ [] ∧ (∀ d ∈ flags, '\n' ∉ d.1.toList ∧ '\n' ∉ d.2.toList) ∧
      (preprocess overVersioned 1 flags "#include <v>\nfloat y;" ⟨"m"⟩).value.map
        Preprocessed.code =
          .ok "// é\n#version 450\n#define A 1\n#define B\nfloat x;\r\nfloat y;\n" ∧
    KeepsLines overVersioned 1 "#include <v>\nfloat y;" ⟨"m"⟩ flags := by
  have hne : flags ≠ [] := by decide
  have hnewline : ∀ d ∈ flags, '\n' ∉ d.1.toList ∧ '\n' ∉ d.2.toList := by decide
  have hcode :
    (preprocess overVersioned 1 flags "#include <v>\nfloat y;" ⟨"m"⟩).value.map Preprocessed.code =
      .ok "// é\n#version 450\n#define A 1\n#define B\nfloat x;\r\nfloat y;\n" := by decide +kernel
  have hplain :
    (preprocess overVersioned 1 [] "#include <v>\nfloat y;" ⟨"m"⟩).value.map Preprocessed.code =
      .ok "// é\n#version 450\nfloat x;\r\nfloat y;\n" := by decide +kernel
  refine ⟨hne, hnewline, hcode, ?_⟩
  apply (defines_keep_lines_iff Finder.new versioned.files 1 _ _ flags hne hnewline).2
  intro plain hok
  have hok : (preprocess overVersioned 1 [] "#include <v>\nfloat y;" ⟨"m"⟩).value = .ok plain := hok
  rw [hok] at hplain
  rw [show plain.code = _ from Ending.ok.inj hplain]
  decide +kernel

/-! ## Carriage returns in front of the version line -/

def noFiles : Resolver := Finder.new.resolver MemoryFiles.empty.files

/-- Two lines with a carriage return too many, the version and a comment in it. -/
def returned (comment : String) : String :=
  "// a\r\r\n// b\r\r\n#version 450" ++ comment ++ "\nvoid main() {}\n"

/-- The defines can tear the version line, and their place can be inside a character. -/
theorem defines_can_tear_lines :
    (preprocess noFiles 64 [("A", "1")] (returned "") ⟨"m"⟩).value =
      .ok ⟨"// a\r\n// b\r\n#version 45\n#define A 1\n0\nvoid main() {}\n", []⟩ ∧
    ¬ KeepsLines noFiles 64 (returned "") ⟨"m"⟩ [("A", "1")] ∧
    (preprocess noFiles 64 [("A", "1")] (returned " // é") ⟨"m"⟩).value = .panicked ∧
    ¬ KeepsLines noFiles 64 (returned " // é") ⟨"m"⟩ [("A", "1")] := by
  have htorn : (preprocess noFiles 64 [("A", "1")] (returned "") ⟨"m"⟩).value =
      .ok ⟨"// a\r\n// b\r\n#version 45\n#define A 1\n0\nvoid main() {}\n", []⟩ := by decide +kernel
  have hplain : (preprocess noFiles 64 [] (returned "") ⟨"m"⟩).value =
      .ok ⟨"// a\r\n// b\r\n#version 450\nvoid main() {}\n", []⟩ := by decide +kernel
  have hinside : (preprocess noFiles 64 [("A", "1")] (returned " // é") ⟨"m"⟩).value =
      .panicked := by
    decide +kernel
  refine ⟨htorn, fun hkeeps => ?_, hinside, fun hkeeps => hkeeps.unbroken hinside⟩
  have hlines := hkeeps.lines _ _ htorn hplain
  revert hlines
  decide +kernel

end KeepsLines

end ShaderBuild
