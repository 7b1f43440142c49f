import ShaderBuild.Proofs.Snapshot

/-!
What an expansion comes to from a snapshot on. The texts that are open are finished from the
innermost outwards, each by the expansion of the lines that are left of it, with as many levels less
than the limit as there are texts around it. Main statements: `Snapshot.outcome_start`, by which
this is the expansion of the source text at the start, and `Snapshot.Leads.outcome_eq`, by which no
turn changes it.
-/

namespace ShaderBuild

/-! ## The rest of a text -/

namespace OpenText

/-- What the lines that are left of a text expand to. The depth of the text is the number of texts
around it. -/
def result (r : Resolver) (limit : Nat) (outer : List OpenText) (once : List Path) (t : OpenText) :
    Except PreprocessError Expansion :=
  (expandLines r limit (enterAt r limit (limit - outer.length)) (t.frame outer) t.number
    t.rest once).value

variable {r : Resolver} {limit : Nat} {outer : List OpenText} {t : OpenText} {line : List Char}
  {rest : List (List Char)} {once : List Path}

theorem result_finished (h : t.rest = []) : t.result r limit outer once = .ok ⟨[], [], once⟩ := by
  rw [result, h, expandLines]
  rfl

theorem result_passed (h : t.rest = line :: rest) : t.passed.result r limit outer once =
    (expandLines r limit (enterAt r limit (limit - outer.length)) (t.frame outer)
    (t.number + 1) rest once).value := by
  rw [result, rest_passed h]
  rfl

theorem result_drop (h : t.Asks r limit (t.frame outer).stack once .drop) :
    t.result r limit outer once = (t.passed.result r limit outer once).map (·.prepend [] []) := by
  cases h with
  | drop more other once? =>
    have hid : (·.prepend [] [] : Expansion → Expansion) = id := rfl
    rw [hid, Except.map_id, id_eq, result_passed more, result, more]
    simp only [value_expandLines_cons, other, once?, if_true]

theorem result_copy (h : t.Asks r limit (t.frame outer).stack once (.copy line)) :
    t.result r limit outer once =
      (t.passed.result r limit outer once).map (·.prepend [line] []) := by
  cases h with
  | copy more other plain =>
    rw [result_passed more, result, more]
    simp [value_expandLines_cons, other, plain]

theorem result_skip {i : Inclusion} (h : t.Asks r limit (t.frame outer).stack once (.skip i)) :
    t.result r limit outer once =
      (t.passed.result r limit outer once).map (·.prepend [] [i.dependency]) := by
  cases h with
  | skip meets fresh seen =>
    obtain ⟨more, request, found⟩ := meets
    rw [result_passed more, result, more]
    simp [value_expandLines_cons, request, found, fresh, seen, Inclusion.dependency]

/-- The lines of an include are one level deeper. -/
theorem result_opening (t : OpenText) (outer : List OpenText) (once : List Path)
    (text : IncludeText) :
    (opening text.path text).result r limit (t :: outer) once =
      (expand r limit (limit - (outer.length + 1)) ((t.frame outer).enter text.path)
        (Text.lines text.contents.toList) once).value := by
  rw [expand_eq]
  rfl

theorem result_enter {i : Inclusion} (h : t.Asks r limit (t.frame outer).stack once (.enter i)) :
    t.result r limit outer once = ((opening i.text.path i.text).result r limit (t.passed :: outer)
      (onceAfter i.text.path i.text.contents.toList once)).bind fun inner =>
        (t.passed.result r limit outer inner.once).map
          (·.prepend inner.lines (i.dependency :: inner.dependencies)) := by
  cases h with
  | @enter i meets fresh new room =>
    obtain ⟨more, request, found⟩ := meets
    rw [length_stack] at room
    have hroom : limit - outer.length = limit - (outer.length + 1) + 1 := by omega
    have hframe : t.passed.frame outer = t.frame outer := rfl
    simp only [result_passed more]
    rw [result, more, hroom, result_opening, hframe]
    simp only [value_expandLines_cons, request, dir_frame, found, fresh, new,
      Bool.false_eq_true, if_false]
    cases (expand r limit (limit - (outer.length + 1)) _ _ _).value <;> rfl

theorem result_stop {e : PreprocessError} (h : t.Asks r limit (t.frame outer).stack once (.stop e))
    (hdepth : outer.length ≤ limit) : t.result r limit outer once = .error e := by
  cases h with
  | malformed more malformed =>
    rw [result, more]
    simp [value_expandLines_cons, malformed]
  | notFound more request missing =>
    rw [result, more]
    simp [value_expandLines_cons, request, missing]
  | recursive meets hopen =>
    obtain ⟨more, request, found⟩ := meets
    rw [result, more]
    simp [value_expandLines_cons, request, found, hopen]
  | tooDeep meets fresh new full =>
    obtain ⟨more, request, found⟩ := meets
    rw [length_stack] at full
    have hroom : limit - outer.length = 0 := by omega
    rw [result, more, hroom]
    simp [value_expandLines_cons, request, found, fresh, new]

end OpenText

/-! ## Open texts -/

/-- Finishes the open texts, innermost first, behind what has come of the expansion so far. -/
def finish (r : Resolver) (limit : Nat) :
    List OpenText → Expansion → Except PreprocessError Expansion
  | [], sofar => .ok sofar
  | t :: outer, sofar =>
    (t.result r limit outer sofar.once).bind fun inner =>
      finish r limit outer (sofar.followedBy inner)

namespace Snapshot

/-- What the expansion comes to. -/
def outcome (r : Resolver) (limit : Nat) (s : Snapshot) : Except PreprocessError Expansion :=
  finish r limit s.levels s.sofar

variable {r : Resolver} {limit : Nat} {s s' : Snapshot} {t : OpenText} {outer : List OpenText}

theorem outcome_eq (hlevels : s.levels = t :: outer) : s.outcome r limit =
    (t.result r limit outer s.sofar.once).bind fun inner =>
    finish r limit outer (s.sofar.followedBy inner) := by
  rw [outcome, hlevels, finish]

theorem stack_eq (hlevels : s.levels = t :: outer) : s.stack = (t.frame outer).stack := by
  rw [stack, hlevels, OpenText.frame]

theorem outcome_pass (hlevels : s.levels = t :: outer) {lines : List (List Char)}
    {dependencies : List Dependency} (h : t.result r limit outer s.sofar.once =
      (t.passed.result r limit outer s.sofar.once).map (·.prepend lines dependencies)) :
    (s.pass t outer lines dependencies).outcome r limit = s.outcome r limit := by
  have honce : (s.pass t outer lines dependencies).sofar.once = s.sofar.once := rfl
  rw [outcome_eq hlevels, h, outcome_eq rfl, honce]
  cases t.passed.result r limit outer s.sofar.once with
  | error e => rfl
  | ok inner =>
    show finish r limit outer _ =
        finish r limit outer (s.sofar.followedBy (inner.prepend lines dependencies))
    rw [Expansion.followedBy_prepend]
    rfl

theorem outcome_leave (hlevels : s.levels = t :: outer) (h : t.rest = []) :
    ({ s with levels := outer } : Snapshot).outcome r limit = s.outcome r limit := by
  rw [outcome_eq hlevels, OpenText.result_finished h, outcome]
  show _ = finish r limit outer _
  rw [Expansion.followedBy, List.append_nil, List.append_nil]

theorem outcome_begin (hlevels : s.levels = t :: outer) {i : Inclusion}
    (h : t.Asks r limit (t.frame outer).stack s.sofar.once (.enter i)) :
    (s.begin t outer i).outcome r limit = s.outcome r limit := by
  have honce : (s.begin t outer i).sofar.once =
      onceAfter i.text.path i.text.contents.toList s.sofar.once := rfl
  rw [outcome_eq hlevels, OpenText.result_enter h, outcome_eq rfl, honce]
  cases (OpenText.opening i.text.path i.text).result r limit (t.passed :: outer)
    (onceAfter i.text.path i.text.contents.toList s.sofar.once) with
  | error e => rfl
  | ok inner =>
    show (t.passed.result r limit outer inner.once).bind _ =
        ((t.passed.result r limit outer inner.once).map _).bind _
    cases t.passed.result r limit outer inner.once with
    | error e => rfl
    | ok e => exact congrArg (finish r limit outer) (s.followedBy_begin t outer i inner e)

/-- No turn changes what the expansion comes to. -/
theorem outcome_next (h : s.next r limit = some s') : s'.outcome r limit = s.outcome r limit := by
  rw [next] at h
  split at h
  · cases h
  rename_i t outer hlevels
  rw [stack_eq hlevels] at h
  have hasks := t.asks_turn r limit (t.frame outer).stack s.sofar.once
  generalize t.turn r limit (t.frame outer).stack s.sofar.once = turn at h hasks
  cases turn with
  | leave =>
    cases h
    cases hasks with
    | leave finished => exact outcome_leave hlevels finished
  | drop =>
    cases h
    exact outcome_pass hlevels (OpenText.result_drop hasks)
  | copy line =>
    cases h
    exact outcome_pass hlevels (OpenText.result_copy hasks)
  | skip i =>
    cases h
    exact outcome_pass hlevels (OpenText.result_skip hasks)
  | enter i =>
    cases h
    exact outcome_begin hlevels hasks
  | stop e => cases h

theorem outcome_stop {e : PreprocessError} (h : s.turn r limit = some (.stop e))
    (hdepth : s.stack.length ≤ limit + 1) : s.outcome r limit = .error e := by
  obtain ⟨t, outer, hlevels, hasks⟩ := asks_of_turn h
  rw [stack_eq hlevels] at hasks hdepth
  rw [OpenText.length_stack] at hdepth
  rw [outcome_eq hlevels, OpenText.result_stop hasks (Nat.le_of_succ_le_succ hdepth)]
  rfl

theorem outcome_start (r : Resolver) (limit : Nat) (source : String) (path : Path) :
    (start r source path).outcome r limit = r.expansion limit source path := by
  have hresult : (OpenText.opening path ⟨r.resolved path, source⟩).result r limit []
      (onceAfter (r.resolved path) source.toList []) = r.expansion limit source path := by
    rw [Resolver.expansion, expand_eq]
    rfl
  have houtcome : (start r source path).outcome r limit = _ := outcome_eq rfl
  rw [houtcome, start, hresult]
  cases r.expansion limit source path <;> rfl

theorem Leads.outcome_eq (h : Leads r limit s s') : s'.outcome r limit = s.outcome r limit := by
  induction h with
  | refl => rfl
  | tail _ hnext ih => exact (outcome_next hnext).trans ih

end Snapshot

end ShaderBuild
