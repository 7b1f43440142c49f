import Mathlib.Logic.Relation
import ShaderBuild.Proofs.Snapshot

/-!
What an expansion goes through that finishes. Main statements: `Leads.comes_up`, by which every line
of an open text is the next line of that text at some moment, and `Leads.exists_meets`, by which
every recorded include is met at some moment. What has been copied at a moment stays at the front of
the result (`Leads.copied_stays`).
-/

namespace ShaderBuild.Snapshot

open Relation (ReflTransGen)

variable {r : Resolver} {limit : Nat} {s s' f : Snapshot} {t : OpenText} {outer : List OpenText}

/-! ## The way to the end -/

theorem next_of_nil (hf : f.levels = []) : f.next r limit = none := by
  rw [next, hf]

/-- Every moment of a run comes before its end. -/
theorem Leads.before_end {first : Snapshot} (hs : Leads r limit first s)
    (hend : Leads r limit first f) (hf : f.levels = []) : Leads r limit s f := by
  have hright : Relator.RightUnique fun s s' : Snapshot => s.next r limit = some s' :=
    fun _ _ _ h h' => Option.some.inj (h.symm.trans h')
  rcases ReflTransGen.total_of_right_unique hright hs hend with h | h
  · exact h
  · -- No turn leads out of the end.
    rcases h.cases_head with rfl | ⟨s', hnext, _⟩
    · exact .refl
    · rw [next_of_nil hf] at hnext
      cases hnext

/-- A run that finishes goes on while a text is open. -/
theorem Leads.exists_next (h : Leads r limit s f) (hf : f.levels = [])
    (hlevels : s.levels = t :: outer) :
    ∃ s', s.next r limit = some s' ∧ Leads r limit s' f := by
  rcases h.cases_head with rfl | hnext
  · rw [hf] at hlevels
    cases hlevels
  · exact hnext

theorem Step.copied_stays (h : s.Step r limit s') : s.sofar.lines <+: s'.sofar.lines := by
  cases h with
  | leave _ _ => exact List.prefix_refl _
  | pass _ _ lines _ => exact List.prefix_append _ lines
  | enter _ _ _ _ _ => exact List.prefix_refl _

/-- What has been copied stays in front. -/
theorem Leads.copied_stays (h : Leads r limit s f) : s.sofar.lines <+: f.sofar.lines := by
  induction h with
  | refl => exact List.prefix_refl _
  | tail _ hnext ih => exact ih.trans (step_of_next hnext).copied_stays

/-! ## Lines -/

/-- A line of a text that is open, possibly with others inside it, comes up with the same texts
around. -/
theorem Leads.comes_up_inside (h : Leads r limit s f) (hf : f.levels = []) (inner : List OpenText)
    {before : List (List Char)} {line : List Char} {rest : List (List Char)}
    (hlevels : s.levels = inner ++ t :: outer) (hrest : t.rest = before ++ line :: rest) :
    ∃ s', Leads r limit s s' ∧ Leads r limit s' f ∧
      s'.levels = t.behind before.length (line :: rest) :: outer := by
  induction h using ReflTransGen.head_induction_on generalizing t inner before with
  | refl =>
    rw [hf] at hlevels
    simp at hlevels
  | @head s s₁ hnext htail ih =>
    -- Texts inside are expanded first, then the lines before; either way one turn comes closer.
    have hlater {t' : OpenText} {before' : List (List Char)} (inner' : List OpenText)
        (hlevels' : s₁.levels = inner' ++ t' :: outer) (hrest' : t'.rest =
          before' ++ line :: rest) :
        ∃ s', Leads r limit s s' ∧ Leads r limit s' f ∧
          s'.levels = t'.behind before'.length (line :: rest) :: outer := by
      obtain ⟨s', hleads, hend⟩ := ih inner' hlevels' hrest'
      exact ⟨s', .head hnext hleads, hend⟩
    cases inner with
    | nil =>
      cases before with
      | nil =>
        have hsame : t.behind 0 (line :: rest) = t := by
          rw [← show t.rest = line :: rest from hrest]
          rfl
        exact ⟨_, .refl, .head hnext htail, by rw [hlevels, List.length_nil, hsame,
          List.nil_append]⟩
      | cons first before =>
        have hpassed : t.passed.rest = before ++ line :: rest := OpenText.rest_passed hrest
        rw [List.length_cons, ← OpenText.behind_passed]
        cases step_of_next hnext with
        | leave levels finished =>
          cases levels.symm.trans hlevels
          rw [finished] at hrest
          cases hrest
        | pass levels _ _ _ =>
          cases levels.symm.trans hlevels
          exact hlater [] rfl hpassed
        | enter levels _ _ _ _ =>
          cases levels.symm.trans hlevels
          exact hlater [_] rfl hpassed
    | cons u inner =>
      cases step_of_next hnext with
      | leave levels _ =>
        cases levels.symm.trans hlevels
        exact hlater inner rfl hrest
      | pass levels _ _ _ =>
        cases levels.symm.trans hlevels
        exact hlater (u.passed :: inner) rfl hrest
      | enter levels _ _ _ _ =>
        cases levels.symm.trans hlevels
        exact hlater (_ :: u.passed :: inner) rfl hrest

/-- Every line of the innermost text comes up. -/
theorem Leads.comes_up (h : Leads r limit s f) (hf : f.levels = []) {before : List (List Char)}
    {line : List Char} {rest : List (List Char)} (hlevels : s.levels = t :: outer)
    (hrest : t.rest = before ++ line :: rest) :
    ∃ s', Leads r limit s s' ∧ Leads r limit s' f ∧
      s'.levels = t.behind before.length (line :: rest) :: outer :=
  h.comes_up_inside hf [] hlevels hrest

/-! ## Includes -/

/-- One turn records the include that it meets and nothing else. -/
theorem dependencies_next (h : s.next r limit = some s') :
    s'.sofar.dependencies = s.sofar.dependencies ∨
      ∃ t outer i, s.levels = t :: outer ∧ t.Meets r i ∧ s'.sofar.dependencies =
        s.sofar.dependencies ++ [i.dependency] := by
  rw [next] at h
  split at h
  · cases h
  rename_i t outer hlevels
  have hasks := t.asks_turn r limit s.stack s.sofar.once
  generalize t.turn r limit s.stack s.sofar.once = turn at h hasks
  cases turn with
  | leave =>
    cases h
    exact .inl rfl
  | drop =>
    cases h
    exact .inl (List.append_nil _)
  | copy line =>
    cases h
    exact .inl (List.append_nil _)
  | skip i =>
    cases h
    cases hasks with
    | skip meets _ _ => exact .inr ⟨t, outer, i, hlevels, meets, rfl⟩
  | enter i =>
    cases h
    cases hasks with
    | enter meets _ _ _ => exact .inr ⟨t, outer, i, hlevels, meets, rfl⟩
  | stop e => cases h

/-- Every include on the record was met at the moment when the record was as long as its place in
it. -/
theorem Leads.exists_meets (h : Leads r limit s f) (hs : s.sofar.dependencies = []) {place : Nat}
    {d : Dependency} (hd : f.sofar.dependencies[place]? = some d) :
    ∃ m t outer i, Leads r limit s m ∧ m.sofar.dependencies.length = place ∧ m.levels = t :: outer ∧
      t.Meets r i ∧ i.dependency = d := by
  induction h with
  | refl =>
    rw [hs] at hd
    cases hd
  | tail hm hnext ih =>
    rcases dependencies_next hnext with hsame | ⟨t, outer, i, hlevels, meets, hmore⟩
    · exact ih (hsame ▸ hd)
    · rw [hmore, List.getElem?_append] at hd
      split at hd
      · exact ih hd
      · obtain ⟨hplace, hlast⟩ := List.getElem?_eq_some_iff.1 hd
        rw [List.length_singleton] at hplace
        exact ⟨_, t, outer, i, hm, by omega, hlevels, meets, by simpa using hlast⟩

end ShaderBuild.Snapshot
