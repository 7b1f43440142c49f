import Mathlib.Data.List.Perm.Subperm
import Mathlib.Logic.Function.Iterate
import ShaderBuild.Include.Pattern

/-!
What the search for an expression finds. The matches of an expression are a relation between the
positions of a text, given by recursion on the expression. Main statements: `accepts_iff`, by which
a pattern accepts a text exactly if some part of it matches, and `accepts_whole_of_reads`, by which
a pattern for whole texts accepts what its expression reads.
-/

namespace ShaderBuild

namespace Regex

/-! ## Matches -/

/-- Positions that `n` steps of a relation lead from one to the other. -/
def Steps (R : Nat → Nat → Prop) : (n : Nat) → Nat → Nat → Prop
  | 0, i, j => j = i
  | n + 1, i, k => ∃ j, R i j ∧ Steps R n j k

mutual

/-- The text between two positions matches the expression. -/
def Spans (text : Array Char) : Regex → Nat → Nat → Prop
  | empty, i, j => j = i
  | literal cs, i, j => cs <+: text.toList.drop i ∧ j = i + cs.length
  | set s _, i, j => (∃ c, text[i]? = some c ∧ s.contains c = true) ∧ j = i + 1
  | anchor a, i, j => a.holds text i = true ∧ j = i
  | group _ r, i, j => Spans text r i j
  | seq rs, i, j => SpansAll text rs i j
  | either rs, i, j => SpansAny text rs i j
  | times r least most _, i, j =>
    ∃ n, (least ≤ n ∧ ∀ m, most = some m → n ≤ max least m) ∧ Steps (Spans text r) n i j

/-- One expression after the other matches. -/
def SpansAll (text : Array Char) : List Regex → Nat → Nat → Prop
  | [], i, j => j = i
  | r :: rs, i, k => ∃ j, Spans text r i j ∧ SpansAll text rs j k

/-- One of the expressions matches. -/
def SpansAny (text : Array Char) : List Regex → Nat → Nat → Prop
  | [], _, _ => False
  | r :: rs, i, j => Spans text r i j ∨ SpansAny text rs i j

end

theorem literalAt_iff (text : Array Char) (i : Nat) (cs : List Char) :
    literalAt text i cs = true ↔ cs <+: text.toList.drop i := by
  induction cs generalizing i with
  | nil => simp [literalAt]
  | cons c cs ih =>
    rw [literalAt, Bool.and_eq_true, beq_iff_eq, ih (i + 1), ← Array.getElem?_toList]
    by_cases hi : i < text.toList.length
    · rw [List.getElem?_eq_getElem hi, List.drop_eq_getElem_cons hi, List.cons_prefix_cons,
        Option.some.injEq, eq_comm]
    · rw [List.getElem?_eq_none (Nat.le_of_not_lt hi), List.drop_eq_nil_of_le (Nat.le_of_not_lt hi)]
      simp

/-! ## Steps -/

namespace Steps

variable {R : Nat → Nat → Prop} {n : Nat} {i j k : Nat}

theorem append {m : Nat} (hfirst : Steps R m i j) (hthen : Steps R n j k) :
    Steps R (m + n) i k := by
  induction m generalizing i with
  | zero =>
    obtain rfl := hfirst
    rwa [Nat.zero_add]
  | succ m ih =>
    obtain ⟨next, hstep, hfirst⟩ := hfirst
    rw [Nat.succ_add]
    exact ⟨next, hstep, ih hfirst⟩

theorem split {m : Nat} (h : Steps R (m + n) i k) : ∃ j, Steps R m i j ∧ Steps R n j k := by
  induction m generalizing i with
  | zero => exact ⟨i, rfl, by rwa [Nat.zero_add] at h⟩
  | succ m ih =>
    rw [Nat.succ_add] at h
    obtain ⟨next, hstep, h⟩ := h
    obtain ⟨j, hfirst, hthen⟩ := ih h
    exact ⟨j, ⟨next, hstep, hfirst⟩, hthen⟩

/-- Steps that leave some positions leave them for others with fewer steps to go. -/
theorem leaves {inside outside : List Nat}
    (hstep : ∀ i ∈ inside, ∀ j, R i j → j ∈ inside ∨ j ∈ outside) (hi : i ∈ inside)
    (h : Steps R n i j) : j ∈ inside ∨ ∃ x ∈ outside, ∃ m < n, Steps R m x j := by
  induction n generalizing i with
  | zero =>
    obtain rfl := h
    exact .inl hi
  | succ n ih =>
    obtain ⟨next, hnext, h⟩ := h
    rcases hstep i hi next hnext with hin | hout
    · rcases ih hin h with hj | ⟨x, hx, m, hm, hsteps⟩
      · exact .inl hj
      · exact .inr ⟨x, hx, m, Nat.lt_succ_of_lt hm, hsteps⟩
    · exact .inr ⟨next, hout, n, Nat.lt_succ_self n, h⟩

theorem stays {inside : List Nat} (hstep : ∀ i ∈ inside, ∀ j, R i j → j ∈ inside) (hi : i ∈ inside)
    (h : Steps R n i j) : j ∈ inside := by
  have hnowhere : ∀ i ∈ inside, ∀ j, R i j → j ∈ inside ∨ j ∈ ([] : List Nat) :=
    fun i hi j hij => .inl (hstep i hi j hij)
  rcases leaves hnowhere hi h with hj | ⟨x, hx, _⟩
  · exact hj
  · cases hx

end Steps

/-! ## Sets of positions -/

/-- Positions of a text of some size in descending order. -/
structure Places (size : Nat) (xs : List Nat) : Prop where
  descending : xs.Pairwise (· > ·)
  le_size : ∀ i ∈ xs, i ≤ size

namespace Places

variable {size : Nat} {xs ys : List Nat}

theorem nil : Places size [] := ⟨.nil, nofun⟩

theorem sublist (h : Places size ys) (hsub : xs.Sublist ys) : Places size xs :=
  ⟨h.descending.sublist hsub, fun i hi => h.le_size i (hsub.subset hi)⟩

theorem nodup (h : Places size xs) : xs.Nodup := h.descending.imp fun hlt => Nat.ne_of_gt hlt

theorem length_le (h : Places size xs) : xs.length ≤ size + 1 := by
  have hsub : xs ⊆ List.range (size + 1) :=
    fun i hi => List.mem_range.2 (Nat.lt_succ_of_le (h.le_size i hi))
  simpa using (h.nodup.subperm hsub).length_le

end Places

@[simp]
theorem mem_union {xs ys : List Nat} {i : Nat} : i ∈ union xs ys ↔ i ∈ xs ∨ i ∈ ys := by
  fun_induction union xs ys with grind

theorem Places.union {size : Nat} {xs ys : List Nat} (hx : Places size xs) (hy : Places size ys) :
    Places size (union xs ys) := by
  constructor
  · obtain ⟨hx, _⟩ := hx
    obtain ⟨hy, _⟩ := hy
    fun_induction Regex.union xs ys with
    | case1 ys => exact hy
    | case2 xs => exact hx
    | case3 x xs ys ih => grind [List.pairwise_cons, mem_union]
    | case4 x xs y ys hne hlt ih => grind [List.pairwise_cons, mem_union]
    | case5 x xs y ys hne hle ih => grind [List.pairwise_cons, mem_union]
  · intro i hi
    exact (mem_union.1 hi).elim (hx.le_size i) (hy.le_size i)

theorem without_sublist (xs ys : List Nat) : (without xs ys).Sublist xs := by
  fun_induction without xs ys with grind

theorem mem_without {xs ys : List Nat} (hx : xs.Pairwise (· > ·)) (hy : ys.Pairwise (· > ·))
    {i : Nat} :
    i ∈ without xs ys ↔ i ∈ xs ∧ i ∉ ys := by
  fun_induction without xs ys with grind [List.pairwise_cons]

/-! ## Steps of sets -/

/-- On sets of positions, a step leads from all positions at once to all that a relation leads
to. -/
structure Computes (size : Nat) (step : List Nat → List Nat) (R : Nat → Nat → Prop) : Prop where
  places : ∀ {starts}, Places size starts → Places size (step starts)
  mem_iff : ∀ {starts}, Places size starts → ∀ {j}, j ∈ step starts ↔ ∃ i ∈ starts, R i j

namespace Computes

variable {size : Nat} {step next : List Nat → List Nat} {R S : Nat → Nat → Prop}

theorem congr (h : Computes size step R) (hRS : ∀ i j, R i j ↔ S i j) : Computes size step S := by
  obtain rfl : R = S := funext fun i => funext fun j => propext (hRS i j)
  exact h

theorem stay : Computes size (fun starts => starts) fun i j => j = i := ⟨id, by simp⟩

theorem fail : Computes size (fun _ => []) fun _ _ => False := ⟨fun _ => .nil, by simp⟩

theorem comp (hstep : Computes size step R) (hnext : Computes size next S) :
    Computes size (fun starts => next (step starts)) fun i k => ∃ j, R i j ∧ S j k := by
  constructor
  · intro starts hstarts
    exact hnext.places (hstep.places hstarts)
  · intro starts hstarts k
    rw [hnext.mem_iff (hstep.places hstarts)]
    simp only [hstep.mem_iff hstarts]
    grind

theorem union (hstep : Computes size step R) (hnext : Computes size next S) :
    Computes size (fun starts => Regex.union (step starts) (next starts)) fun i j =>
      R i j ∨ S i j := by
  constructor
  · intro starts hstarts
    exact (hstep.places hstarts).union (hnext.places hstarts)
  · intro starts hstarts j
    rw [mem_union, hstep.mem_iff hstarts, hnext.mem_iff hstarts]
    grind

/-- From the positions where `p` holds, all go on by the same number of characters. -/
theorem advance {p : Nat → Prop} [DecidablePred p] {n : Nat}
    (hp : ∀ i, i ≤ size → p i → i + n ≤ size) :
    Computes size (fun starts => starts.filterMap fun i => if p i then some (i + n) else none)
      fun i j => p i ∧ j = i + n := by
  constructor
  · intro starts hstarts
    constructor
    · refine List.Pairwise.filterMap _ ?_ hstarts.descending
      grind
    · intro j hj
      obtain ⟨i, hi, hij⟩ := List.mem_filterMap.1 hj
      have := hp i (hstarts.le_size i hi)
      grind
  · intro starts _ j
    grind

/-! ### Repetition -/

theorem iterate (h : Computes size step R) (n : Nat) : Computes size step^[n] (Steps R n) := by
  induction n with
  | zero => exact stay
  | succ n ih => exact h.comp ih

end Computes

theorem afterSteps_eq (step : List Nat → List Nat) (n : Nat) (starts : List Nat) :
    afterSteps step n starts = step^[n] starts := by
  induction n generalizing starts with
  | zero => rfl
  | succ n ih =>
    rw [afterSteps, Function.iterate_succ_apply]
    split
    · -- Where a step changes nothing, no number of steps does.
      rename_i hfixed
      rw [hfixed, Function.iterate_fixed hfixed]
    · exact ih (step starts)

/-- A search in breadth: it has followed all positions that it found but the newest. -/
structure Frontier (size : Nat) (R : Nat → Nat → Prop) (found newest : List Nat) : Prop where
  places : Places size found
  places_newest : Places size newest
  sub : newest ⊆ found
  followed : ∀ i ∈ found, i ∉ newest → ∀ j, R i j → j ∈ found

namespace Frontier

variable {size : Nat} {step : List Nat → List Nat} {R : Nat → Nat → Prop} {found newest : List Nat}

theorem start {starts : List Nat} (h : Places size starts) : Frontier size R starts starts :=
  ⟨h, h, List.Subset.refl starts, fun _ hi hni => absurd hi hni⟩

theorem mem_fresh (h : Frontier size R found newest) (hstep : Computes size step R) {j : Nat} :
    j ∈ without (step newest) found ↔ (∃ i ∈ newest, R i j) ∧ j ∉ found := by
  rw [mem_without (hstep.places h.places_newest).descending h.places.descending,
    hstep.mem_iff h.places_newest]

theorem step_found (h : Frontier size R found newest) (hstep : Computes size step R) :
    ∀ i ∈ found, ∀ j, R i j → j ∈ found ∨ j ∈ without (step newest) found := by
  intro i hi j hij
  rw [h.mem_fresh hstep]
  by_cases hnewest : i ∈ newest
  · grind
  · exact .inl (h.followed i hi hnewest j hij)

theorem next (h : Frontier size R found newest) (hstep : Computes size step R) :
    Frontier size R (union (without (step newest) found) found) (without (step newest) found) := by
  have hfresh : Places size (without (step newest) found) :=
    (hstep.places h.places_newest).sublist (without_sublist _ _)
  refine ⟨hfresh.union h.places, hfresh, fun i hi => mem_union.2 (.inl hi), ?_⟩
  intro i hi hold j hij
  have hfound : i ∈ found := (mem_union.1 hi).resolve_left hold
  exact mem_union.2 (h.step_found hstep i hfound j hij).symm

theorem places_reach (h : Frontier size R found newest) (hstep : Computes size step R) (n : Nat) :
    Places size (reach step n found newest) := by
  induction n generalizing found newest with
  | zero => exact h.places
  | succ n ih =>
    rw [reach]
    split
    · exact h.places
    · exact ih (h.next hstep)

theorem subset_reach (h : Frontier size R found newest) (hstep : Computes size step R) (n : Nat) :
    found ⊆ reach step n found newest := by
  induction n generalizing found newest with
  | zero => exact List.Subset.refl found
  | succ n ih =>
    rw [reach]
    split
    · exact List.Subset.refl found
    · exact fun i hi => ih (h.next hstep) (mem_union.2 (.inr hi))

theorem exists_steps_of_mem_reach (h : Frontier size R found newest) (hstep : Computes size step R)
    {n j : Nat} (hj : j ∈ reach step n found newest) :
    j ∈ found ∨ ∃ i ∈ newest, ∃ k ≤ n, Steps R k i j := by
  induction n generalizing found newest with
  | zero => exact .inl hj
  | succ n ih =>
    rw [reach] at hj
    split at hj
    · exact .inl hj
    · rcases ih (h.next hstep) hj with hj | ⟨x, hx, k, hk, hsteps⟩
      · rcases mem_union.1 hj with hj | hj
        · obtain ⟨⟨i, hi, hij⟩, _⟩ := (h.mem_fresh hstep).1 hj
          exact .inr ⟨i, hi, 1, by omega, j, hij, rfl⟩
        · exact .inl hj
      · obtain ⟨⟨i, hi, hix⟩, _⟩ := (h.mem_fresh hstep).1 hx
        exact .inr ⟨i, hi, k + 1, by omega, x, hix, hsteps⟩

theorem mem_reach_of_steps (h : Frontier size R found newest) (hstep : Computes size step R)
    {n i j k : Nat} (hi : i ∈ newest) (hk : k ≤ n) (hsteps : Steps R k i j) :
    j ∈ reach step n found newest := by
  induction n generalizing found newest i k with
  | zero =>
    obtain rfl := Nat.le_zero.1 hk
    obtain rfl := hsteps
    exact h.sub hi
  | succ n ih =>
    -- The steps stay among what was found, or leave it for a fresh position with fewer steps to go.
    rcases Steps.leaves (h.step_found hstep) (h.sub hi) hsteps with hj | ⟨x, hx, m, hm, hsteps⟩
    · exact h.subset_reach hstep _ hj
    · rw [reach]
      split
      · rename_i hnone
        rw [hnone] at hx
        cases hx
      · exact ih (h.next hstep) hx (by omega) hsteps

/-- A search long enough to find all positions of the text one by one ends with nothing left to
follow. -/
theorem step_reach (h : Frontier size R found newest) (hstep : Computes size step R) (n : Nat)
    (hlong : size + 1 < n + found.length) :
    ∀ i ∈ reach step n found newest, ∀ j, R i j → j ∈ reach step n found newest := by
  induction n generalizing found newest with
  | zero =>
    have := h.places.length_le
    omega
  | succ n ih =>
    rw [reach]
    split
    · -- Nothing fresh was found, so nothing leads out of what was.
      rename_i hnone
      intro i hi j hij
      have hstep_found := h.step_found hstep i hi j hij
      rw [hnone] at hstep_found
      exact hstep_found.resolve_right nofun
    · -- Something fresh was found, so one round less is left for one position more.
      rename_i hsome
      obtain ⟨x, hx⟩ := List.exists_mem_of_ne_nil _ hsome
      have hnew : (x :: found).Nodup :=
        List.nodup_cons.2 ⟨((h.mem_fresh hstep).1 hx).2, h.places.nodup⟩
      have hsub : x :: found ⊆ union (without (step newest) found) found := by
        intro i hi
        rcases List.mem_cons.1 hi with rfl | hi
        · exact mem_union.2 (.inl hx)
        · exact mem_union.2 (.inr hi)
      have hlength := (hnew.subperm hsub).length_le
      rw [List.length_cons] at hlength
      exact ih (h.next hstep) (by omega)

end Frontier

namespace Computes

variable {size : Nat} {step : List Nat → List Nat} {R : Nat → Nat → Prop}

theorem bounded (h : Computes size step R) (n : Nat) :
    Computes size (fun starts => reach step n starts starts) fun i j => ∃ k ≤ n, Steps R k i j := by
  constructor
  · intro starts hstarts
    exact (Frontier.start hstarts).places_reach h n
  · intro starts hstarts j
    constructor
    · intro hj
      rcases (Frontier.start hstarts).exists_steps_of_mem_reach h hj with hj | hj
      · exact ⟨j, hj, 0, Nat.zero_le n, rfl⟩
      · exact hj
    · rintro ⟨i, hi, k, hk, hsteps⟩
      exact (Frontier.start hstarts).mem_reach_of_steps h hi hk hsteps

theorem unbounded (h : Computes size step R) :
    Computes size (fun starts => reach step (size + 1) starts starts) fun i j =>
      ∃ k, Steps R k i j := by
  constructor
  · exact (h.bounded (size + 1)).places
  · intro starts hstarts j
    constructor
    · intro hj
      obtain ⟨i, hi, k, _, hsteps⟩ := ((h.bounded (size + 1)).mem_iff hstarts).1 hj
      exact ⟨i, hi, k, hsteps⟩
    · rintro ⟨i, hi, k, hsteps⟩
      have hstart : Frontier size R starts starts := .start hstarts
      have hsize : 0 < starts.length := List.length_pos_of_mem hi
      exact hsteps.stays (hstart.step_reach h (size + 1) (by omega)) (hstart.subset_reach h _ hi)

/-- What `times` computes of one repetition. -/
theorem times (h : Computes size step R) (least : Nat) (most : Option Nat) :
    Computes size (fun starts =>
        let first := afterSteps step least starts
        let extra := match most with
          | some m => m - least
          | none => size + 1
        reach step extra first first)
      fun i j => ∃ n, (least ≤ n ∧ ∀ m, most = some m → n ≤ max least m) ∧ Steps R n i j := by
  simp only [afterSteps_eq]
  cases most with
  | some m =>
    refine ((h.iterate least).comp (h.bounded (m - least))).congr fun i j => ?_
    constructor
    · rintro ⟨x, hfirst, k, hk, hthen⟩
      refine ⟨least + k, ⟨by omega, ?_⟩, hfirst.append hthen⟩
      intro m' hm
      obtain rfl := Option.some.inj hm
      omega
    · rintro ⟨n, ⟨hleast, hmost⟩, hsteps⟩
      have hmost := hmost m rfl
      obtain ⟨k, rfl⟩ := Nat.exists_eq_add_of_le hleast
      obtain ⟨x, hfirst, hthen⟩ := hsteps.split
      exact ⟨x, hfirst, k, by omega, hthen⟩
  | none =>
    refine ((h.iterate least).comp h.unbounded).congr fun i j => ?_
    constructor
    · rintro ⟨x, hfirst, k, hthen⟩
      exact ⟨least + k, ⟨by omega, nofun⟩, hfirst.append hthen⟩
    · rintro ⟨n, ⟨hleast, _⟩, hsteps⟩
      obtain ⟨k, rfl⟩ := Nat.exists_eq_add_of_le hleast
      obtain ⟨x, hfirst, hthen⟩ := hsteps.split
      exact ⟨x, hfirst, k, hthen⟩

end Computes

/-! ## Expressions -/

theorem computes_literal (text : Array Char) (cs : List Char) :
    Computes text.size (ends text (literal cs)) (Spans text (literal cs)) := by
  have hbound : ∀ i, i ≤ text.size → literalAt text i cs = true → i + cs.length ≤ text.size := by
    intro i hi h
    have hlength := ((literalAt_iff text i cs).1 h).length_le
    have hsize : text.toList.length = text.size := Array.length_toList
    rw [List.length_drop] at hlength
    omega
  refine (Computes.advance hbound).congr fun i j => ?_
  rw [literalAt_iff, Spans]

theorem computes_set (text : Array Char) (s : CharSet) (ascii : Bool) :
    Computes text.size (ends text (set s ascii)) (Spans text (set s ascii)) := by
  have hbound : ∀ i, i ≤ text.size → text[i]?.any s.contains = true → i + 1 ≤ text.size := by
    intro i hi h
    obtain ⟨c, hc, _⟩ := (Option.any_eq_true _ _).1 h
    exact (Array.getElem?_eq_some_iff.1 hc).1
  have hends : ends text (set s ascii) = fun starts =>
      starts.filterMap fun i => if text[i]?.any s.contains = true then some (i + 1) else none := by
    funext starts
    rw [ends]
    congr 1
    funext i
    cases text[i]? with
    | none => rfl
    | some c => rfl
  rw [hends]
  refine (Computes.advance hbound).congr fun i j => ?_
  rw [Spans, Option.any_eq_true]

theorem computes_anchor (text : Array Char) (a : Anchor) :
    Computes text.size (ends text (anchor a)) (Spans text (anchor a)) := by
  have hends : ends text (anchor a) = fun starts =>
      starts.filterMap fun i => if a.holds text i = true then some (i + 0) else none := by
    funext starts
    rw [ends, ← List.filterMap_eq_filter]
    rfl
  rw [hends]
  exact (Computes.advance fun i hi _ => hi).congr fun i j => by rw [Spans, Nat.add_zero]

mutual

theorem computes_ends (text : Array Char) (r : Regex) :
    Computes text.size (ends text r) (Spans text r) := by
  cases r with
  | empty => exact .stay
  | literal cs => exact computes_literal text cs
  | set s ascii => exact computes_set text s ascii
  | anchor a => exact computes_anchor text a
  | group index r => exact computes_ends text r
  | seq rs => exact computes_endsOfAll text rs
  | either rs => exact computes_endsOfAny text rs
  | times r least most greedy => exact (computes_ends text r).times least most

theorem computes_endsOfAll (text : Array Char) (rs : List Regex) :
    Computes text.size (endsOfAll text rs) (SpansAll text rs) := by
  cases rs with
  | nil => exact .stay
  | cons r rs => exact (computes_ends text r).comp (computes_endsOfAll text rs)

theorem computes_endsOfAny (text : Array Char) (rs : List Regex) :
    Computes text.size (endsOfAny text rs) (SpansAny text rs) := by
  cases rs with
  | nil => exact .fail
  | cons r rs => exact (computes_ends text r).union (computes_endsOfAny text rs)

end

/-! ## What an expression reads -/

/-- From any place of any text, a way to match takes exactly the parts of the text that are in the
language. -/
def Reads (spans : Array Char → Nat → Nat → Prop) (language : List Char → Prop) : Prop :=
  ∀ before rest : List Char, ∀ j, spans (before ++ rest).toArray before.length j ↔
    ∃ part after, language part ∧ rest = part ++ after ∧ j = before.length + part.length

namespace Reads

variable {spans next : Array Char → Nat → Nat → Prop} {first second : List Char → Prop}

theorem congr (h : Reads spans first) (heq : ∀ part, first part ↔ second part) :
    Reads spans second := by
  obtain rfl : first = second := funext fun part => propext (heq part)
  exact h

theorem nothing : Reads (fun _ i j => j = i) (· = []) := by
  intro before rest j
  simp

theorem comp (hfirst : Reads spans first) (hsecond : Reads next second) :
    Reads (fun text i k => ∃ j, spans text i j ∧ next text j k)
      fun part => ∃ a b, first a ∧ second b ∧ part = a ++ b := by
  intro before rest k
  constructor
  · rintro ⟨j, hj, hk⟩
    obtain ⟨a, middle, ha, rfl, rfl⟩ := (hfirst before rest j).1 hj
    rw [← List.append_assoc, ← List.length_append] at hk
    obtain ⟨b, after, hb, rfl, rfl⟩ := (hsecond (before ++ a) middle k).1 hk
    refine ⟨a ++ b, after, ⟨a, b, ha, hb, rfl⟩, (List.append_assoc a b after).symm, ?_⟩
    rw [List.length_append, List.length_append, Nat.add_assoc]
  · rintro ⟨part, after, ⟨a, b, ha, hb, rfl⟩, rfl, rfl⟩
    refine ⟨before.length + a.length,
      (hfirst before _ _).2 ⟨a, b ++ after, ha, List.append_assoc a b after, rfl⟩, ?_⟩
    have hthen := (hsecond (before ++ a) (b ++ after) _).2 ⟨b, after, hb, rfl, rfl⟩
    simpa [Nat.add_assoc] using hthen

theorem steps (h : Reads spans first) (n : Nat) :
    Reads (fun text => Steps (spans text) n)
      fun part => ∃ parts : List (List Char), parts.length = n ∧ (∀ p ∈ parts, first p) ∧
        part = parts.flatten := by
  induction n with
  | zero =>
    refine nothing.congr fun part => ?_
    simp [List.length_eq_zero_iff]
  | succ n ih =>
    refine (h.comp ih).congr fun part => ?_
    constructor
    · rintro ⟨a, _, ha, ⟨parts, rfl, hparts, rfl⟩, rfl⟩
      exact ⟨a :: parts, rfl, List.forall_mem_cons.2 ⟨ha, hparts⟩, rfl⟩
    · rintro ⟨parts, hlength, hparts, rfl⟩
      obtain ⟨a, parts, rfl⟩ := List.exists_cons_of_length_eq_add_one hlength
      obtain ⟨ha, hparts⟩ := List.forall_mem_cons.1 hparts
      exact ⟨a, parts.flatten, ha, ⟨parts, Nat.succ.inj hlength, hparts, rfl⟩, rfl⟩

theorem literal (cs : List Char) : Reads (fun text => Spans text (.literal cs)) (· = cs) := by
  intro before rest j
  simp only [Spans, List.drop_left]
  constructor
  · rintro ⟨⟨after, rfl⟩, rfl⟩
    exact ⟨cs, after, rfl, rfl, rfl⟩
  · rintro ⟨_, after, rfl, rfl, rfl⟩
    exact ⟨List.prefix_append _ _, rfl⟩

theorem set (s : CharSet) (ascii : Bool) :
    Reads (fun text => Spans text (.set s ascii)) fun part =>
      ∃ c, s.contains c = true ∧ part = [c] := by
  intro before rest j
  simp only [Spans, List.getElem?_toArray]
  rw [List.getElem?_append_right (Nat.le_refl _), Nat.sub_self]
  constructor
  · rintro ⟨⟨c, hc, hs⟩, rfl⟩
    rw [← List.head?_eq_getElem?] at hc
    obtain ⟨after, rfl⟩ := List.head?_eq_some_iff.1 hc
    exact ⟨[c], after, ⟨c, hs, rfl⟩, rfl, rfl⟩
  · rintro ⟨_, after, ⟨c, hs, rfl⟩, rfl, rfl⟩
    exact ⟨⟨c, rfl, hs⟩, rfl⟩

theorem atLeast {r : Regex} (h : Reads (fun text => Spans text r) first) (least : Nat)
    (greedy : Bool) :
    Reads (fun text => Spans text (.times r least none greedy)) fun part =>
      ∃ parts : List (List Char), least ≤ parts.length ∧ (∀ p ∈ parts, first p) ∧
        part = parts.flatten := by
  intro before rest j
  simp only [Spans]
  constructor
  · rintro ⟨n, ⟨hleast, _⟩, hsteps⟩
    obtain ⟨_, after, ⟨parts, rfl, hparts, rfl⟩, hrest, hj⟩ := (h.steps n before rest j).1 hsteps
    exact ⟨parts.flatten, after, ⟨parts, hleast, hparts, rfl⟩, hrest, hj⟩
  · rintro ⟨_, after, ⟨parts, hleast, hparts, rfl⟩, hrest, hj⟩
    refine ⟨parts.length, ⟨hleast, nofun⟩, ?_⟩
    exact (h.steps parts.length before rest j).2 ⟨parts.flatten, after, ⟨parts, rfl, hparts, rfl⟩,
      hrest, hj⟩

/-- One character of the set or more. -/
theorem someOf (s : CharSet) (ascii greedy : Bool) :
    Reads (fun text => Spans text (.times (.set s ascii) 1 none greedy))
      fun part => part ≠ [] ∧ ∀ c ∈ part, s.contains c = true := by
  refine ((set s ascii).atLeast 1 greedy).congr fun part => ?_
  constructor
  · rintro ⟨parts, hlength, hparts, rfl⟩
    constructor
    · obtain ⟨p, hp⟩ := List.exists_mem_of_length_pos hlength
      obtain ⟨c, _, rfl⟩ := hparts p hp
      exact List.ne_nil_of_mem (List.mem_flatten.2 ⟨[c], hp, List.mem_singleton_self c⟩)
    · intro c hc
      obtain ⟨p, hp, hc⟩ := List.mem_flatten.1 hc
      obtain ⟨d, hd, rfl⟩ := hparts p hp
      rwa [List.mem_singleton.1 hc]
  · rintro ⟨hne, hall⟩
    refine ⟨part.map fun c => [c], ?_, ?_, ?_⟩
    · rw [List.length_map]
      exact List.length_pos_of_ne_nil hne
    · intro p hp
      obtain ⟨c, hc, rfl⟩ := List.mem_map.1 hp
      exact ⟨c, hall c hc, rfl⟩
    · rw [← List.flatMap_def, List.flatMap_singleton']

end Reads

end Regex

/-! ## Patterns -/

namespace Pattern

open Regex

theorem accepts_iff (p : Pattern) (name : String) :
    p.accepts name = true ↔
      ∃ i j, i ≤ name.toList.length ∧ Spans name.toList.toArray p.regex i j := by
  have hplaces : Places name.toList.length (List.range (name.toList.length + 1)).reverse := by
    constructor
    · exact List.pairwise_reverse.2 List.pairwise_lt_range
    · intro i hi
      exact Nat.le_of_lt_succ (List.mem_range.1 (List.mem_reverse.1 hi))
  have hmem := fun j => (computes_ends name.toList.toArray p.regex).mem_iff hplaces (j := j)
  simp only [List.mem_reverse, List.mem_range, Nat.lt_succ_iff] at hmem
  simp only [accepts, Bool.not_eq_true', List.isEmpty_eq_false_iff_exists_mem,
    List.size_toArray, hmem]
  grind

theorem accepts_whole_iff (r : Regex) (name : String) :
    (whole r).accepts name = true ↔ Spans name.toList.toArray r 0 name.toList.length := by
  rw [accepts_iff]
  constructor
  · rintro ⟨_, _, _, i, ⟨hstart, rfl⟩, j, hspans, _, ⟨hend, _⟩, _⟩
    obtain rfl : i = 0 := by simpa [Anchor.holds] using hstart
    obtain rfl : j = name.toList.length := by simpa [Anchor.holds] using hend
    exact hspans
  · intro hspans
    exact ⟨0, name.toList.length, Nat.zero_le _, 0, ⟨rfl, rfl⟩, _, hspans, _,
      ⟨beq_self_eq_true _, rfl⟩, rfl⟩

theorem accepts_whole_of_reads {r : Regex} {language : List Char → Prop}
    (h : Reads (fun text => Spans text r) language) (name : String) :
    (whole r).accepts name = true ↔ language name.toList := by
  rw [accepts_whole_iff]
  have hreads := h [] name.toList name.toList.length
  simp only [List.nil_append, List.length_nil, Nat.zero_add] at hreads
  rw [hreads]
  constructor
  · rintro ⟨part, after, hpart, hname, hlength⟩
    rw [hname, List.length_append] at hlength
    obtain rfl : after = [] := List.eq_nil_of_length_eq_zero (by omega)
    rwa [hname, List.append_nil]
  · intro hname
    exact ⟨name.toList, [], hname, (List.append_nil _).symm, rfl⟩

theorem accepts_exactly_iff (s name : String) : (exactly s).accepts name = true ↔ name = s := by
  rw [exactly, accepts_whole_of_reads (Reads.literal s.toList), String.toList_inj]

end Pattern

end ShaderBuild
