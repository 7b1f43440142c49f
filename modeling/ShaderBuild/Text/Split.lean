/-!
Splitting texts and byte strings at a separator, and texts into lines.
-/

namespace ShaderBuild.Text

section Pieces

variable {α : Type} [DecidableEq α]

/-- The pieces between separators; there is always at least one piece. -/
def splitOn (sep : α) (cs : List α) : List (List α) :=
  cs.foldr (fun c pieces =>
    if c = sep then [] :: pieces
    else match pieces with
      | [] => [[c]]
      | piece :: rest => (c :: piece) :: rest) [[]]

@[simp] theorem splitOn_nil (sep : α) : splitOn sep [] = [[]] := rfl

theorem splitOn_ne_nil (sep : α) (cs : List α) : splitOn sep cs ≠ [] := by
  induction cs with
  | nil => simp
  | cons c cs ih =>
    simp only [splitOn, List.foldr_cons] at ih ⊢
    split
    · simp
    · split <;> simp

theorem splitOn_cons_sep (sep : α) (cs : List α) :
    splitOn sep (sep :: cs) = [] :: splitOn sep cs := by
  simp [splitOn]

theorem splitOn_cons_ne {sep c : α} (h : c ≠ sep) {cs piece : List α}
    {rest : List (List α)} (hs : splitOn sep cs = piece :: rest) :
    splitOn sep (c :: cs) = (c :: piece) :: rest := by
  simp only [splitOn, List.foldr_cons] at hs ⊢
  rw [if_neg h, hs]

def join (sep : α) : List (List α) → List α
  | [] => []
  | [piece] => piece
  | piece :: rest => piece ++ sep :: join sep rest

theorem join_splitOn (sep : α) (cs : List α) : join sep (splitOn sep cs) = cs := by
  induction cs with
  | nil => rfl
  | cons c cs ih =>
    cases hs : splitOn sep cs with
    | nil => exact absurd hs (splitOn_ne_nil sep cs)
    | cons piece rest =>
      rw [hs] at ih
      by_cases h : c = sep
      · subst h
        rw [splitOn_cons_sep, hs, ← ih]
        rfl
      · rw [splitOn_cons_ne h hs, ← ih]
        cases rest <;> rfl

theorem splitOn_append (sep : α) (cs rest : List α) :
    splitOn sep (cs ++ sep :: rest) = splitOn sep cs ++ splitOn sep rest := by
  induction cs with
  | nil => exact splitOn_cons_sep sep rest
  | cons c cs ih =>
    by_cases hc : c = sep
    · subst hc
      rw [List.cons_append, splitOn_cons_sep, splitOn_cons_sep, ih, List.cons_append]
    · cases hs : splitOn sep cs with
      | nil => exact absurd hs (splitOn_ne_nil sep cs)
      | cons piece pieces =>
        rw [hs] at ih
        rw [List.cons_append, splitOn_cons_ne hc hs, splitOn_cons_ne hc ih]
        rfl

theorem splitOn_of_not_mem {sep : α} {cs : List α} (h : sep ∉ cs) :
    splitOn sep cs = [cs] := by
  induction cs with
  | nil => rfl
  | cons c cs ih =>
    rw [List.mem_cons, not_or] at h
    exact splitOn_cons_ne (Ne.symm h.1) (ih h.2)

theorem splitOn_join {sep : α} {pieces : List (List α)} (hne : pieces ≠ [])
    (h : ∀ piece ∈ pieces, sep ∉ piece) : splitOn sep (join sep pieces) = pieces := by
  induction pieces with
  | nil => exact absurd rfl hne
  | cons piece rest ih =>
    cases rest with
    | nil => exact splitOn_of_not_mem (h piece (by simp))
    | cons next rest =>
      have hrest := ih (by simp) fun p hp => h p (by simp [hp])
      rw [join, splitOn_append, splitOn_of_not_mem (h piece (by simp)), hrest]
      · rfl
      · simp

theorem not_mem_of_mem_splitOn {sep : α} {cs piece : List α} (h : piece ∈ splitOn sep cs) :
    sep ∉ piece := by
  induction cs generalizing piece with
  | nil =>
    obtain rfl : piece = [] := by simpa using h
    simp
  | cons c cs ih =>
    by_cases hc : c = sep
    · subst hc
      rw [splitOn_cons_sep] at h
      rcases List.mem_cons.1 h with rfl | h
      · simp
      · exact ih h
    · cases hs : splitOn sep cs with
      | nil => exact absurd hs (splitOn_ne_nil sep cs)
      | cons first rest =>
        rw [splitOn_cons_ne hc hs] at h
        rcases List.mem_cons.1 h with rfl | h
        · have : sep ∉ first := ih (by simp [hs])
          simp [this, Ne.symm hc]
        · exact ih (by simp [hs, h])

/-- The part before the first occurrence of `sep` and the part after it. -/
def splitFirst? (sep : α) (cs : List α) : Option (List α × List α) :=
  match cs.dropWhile (· != sep) with
  | [] => none
  | _ :: after => some (cs.takeWhile (· != sep), after)

/-- The part before the last occurrence of `sep` and the part after it. -/
def splitLast? (sep : α) (cs : List α) : Option (List α × List α) :=
  (splitFirst? sep cs.reverse).map fun (after, before) => (before.reverse, after.reverse)

theorem eq_of_splitFirst? {sep : α} {cs before after : List α}
    (h : splitFirst? sep cs = some (before, after)) : cs = before ++ sep :: after := by
  unfold splitFirst? at h
  split at h
  · simp at h
  · rename_i c rest hd
    simp only [Option.some.injEq, Prod.mk.injEq] at h
    obtain ⟨rfl, rfl⟩ := h
    have hc : c = sep := by
      have := List.head?_dropWhile_not (· != sep) cs
      simpa [hd] using this
    rw [← hc, ← hd, hc, List.takeWhile_append_dropWhile]

theorem eq_of_splitLast? {sep : α} {cs before after : List α}
    (h : splitLast? sep cs = some (before, after)) : cs = before ++ sep :: after := by
  obtain ⟨⟨a, b⟩, hs, he⟩ := Option.map_eq_some_iff.1 h
  obtain ⟨rfl, rfl⟩ := by simpa using he
  have := eq_of_splitFirst? hs
  rw [← List.reverse_inj, this]
  simp

theorem splitFirst?_append {sep : α} {before : List α} (h : sep ∉ before)
    (after : List α) :
    splitFirst? sep (before ++ sep :: after) = some (before, after) := by
  have hbefore : ∀ c ∈ before, (c != sep) = true := by
    intro c hc
    rw [bne_iff_ne]
    rintro rfl
    exact h hc
  have hdrop : (before ++ sep :: after).dropWhile (· != sep) = sep :: after := by
    rw [List.dropWhile_append_of_pos hbefore]
    simp
  have htake : (before ++ sep :: after).takeWhile (· != sep) = before := by
    rw [List.takeWhile_append_of_pos hbefore]
    simp
  rw [splitFirst?, hdrop, htake]

theorem not_mem_of_splitFirst? {sep : α} {cs before after : List α}
    (h : splitFirst? sep cs = some (before, after)) : sep ∉ before := by
  rw [splitFirst?] at h
  split at h
  · cases h
  · obtain ⟨rfl, _⟩ := Prod.mk.inj (Option.some.inj h)
    intro hmem
    have hsep := List.all_eq_true.1 List.all_takeWhile sep hmem
    simp at hsep

theorem splitFirst?_of_not_mem {sep : α} {cs : List α} (h : sep ∉ cs) :
    splitFirst? sep cs = none := by
  have hcs : ∀ c ∈ cs, (c != sep) = true := fun c hc => bne_iff_ne.2 fun heq => h (heq ▸ hc)
  have hnone : (cs ++ []).dropWhile (· != sep) = [] := List.dropWhile_append_of_pos hcs
  rw [List.append_nil] at hnone
  rw [splitFirst?, hnone]

theorem splitLast?_append {sep : α} (before : List α) {after : List α} (h : sep ∉ after) :
    splitLast? sep (before ++ sep :: after) = some (before, after) := by
  have hreverse : (before ++ sep :: after).reverse = after.reverse ++ sep :: before.reverse := by
    simp
  rw [splitLast?, hreverse, splitFirst?_append (by simpa using h)]
  simp

theorem splitLast?_of_not_mem {sep : α} {cs : List α} (h : sep ∉ cs) :
    splitLast? sep cs = none := by
  rw [splitLast?, splitFirst?_of_not_mem (by simpa using h), Option.map_none]

omit [DecidableEq α] in
/-- A text with a separator in it is split at the last one. -/
theorem exists_last {sep : α} {cs : List α} (h : sep ∈ cs) :
    ∃ before after, cs = before ++ sep :: after ∧ sep ∉ after := by
  obtain ⟨after, before, hreverse, hafter⟩ := List.eq_append_cons_of_mem (List.mem_reverse.2 h)
  refine ⟨before.reverse, after.reverse, ?_, by simpa using hafter⟩
  rw [← List.reverse_inj, hreverse]
  simp

end Pieces

/-- Drops one carriage return at the end. -/
def dropReturn (line : List Char) : List Char :=
  match line.reverse with
  | '\r' :: rest => rest.reverse
  | _ => line

/-- The lines of a text. A line ends in a newline, which is dropped with a carriage return right
before it; what follows the last newline is a line of its own unless it is empty. -/
def lines (cs : List Char) : List (List Char) :=
  let pieces := splitOn '\n' cs
  let last := pieces.getLastD []
  pieces.dropLast.map dropReturn ++ (if last = [] then [] else [last])

end ShaderBuild.Text
