import Mathlib.Data.List.Induction
import ShaderBuild.Proofs.Resolution

/-!
Writing and removing files in memory. Main statement: `get?_applyAll`, by which a file holds what
the last change at its path has left, however the path was spelled.
-/

namespace ShaderBuild

inductive FileChange where
  | write (path : Path) (data : Bytes)
  | remove (path : Path)
  deriving DecidableEq, Repr

namespace FileChange

def path : FileChange → Path
  | write path _ => path
  | remove path => path

def apply (change : FileChange) (m : MemoryFiles) : MemoryFiles :=
  match change with
  | write path data => m.insert path data
  | remove path => m.erase path

/-- What the file at the path of the change holds after it. -/
def contents? : FileChange → Option Bytes
  | write _ data => some data
  | remove _ => none

/-- The files after some changes, one after the other. -/
def applyAll (changes : List FileChange) (m : MemoryFiles) : MemoryFiles :=
  changes.foldl (fun m change => change.apply m) m

/-- The last of the changes at a path. -/
def lastAt? (p : Path) (changes : List FileChange) : Option FileChange :=
  changes.reverse.find? fun change => change.path.normal = p.normal

theorem applyAll_concat (changes : List FileChange) (change : FileChange) (m : MemoryFiles) :
    applyAll (changes ++ [change]) m = change.apply (applyAll changes m) := by
  simp [applyAll]

theorem lastAt?_concat (p : Path) (changes : List FileChange) (change : FileChange) :
    lastAt? p (changes ++ [change]) = if p.normal = change.path.normal then some change
      else lastAt? p changes := by
  unfold lastAt?
  rw [List.reverse_append, List.reverse_singleton, List.singleton_append, List.find?_cons]
  by_cases h : p.normal = change.path.normal
  · simp [h]
  · simp [h, Ne.symm h]

end FileChange

/-! ## Entries by key -/

section

variable {α β : Type} [BEq α] [LawfulBEq α] {k : α}

/-- An entry of another key tells nothing about this one. -/
theorem lookup_cons_of_ne {e : α × β} (h : k ≠ e.1) (es : List (α × β)) :
    (e :: es).lookup k = es.lookup k := by
  rw [List.lookup_cons, beq_false_of_ne h]

theorem lookup_cons_of_eq {e : α × β} (h : k = e.1) (es : List (α × β)) :
    (e :: es).lookup k = some e.2 := by
  rw [List.lookup_cons, h, beq_self_eq_true]

theorem lookup_map_of_fixed {f : α × β → α × β} (hkey : ∀ e, (f e).1 = e.1)
    (hfixed : ∀ e, e.1 = k → f e = e) (es : List (α × β)) : (es.map f).lookup k = es.lookup k := by
  induction es with
  | nil => rfl
  | cons e es ih =>
    rw [List.map_cons]
    by_cases h : k = e.1
    · rw [hfixed e h.symm, lookup_cons_of_eq h, lookup_cons_of_eq h]
    · rw [lookup_cons_of_ne h, lookup_cons_of_ne ((hkey e).symm ▸ h), ih]

theorem lookup_map_of_const {f : α × β → α × β} {b : β} (hkey : ∀ e, (f e).1 = e.1)
    (hconst : ∀ e, e.1 = k → (f e).2 = b) (es : List (α × β)) :
    (es.map f).lookup k = (es.lookup k).map fun _ => b := by
  induction es with
  | nil => rfl
  | cons e es ih =>
    rw [List.map_cons]
    by_cases h : k = e.1
    · rw [lookup_cons_of_eq h, lookup_cons_of_eq ((hkey e).symm ▸ h), hconst e h.symm]
      rfl
    · rw [lookup_cons_of_ne h, lookup_cons_of_ne ((hkey e).symm ▸ h), ih]

theorem lookup_filter_of_kept {keep : α × β → Bool} (hkept : ∀ e, e.1 = k → keep e = true)
    (es : List (α × β)) :
    (es.filter keep).lookup k = es.lookup k := by
  induction es with
  | nil => rfl
  | cons e es ih =>
    by_cases h : k = e.1
    · rw [List.filter_cons_of_pos (hkept e h.symm), lookup_cons_of_eq h, lookup_cons_of_eq h]
    · rw [lookup_cons_of_ne h, ← ih, List.filter_cons]
      split
      · exact lookup_cons_of_ne h _
      · rfl

theorem lookup_filter_of_dropped {keep : α × β → Bool} (hdropped : ∀ e, e.1 = k → keep e = false)
    (es : List (α × β)) : (es.filter keep).lookup k = none := by
  induction es with
  | nil => rfl
  | cons e es ih =>
    rw [List.filter_cons]
    split
    · rename_i hkeep
      have h : k ≠ e.1 := by
        intro h
        rw [hdropped e h.symm] at hkeep
        cases hkeep
      rw [lookup_cons_of_ne h, ih]
    · exact ih

end

/-! ## One change -/

namespace MemoryFiles

theorem get?_insert (m : MemoryFiles) (p q : Path) (data : Bytes) :
    (m.insert p data).get? q = if q.normal = p.normal then some data else m.get? q := by
  have hkey : ∀ e : Path × Bytes, (if e.1 = p.normal then (e.1, data) else e).1 = e.1 := by
    intro e
    split <;> rfl
  change (m.entriesWith p data).lookup q.normal = _
  unfold entriesWith
  by_cases h : q.normal = p.normal
  · rw [if_pos h]
    have hsame : m.get? p = m.get? q := by rw [get?, get?, h]
    split
    · rename_i hkept
      rw [hsame, get?] at hkept
      obtain ⟨old, hold⟩ := Option.isSome_iff_exists.1 hkept
      rw [lookup_map_of_const (b := data) hkey (fun e he => by rw [if_pos (he.trans h)]), hold]
      rfl
    · rename_i hkept
      rw [hsame, get?, Option.not_isSome_iff_eq_none] at hkept
      rw [List.lookup_append, hkept, Option.none_or, h]
      exact lookup_cons_of_eq (e := (p.normal, data)) rfl []
  · rw [if_neg h]
    split
    · exact lookup_map_of_fixed hkey (fun e he => by rw [if_neg (he ▸ h)]) _
    · rw [get?, List.lookup_append, lookup_cons_of_ne h, List.lookup_nil, Option.or_none]

theorem get?_erase (m : MemoryFiles) (p q : Path) :
    (m.erase p).get? q = if q.normal = p.normal then none else m.get? q := by
  unfold erase get?
  by_cases h : q.normal = p.normal
  · rw [if_pos h]
    exact lookup_filter_of_dropped (fun e he => by simp [he, h]) _
  · rw [if_neg h]
    exact lookup_filter_of_kept (fun e he => decide_eq_true (he ▸ h)) _

theorem get?_apply (m : MemoryFiles) (change : FileChange) (q : Path) :
    (change.apply m).get? q = if q.normal = change.path.normal then change.contents?
      else m.get? q := by
  cases change with
  | write path data => exact m.get?_insert path q data
  | remove path => exact m.get?_erase path q

theorem get?_apply_of_ne {m : MemoryFiles} {change : FileChange} {q : Path}
    (h : q.normal ≠ change.path.normal) :
    (change.apply m).get? q = m.get? q := by
  rw [get?_apply, if_neg h]

/-! ## All changes -/

/-- A file holds what the last change at its path has left. -/
theorem get?_applyAll (m : MemoryFiles) (changes : List FileChange) (p : Path) :
    (FileChange.applyAll changes m).get? p =
      match FileChange.lastAt? p changes with
      | some change => change.contents?
      | none => m.get? p := by
  induction changes using List.reverseRecOn with
  | nil => rfl
  | append_singleton changes change ih =>
    rw [FileChange.applyAll_concat, get?_apply, FileChange.lastAt?_concat]
    split
    · rfl
    · exact ih

end MemoryFiles

end ShaderBuild
