import Mathlib.Data.List.Basic
import Mathlib.Data.List.Induction
import ShaderBuild.Cache.Store

/-!
What a look-up in the cache answers. Main statement: `value_find`, by which it is the shader of the
first entry, in the order of insertion, that has the key and whose includes are unchanged. The
fingerprints decide only how entries are grouped.
-/

namespace ShaderBuild

/-! ## Buckets -/

namespace Buckets

variable {fingerprint : ShaderKey → Hash128}

theorem getD_add (b : Buckets) (h k : Hash128) (position : Nat) :
    (b.add h position).getD k [] = if h = k then b.getD k [] ++ [position] else b.getD k [] := by
  rw [add, Std.HashMap.getD_insert]
  by_cases hk : h = k
  · simp [hk]
  · simp [hk]

/-- No bucket holds a position behind the last entry. -/
theorem lt_of_mem_ofEntries {entries : List CacheEntry} {k : Hash128} {i : Nat}
    (h : i ∈ (ofEntries fingerprint entries).getD k []) : i < entries.length := by
  induction entries using List.reverseRecOn with
  | nil => simp [ofEntries] at h
  | append_singleton entries e ih =>
    rw [ofEntries_append, getD_add] at h
    rw [List.length_append, List.length_singleton]
    split at h
    · rcases List.mem_append.1 h with h | h
      · exact Nat.lt_succ_of_lt (ih h)
      · simp only [List.mem_singleton] at h
        omega
    · exact Nat.lt_succ_of_lt (ih h)

/-- The entries at the positions of a bucket are those with its fingerprint, in order. -/
theorem filterMap_ofEntries (entries : List CacheEntry) (k : Hash128) :
    ((ofEntries fingerprint entries).getD k []).filterMap (fun i => entries[i]?) =
      entries.filter fun e => fingerprint e.key = k := by
  induction entries using List.reverseRecOn with
  | nil => simp
  | append_singleton entries e ih =>
    have hold :
      ((ofEntries fingerprint entries).getD k []).filterMap (fun i => (entries ++ [e])[i]?) =
        entries.filter fun e => fingerprint e.key = k := by
      rw [← ih]
      apply List.filterMap_congr
      intro i hi
      exact List.getElem?_append_left (lt_of_mem_ofEntries hi)
    rw [ofEntries_append, getD_add, List.filter_append]
    split
    · rename_i hk
      simp [List.filterMap_append, hold, hk]
    · rename_i hk
      simp [hold, hk]

end Buckets

namespace Cache

variable {fingerprint : ShaderKey → Hash128}

theorem candidates_eq (c : Cache fingerprint) (key : ShaderKey) :
    c.candidates key = c.entries.filter fun e => e.key = key := by
  rw [candidates, c.buckets_eq, Buckets.filterMap_ofEntries, List.filter_filter]
  apply List.filter_congr
  intro e _
  by_cases h : e.key = key
  · simp [h]
  · simp [h]

/-! ## Look-up -/

/-- Whether all includes of an entry resolve to what was recorded. -/
def isValid (r : Resolver) (e : CacheEntry) : Bool := e.dependencies.all fun d =>
    (d.isUnchanged r).value

theorem value_allUnchanged (r : Resolver) (dependencies : List Dependency) :
    (allUnchanged r dependencies).value = dependencies.all fun d => (d.isUnchanged r).value := by
  induction dependencies with
  | nil => rfl
  | cons d rest ih =>
    rw [allUnchanged, Traced.value_bind, List.all_cons]
    cases (d.isUnchanged r).value with
    | true => exact ih
    | false => rfl

theorem value_firstValid (r : Resolver) (entries : List CacheEntry) :
    (firstValid r entries).value = entries.find? (isValid r) := by
  induction entries with
  | nil => rfl
  | cons e rest ih =>
    rw [firstValid, Traced.value_bind, value_allUnchanged, List.find?_cons, ← isValid]
    cases isValid r e with
    | true => rfl
    | false => exact ih

/-- The entry whose shader a look-up answers with. -/
def served? (c : Cache fingerprint) (key : ShaderKey) (r : Resolver) : Option CacheEntry :=
  (firstValid r (c.candidates key)).value

theorem find_eq_served (c : Cache fingerprint) (key : ShaderKey) (r : Resolver) :
    (c.find key r).value = (c.served? key r).map CacheEntry.shader := by
  rw [find, Traced.value_bind, served?]
  cases (firstValid r (c.candidates key)).value <;> rfl

theorem value_find (c : Cache fingerprint) (key : ShaderKey) (r : Resolver) :
    (c.find key r).value =
      ((c.entries.filter fun e => e.key = key).find? (isValid r)).map CacheEntry.shader := by
  rw [find_eq_served, served?, value_firstValid, candidates_eq]

theorem find_empty (key : ShaderKey) (r : Resolver) :
    ((empty : Cache fingerprint).find key r).value = none := by
  rw [value_find]
  rfl

/-- Nothing is found if no entry with the key is valid. -/
theorem find_eq_none_iff {c : Cache fingerprint} {key : ShaderKey} {r : Resolver} :
    (c.find key r).value = none ↔ ∀ e ∈ c.entries, e.key = key → isValid r e = false := by
  rw [value_find, Option.map_eq_none_iff, List.find?_eq_none]
  constructor
  · intro h e he hkey
    exact eq_false_of_ne_true (h e (List.mem_filter.2 ⟨he, decide_eq_true hkey⟩))
  · intro h e he
    obtain ⟨hmem, hkey⟩ := List.mem_filter.1 he
    simp [h e hmem (of_decide_eq_true hkey)]

/-- A look-up among one entry. -/
theorem find_only (e : CacheEntry) (key : ShaderKey) (r : Resolver) :
    ((empty.insert e : Cache fingerprint).find key r).value =
      if e.key = key ∧ isValid r e = true then some e.shader else none := by
  rw [value_find, entries_insert, entries_empty, List.nil_append, List.filter_singleton]
  by_cases hkey : e.key = key
  · cases hvalid : isValid r e <;> simp [hkey, hvalid]
  · simp [hkey]

theorem mem_of_served {c : Cache fingerprint} {key : ShaderKey} {r : Resolver} {e : CacheEntry}
    (h : c.served? key r = some e) : e ∈ c.entries ∧ e.key = key ∧ isValid r e = true := by
  rw [served?, value_firstValid, candidates_eq] at h
  obtain ⟨hmem, hkey⟩ := List.mem_filter.1 (List.mem_of_find?_eq_some h)
  exact ⟨hmem, of_decide_eq_true hkey, List.find?_some h⟩

/-- A shader that is found is that of a valid entry with the key. -/
theorem exists_of_find {c : Cache fingerprint} {key : ShaderKey} {r : Resolver} {shader : Shader}
    (h : (c.find key r).value = some shader) :
    ∃ e ∈ c.entries, e.key = key ∧ e.shader = shader ∧
      ∀ d ∈ e.dependencies, (d.isUnchanged r).value = true := by
  rw [find_eq_served] at h
  obtain ⟨e, hserved, rfl⟩ := Option.map_eq_some_iff.1 h
  obtain ⟨hmem, hkey, hvalid⟩ := mem_of_served hserved
  exact ⟨e, hmem, hkey, rfl, List.all_eq_true.1 hvalid⟩

end Cache

end ShaderBuild
