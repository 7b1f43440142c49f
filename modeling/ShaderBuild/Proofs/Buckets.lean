import Mathlib.Data.Finset.Card
import ShaderBuild.Proofs.Acceptance
import ShaderBuild.Proofs.Lookup

/-!
A cache is a list of entries, and its buckets only save time. Main statement: `run_refines_list`.
Whatever was done to a cache, it holds the entries that a plain list would hold, its buckets divide
the positions by fingerprint, and a look-up answers what a walk through the list would.
-/

namespace ShaderBuild

/-! ## Positions in buckets -/

namespace Buckets

/-- The positions of the entries whose keys have a fingerprint, in ascending order. -/
def positions (fingerprint : ShaderKey → Hash128) (entries : List CacheEntry) (k : Hash128) :
    List Nat :=
  entries.findIdxs fun e => fingerprint e.key = k

variable {fingerprint : ShaderKey → Hash128} {entries : List CacheEntry} {k : Hash128}

theorem mem_positions {i : Nat} :
    i ∈ positions fingerprint entries k ↔ ∃ e, entries[i]? = some e ∧ fingerprint e.key = k := by
  simp [positions, List.getElem?_eq_some_iff]

theorem positions_append (e : CacheEntry) :
    positions fingerprint (entries ++ [e]) k =
      positions fingerprint entries k ++ if fingerprint e.key = k then
        [entries.length] else [] := by
  simp [positions, List.findIdxs_append]

/-- There is a bucket for a fingerprint only if there are entries for it. -/
theorem getElem?_ofEntries (fingerprint : ShaderKey → Hash128) (entries : List CacheEntry)
    (k : Hash128) :
    (ofEntries fingerprint entries)[k]? =
      if positions fingerprint entries k = [] then
        none else some (positions fingerprint entries k) := by
  induction entries using List.reverseRecOn with
  | nil => simp [ofEntries, positions]
  | append_singleton entries e ih =>
    have hgetD : (ofEntries fingerprint entries).getD k [] = positions fingerprint entries k := by
      rw [Std.HashMap.getD_eq_getD_getElem?, ih]
      split
      · rename_i hnil
        exact hnil.symm
      · rfl
    rw [ofEntries_append, add, Std.HashMap.getElem?_insert, positions_append]
    by_cases hk : fingerprint e.key = k
    · simp [hk, hgetD]
    · simp [hk, ih]

theorem getElem?_ofEntries_eq_some {bucket : List Nat} :
    (ofEntries fingerprint entries)[k]? = some bucket ↔
      bucket ≠ [] ∧ bucket = positions fingerprint entries k := by
  rw [getElem?_ofEntries]
  split
  · rename_i hnil
    simp [hnil]
  · rename_i hcons
    simp only [Option.some.injEq, eq_comm]
    exact ⟨fun h => ⟨h ▸ hcons, h⟩, fun h => h.2⟩

theorem mem_ofEntries : k ∈ ofEntries fingerprint entries ↔ k ∈ entries.map fun e =>
    fingerprint e.key := by
  rw [Std.HashMap.mem_iff_isSome_getElem?, getElem?_ofEntries, List.mem_map, positions]
  split
  · rename_i hnil
    simpa using List.findIdxs_eq_nil_iff.1 hnil
  · rename_i hcons
    simpa [List.findIdxs_eq_nil_iff] using hcons

/-- There are as many buckets as there are fingerprints of entries. -/
theorem size_ofEntries (fingerprint : ShaderKey → Hash128) (entries : List CacheEntry) :
    (ofEntries fingerprint entries).size =
      (entries.map fun e => fingerprint e.key).toFinset.card := by
  have hkeys : (ofEntries fingerprint entries).keys.toFinset =
      (entries.map fun e => fingerprint e.key).toFinset := by
    ext k
    rw [List.mem_toFinset, List.mem_toFinset, Std.HashMap.mem_keys, mem_ofEntries]
  rw [← Std.HashMap.length_keys, ← hkeys, List.toFinset_card_of_nodup Std.HashMap.nodup_keys]

end Buckets

/-! ## What a cache stands for -/

/-- The entry has the key, and every include of it, asked for again with its kind, directory and
identifier, has the digest and the contents that were recorded. -/
structure CacheEntry.Serves (r : Resolver) (key : ShaderKey) (e : CacheEntry) : Prop where
  key_eq : e.key = key
  digest_eq : ∀ d ∈ e.dependencies, (r.request d.kind d.dir d.identifier).value.digest = d.digest
  contents_eq : ∀ d ∈ e.dependencies, (r.request d.kind d.dir d.identifier).value.contents =
    d.contents

theorem CacheEntry.serves_iff {r : Resolver} {key : ShaderKey} {e : CacheEntry} :
    e.Serves r key ↔ e.key = key ∧ Cache.isValid r e = true := by
  simp only [Cache.isValid, List.all_eq_true, Dependency.isUnchanged_iff, Dependency.resolve]
  constructor
  · rintro ⟨hkey, hdigest, hcontents⟩
    exact ⟨hkey, fun d hd => ⟨hdigest d hd, hcontents d hd⟩⟩
  · rintro ⟨hkey, hvalid⟩
    exact ⟨hkey, fun d hd => (hvalid d hd).1, fun d hd => (hvalid d hd).2⟩

instance (r : Resolver) (key : ShaderKey) (e : CacheEntry) : Decidable (e.Serves r key) :=
  decidable_of_iff _ CacheEntry.serves_iff.symm

namespace Cache

variable {fingerprint : ShaderKey → Hash128}

/-- A bucket for the fingerprint holds the position. -/
def Holds (c : Cache fingerprint) (k : Hash128) (i : Nat) : Prop :=
  ∃ bucket, c.buckets[k]? = some bucket ∧ i ∈ bucket

/-- The cache behaves as a plain list of entries. -/
structure Represents (c : Cache fingerprint) (entries : List CacheEntry) : Prop where
  entries_eq : c.entries = entries
  /-- Every position is in one bucket, that of its own key, and buckets hold nothing else. -/
  holds_iff : ∀ k i, c.Holds k i ↔ ∃ e, entries[i]? = some e ∧ k = fingerprint e.key
  ascending : ∀ (k : Hash128) bucket, c.buckets[k]? = some bucket → List.Pairwise (· < ·) bucket
  nonempty : ∀ (k : Hash128) bucket, c.buckets[k]? = some bucket → bucket ≠ []
  bucketCount_eq : c.bucketCount = (entries.map fun e => fingerprint e.key).toFinset.card
  find_eq : ∀ key r, (c.find key r).value =
    (entries.find? fun e => e.Serves r key).map CacheEntry.shader

/-- Every cache behaves as the list of its own entries. -/
theorem represents (c : Cache fingerprint) : c.Represents c.entries := by
  have hbuckets := c.buckets_eq
  refine ⟨rfl, fun k i => ?_, fun k bucket hbucket => ?_, fun k bucket hbucket => ?_, ?_,
    fun key r => ?_⟩
  · simp only [Holds, hbuckets, Buckets.getElem?_ofEntries_eq_some]
    constructor
    · rintro ⟨_, ⟨_, rfl⟩, hi⟩
      obtain ⟨e, he, hk⟩ := Buckets.mem_positions.1 hi
      exact ⟨e, he, hk.symm⟩
    · rintro ⟨e, he, rfl⟩
      have hi : i ∈ Buckets.positions fingerprint c.entries (fingerprint e.key) :=
        Buckets.mem_positions.2 ⟨e, he, rfl⟩
      exact ⟨_, ⟨List.ne_nil_of_mem hi, rfl⟩, hi⟩
  · rw [hbuckets, Buckets.getElem?_ofEntries_eq_some] at hbucket
    rw [hbucket.2]
    exact List.pairwise_findIdxs
  · rw [hbuckets, Buckets.getElem?_ofEntries_eq_some] at hbucket
    exact hbucket.1
  · rw [bucketCount, hbuckets, Buckets.size_ofEntries]
  · rw [value_find, List.find?_filter]
    congr 2
    funext e
    simp [CacheEntry.serves_iff]

/-! ## Operations -/

/-- What may be done to a cache. -/
inductive Operation where
  | insert (e : CacheEntry)
  | clear
  /-- A new cache of some entries. -/
  | collect (entries : List CacheEntry)
  /-- A new cache read from bytes. The old one is kept if they cannot be read. -/
  | restore (b : Bytes)

namespace Operation

def apply (c : Cache fingerprint) : Operation → Cache fingerprint
  | insert e => c.insert e
  | clear => empty
  | collect entries => ofList entries
  | restore b =>
    match deserialize b with
    | .ok d => d
    | .error _ => c

/-- What an operation does to a plain list. -/
inductive Changes (entries : List CacheEntry) : Operation → List CacheEntry → Prop
  | insert (e : CacheEntry) : Changes entries (insert e) (entries ++ [e])
  | clear : Changes entries clear []
  | collect (others : List CacheEntry) : Changes entries (collect others) others
  | restore {b : Bytes} {m : Metadata} (stored : Stored b m) :
      Changes entries (restore b) (m.entriesIn (codePart b))
  | refuse {b : Bytes} (foreign : ∀ m, ¬Stored b m) : Changes entries (restore b) entries

theorem entries_apply_restore {c : Cache fingerprint} {b : Bytes} {m : Metadata} (h : Stored b m) :
    ((restore b).apply c).entries = m.entriesIn (codePart b) := by
  rw [apply, deserialize_of_stored h]
  exact entries_ofList _

theorem apply_restore_of_foreign {c : Cache fingerprint} {b : Bytes} (h : ∀ m, ¬Stored b m) :
    (restore b).apply c = c := by
  rcases stored_or_fault b with ⟨m, hm⟩ | ⟨e, he⟩
  · exact absurd hm (h m)
  · rw [apply, deserialize_of_fault he]

/-- The entries after an operation are those of the plain list, and no other list is possible. -/
theorem changes_iff {c : Cache fingerprint} {operation : Operation} {entries : List CacheEntry} :
    operation.Changes c.entries entries ↔ entries = (operation.apply c).entries := by
  constructor
  · intro h
    cases h with
    | insert e => rfl
    | clear => rfl
    | collect => exact (entries_ofList entries).symm
    | restore hstored => exact (entries_apply_restore hstored).symm
    | refuse hforeign => rw [apply_restore_of_foreign hforeign]
  · rintro rfl
    cases operation with
    | insert e => exact .insert e
    | clear => exact .clear
    | collect others =>
      rw [apply, entries_ofList]
      exact .collect others
    | restore b =>
      by_cases hstored : ∃ m, Stored b m
      · obtain ⟨m, hm⟩ := hstored
        rw [entries_apply_restore hm]
        exact .restore hm
      · have hforeign := not_exists.1 hstored
        rw [apply_restore_of_foreign hforeign]
        exact .refuse hforeign

/-- What operations do to a plain list, one after the other. -/
inductive Leaves : List CacheEntry → List Operation → List CacheEntry → Prop
  | nil (entries : List CacheEntry) : Leaves entries [] entries
  | cons {old new last : List CacheEntry} {operation : Operation} {operations : List Operation}
      (change : operation.Changes old new) (rest : Leaves new operations last) :
      Leaves old (operation :: operations) last

theorem leaves_iff {operations : List Operation} {c : Cache fingerprint}
    {entries : List CacheEntry} :
    Leaves c.entries operations entries ↔ entries = (operations.foldl apply c).entries := by
  induction operations generalizing c with
  | nil =>
    constructor
    · rintro ⟨⟩
      rfl
    · rintro rfl
      exact .nil _
  | cons operation operations ih =>
    rw [List.foldl_cons, ← ih]
    constructor
    · rintro (_ | ⟨hchange, hrest⟩)
      exact changes_iff.1 hchange ▸ hrest
    · exact .cons (changes_iff.2 rfl)

end Operation

/-- The cache that operations make of an empty one. -/
def run (fingerprint : ShaderKey → Hash128) (operations : List Operation) : Cache fingerprint :=
  operations.foldl Operation.apply empty

/-- Operations on a cache leave what they leave of a plain list, whichever fingerprints keys
have. -/
theorem run_refines_list (fingerprint : ShaderKey → Hash128) (operations : List Operation) :
    ∃ entries, (∀ others, Operation.Leaves [] operations others ↔ others = entries) ∧
      (run fingerprint operations).Represents entries :=
  ⟨(run fingerprint operations).entries, fun _ => Operation.leaves_iff (c := empty), represents _⟩

end Cache

end ShaderBuild
