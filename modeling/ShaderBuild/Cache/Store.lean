import ShaderBuild.Include.Dependency
import ShaderBuild.Shader.Key
import Std.Data.HashMap

/-!
The cache of compiled shaders. Several entries may share a key; they differ in the
includes they were compiled with. A look-up serves the first of them, in the order of
insertion, whose includes still resolve to the same texts.
-/

namespace ShaderBuild

structure CacheEntry where
  key : ShaderKey
  /-- The include resolutions in the order in which they were made. -/
  dependencies : List Dependency
  shader : Shader
  deriving DecidableEq, Repr

/-- Positions of entries in ascending order, under the fingerprints of their keys. -/
abbrev Buckets := Std.HashMap Hash128 (List Nat)

namespace Buckets

def add (b : Buckets) (fingerprint : Hash128) (position : Nat) : Buckets :=
  b.insert fingerprint (b.getD fingerprint [] ++ [position])

/-- The buckets of entries that were added one after the other. -/
def ofEntries (fingerprint : ShaderKey → Hash128) (entries : List CacheEntry) : Buckets :=
  entries.zipIdx.foldl (fun b e => b.add (fingerprint e.1.key) e.2) {}

theorem ofEntries_append (fingerprint : ShaderKey → Hash128) (entries : List CacheEntry)
    (e : CacheEntry) :
    ofEntries fingerprint (entries ++ [e]) =
      (ofEntries fingerprint entries).add (fingerprint e.key) entries.length := by
  simp [ofEntries, List.zipIdx_append]

end Buckets

/-- Entries in the order of insertion. No cache holds buckets of anything but its entries. -/
structure Cache (fingerprint : ShaderKey → Hash128) where
  entries : List CacheEntry
  buckets : Buckets
  buckets_eq : buckets = Buckets.ofEntries fingerprint entries

abbrev ShaderCache := Cache ShaderKey.fingerprint

namespace Cache

variable {fingerprint : ShaderKey → Hash128}

/-- A cache is known by its entries. -/
theorem eq_of_entries {c d : Cache fingerprint} (h : c.entries = d.entries) : c = d := by
  obtain ⟨entries, _, rfl⟩ := c
  obtain ⟨_, _, rfl⟩ := d
  cases h
  rfl

def channel : String := "kiln_cache::cache"

def empty : Cache fingerprint := ⟨[], {}, rfl⟩

def insert (c : Cache fingerprint) (e : CacheEntry) : Cache fingerprint where
  entries := c.entries ++ [e]
  buckets := c.buckets.add (fingerprint e.key) c.entries.length
  buckets_eq := by rw [c.buckets_eq, Buckets.ofEntries_append]

@[simp] theorem entries_empty : (empty : Cache fingerprint).entries = [] := rfl

@[simp] theorem entries_insert (c : Cache fingerprint) (e : CacheEntry) :
    (c.insert e).entries = c.entries ++ [e] := rfl

def ofList (entries : List CacheEntry) : Cache fingerprint := entries.foldl insert empty

@[simp] theorem entries_ofList (entries : List CacheEntry) :
    (ofList entries : Cache fingerprint).entries = entries := by
  suffices h : ∀ c : Cache fingerprint, (entries.foldl insert c).entries = c.entries ++ entries from
    h empty
  induction entries with
  | nil => simp
  | cons e rest ih => simp [ih]

@[simp] theorem ofList_entries (c : Cache fingerprint) : ofList c.entries = c :=
  eq_of_entries (entries_ofList c.entries)

def size (c : Cache fingerprint) : Nat := c.entries.length

def bucketCount (c : Cache fingerprint) : Nat := c.buckets.size

/-- The entries with the given key, in the order of insertion. -/
def candidates (c : Cache fingerprint) (key : ShaderKey) : List CacheEntry :=
  ((c.buckets.getD (fingerprint key) []).filterMap fun i => c.entries[i]?).filter fun e =>
    e.key = key

/-- Whether all dependencies are unchanged; none is looked at after the first that is not. -/
def allUnchanged (r : Resolver) : List Dependency → Traced Bool
  | [] => return true
  | d :: rest => do
    if ← d.isUnchanged r then allUnchanged r rest else return false

/-- The first entry whose dependencies are all unchanged. -/
def firstValid (r : Resolver) : List CacheEntry → Traced (Option CacheEntry)
  | [] => return none
  | e :: rest => do
    if ← allUnchanged r e.dependencies then return some e else firstValid r rest

/-- The shader of the first valid entry with the given key. -/
def find (c : Cache fingerprint) (key : ShaderKey) (r : Resolver) : Traced (Option Shader) := do
  let candidates := c.candidates key
  match ← firstValid r candidates with
  | some e =>
    Traced.log .debug channel "shader cache hit" [("source", key.identifier)]
    return some e.shader
  | none =>
    Traced.log .debug channel "shader cache miss"
      [("source", key.identifier), ("candidates", toString candidates.length)]
    return none

/-- A summary for debugging. -/
def summary (c : Cache fingerprint) : String :=
  "ShaderCache \x7b entries: " ++ toString c.size ++ ", buckets: " ++ toString c.bucketCount ++
    " \x7d"

end Cache

end ShaderBuild
