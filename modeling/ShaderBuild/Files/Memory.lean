import ShaderBuild.Files

/-!
Files kept in memory, one for each lexical normal form of a path.
-/

namespace ShaderBuild

/-- Files in the order of their first writing. -/
structure MemoryFiles where
  entries : List (Path × Bytes)
  /-- No two files have the same path. -/
  nodup : (entries.map Prod.fst).Nodup
  deriving DecidableEq, Repr

namespace MemoryFiles

def empty : MemoryFiles := ⟨[], List.nodup_nil⟩

instance : Inhabited MemoryFiles := ⟨empty⟩

def get? (m : MemoryFiles) (p : Path) : Option Bytes := m.entries.lookup p.normal

theorem normal_not_mem_of_get? {m : MemoryFiles} {p : Path} (h : ¬(m.get? p).isSome) :
    p.normal ∉ m.entries.map Prod.fst := by
  intro hmem
  obtain ⟨e, he, hpath⟩ := List.mem_map.1 hmem
  rw [Option.not_isSome_iff_eq_none, get?, List.lookup_eq_none_iff] at h
  simpa [hpath] using h e he

/-- The entries with a file added, or replaced in its place. -/
def entriesWith (m : MemoryFiles) (p : Path) (data : Bytes) : List (Path × Bytes) :=
  if (m.get? p).isSome then m.entries.map fun e => if e.1 = p.normal then (e.1, data) else e
  else m.entries ++ [(p.normal, data)]

theorem nodup_entriesWith (m : MemoryFiles) (p : Path) (data : Bytes) :
    ((m.entriesWith p data).map Prod.fst).Nodup := by
  rw [entriesWith]
  split
  · have hpaths : (m.entries.map fun e => if e.1 = p.normal then (e.1, data) else e).map Prod.fst =
        m.entries.map Prod.fst := by
      rw [List.map_map]
      refine List.map_congr_left fun e _ => ?_
      simp only [Function.comp]
      split <;> rfl
    rw [hpaths]
    exact m.nodup
  · rename_i hnew
    rw [List.map_append, List.map_singleton]
    refine List.nodup_append.2 ⟨m.nodup, by simp, ?_⟩
    rintro old hold added hadded rfl
    obtain rfl : old = p.normal := List.mem_singleton.1 hadded
    exact normal_not_mem_of_get? hnew hold

/-- Adds or replaces a file. -/
def insert (m : MemoryFiles) (p : Path) (data : Bytes) : MemoryFiles :=
  ⟨m.entriesWith p data, m.nodup_entriesWith p data⟩

def erase (m : MemoryFiles) (p : Path) : MemoryFiles :=
  ⟨m.entries.filter fun e => e.1 ≠ p.normal, m.nodup.sublist (List.filter_sublist.map Prod.fst)⟩

/-- Texts that are written one after the other. -/
def ofTexts (texts : List (String × String)) : MemoryFiles :=
  texts.foldl (fun m t => m.insert ⟨t.1⟩ (Bytes.ofText t.2)) empty

def size (m : MemoryFiles) : Nat := m.entries.length

def files (m : MemoryFiles) : Files where
  read p := match m.get? p with
    | some data => .ok data
    | none => .error (.absent p)
  canonical? p := if (m.get? p).isSome then some p.normal else none

end MemoryFiles

end ShaderBuild
