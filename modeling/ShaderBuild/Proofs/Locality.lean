import ShaderBuild.Proofs.FileChange
import ShaderBuild.Proofs.Lookup
import ShaderBuild.Proofs.Soundness

/-!
What a look-up in the cache can see of the files. A request reads the files under the search roots
and the one beside the requesting file, and nothing else. Main statement: `find_of_elsewhere`, by
which a look-up gives the same answer, with the same records, when a file changes that none of the
includes to be checked can read.
-/

namespace ShaderBuild

namespace MemoryFiles

variable {m m' : MemoryFiles} {p : Path}

/-! ## What a request can see -/

theorem resolved_congr (h : m.get? p = m'.get? p) : m.files.resolved p = m'.files.resolved p := by
  simp only [Files.resolved, files, h]

theorem read_congr (h : m.get? p = m'.get? p) : m.files.read p = m'.files.read p := by
  simp only [files, h]

/-- Loading looks at one file only. -/
theorem load_congr {root : Path} {name : String}
    (h : m.get? (root.join ⟨name⟩) = m'.get? (root.join ⟨name⟩)) :
    m.files.load root name = m'.files.load root name := by
  have hresolved := resolved_congr h
  have hread : m.files.read (m'.files.resolved (root.join ⟨name⟩)) =
      m'.files.read (m'.files.resolved (root.join ⟨name⟩)) := by
    apply read_congr
    rw [get?_resolved, ← hresolved, get?_resolved, h]
  simp only [Files.load, hresolved, hread]

end MemoryFiles

/-- The file that changes is none that the include is looked for at. -/
structure FileChange.Elsewhere (change : FileChange) (finder : Finder) (d : Dependency) : Prop where
  roots : ∀ s ∈ finder.searchPaths, (s.root.join ⟨d.identifier⟩).normal ≠ change.path.normal
  beside : (d.dir.join ⟨d.identifier⟩).normal ≠ change.path.normal

namespace Dependency

variable {finder : Finder} {m : MemoryFiles} {change : FileChange} {d : Dependency}

theorem resolve_of_elsewhere (loaders : ∀ s ∈ finder.searchPaths, s.loader = .files)
    (h : change.Elsewhere finder d) :
    d.resolve (finder.resolver (change.apply m).files) = d.resolve (finder.resolver m.files) := by
  have hsearched : finder.searched (change.apply m).files d.identifier =
      finder.searched m.files d.identifier := by
    apply Traced.firstSome_congr
    intro s hs
    simp only [loaders s hs, Loader.load,
      MemoryFiles.load_congr (MemoryFiles.get?_apply_of_ne (h.roots s hs))]
  have hbeside : Finder.beside (change.apply m).files d.dir d.identifier =
      Finder.beside m.files d.dir d.identifier := by
    rw [Finder.beside, Finder.beside,
      MemoryFiles.load_congr (MemoryFiles.get?_apply_of_ne h.beside)]
  rw [resolve, resolve]
  cases d.kind with
  | standard => simp only [Finder.resolver, Finder.standard, hsearched, hbeside]
  | relative => simp only [Finder.resolver, Finder.relative, hsearched, hbeside]

end Dependency

/-! ## What a look-up can see -/

namespace Cache

variable {fingerprint : ShaderKey → Hash128} {r r' : Resolver}

theorem allUnchanged_congr {dependencies : List Dependency}
    (h : ∀ d ∈ dependencies, d.resolve r = d.resolve r') :
    allUnchanged r dependencies = allUnchanged r' dependencies := by
  induction dependencies with
  | nil => rfl
  | cons d rest ih =>
    have hhead : d.isUnchanged r = d.isUnchanged r' := by
      rw [Dependency.isUnchanged, Dependency.isUnchanged, h d List.mem_cons_self]
    rw [allUnchanged, allUnchanged, hhead, ih fun b hb => h b (.tail _ hb)]

theorem firstValid_congr {entries : List CacheEntry}
    (h : ∀ e ∈ entries, ∀ d ∈ e.dependencies, d.resolve r = d.resolve r') :
    firstValid r entries = firstValid r' entries := by
  induction entries with
  | nil => rfl
  | cons e rest ih =>
    rw [firstValid, firstValid, allUnchanged_congr (h e List.mem_cons_self),
      ih fun b hb => h b (.tail _ hb)]

/-- A look-up asks for the includes of the entries with the key, and for nothing else. -/
theorem find_of_resolve_eq {c : Cache fingerprint} {key : ShaderKey}
    (h : ∀ e ∈ c.entries, e.key = key → ∀ d ∈ e.dependencies, d.resolve r = d.resolve r') :
    c.find key r = c.find key r' := by
  have hvalid : firstValid r (c.candidates key) = firstValid r' (c.candidates key) := by
    apply firstValid_congr
    intro e he
    rw [candidates_eq] at he
    obtain ⟨hmem, hkey⟩ := List.mem_filter.1 he
    exact h e hmem (of_decide_eq_true hkey)
  rw [find, find, hvalid]

/-- Writing or removing a file changes nothing about a look-up, unless it is a file that an include
of an entry with the key may be read from. -/
theorem find_of_elsewhere (c : Cache fingerprint) (key : ShaderKey) (finder : Finder)
    (m : MemoryFiles) (change : FileChange) (loaders : ∀ s ∈ finder.searchPaths, s.loader = .files)
    (elsewhere : ∀ e ∈ c.entries, e.key = key → ∀ d ∈ e.dependencies, change.Elsewhere finder d) :
    c.find key (finder.resolver (change.apply m).files) = c.find key (finder.resolver m.files) :=
  find_of_resolve_eq fun e he hkey d hd =>
    Dependency.resolve_of_elsewhere loaders (elsewhere e he hkey d hd)

/-! ## A file that is not asked for -/

/-- Makes every include under `gen`, and searches `lib`. -/
def mixed : Finder :=
  ⟨[⟨⟨"lib"⟩, .files⟩], [⟨"gen", ⟨"gen", fun name => return some ⟨⟨name⟩, "0\n"⟩⟩⟩], false⟩

/-- The second include is looked for beside the source first, and found on the search path. -/
def twofold : CacheEntry where
  key := ⟨"#include <gen/n>\n#include \"x\"\n", "src/m", .ofStage .fragment⟩
  dependencies :=
    [.record "gen/n" ⟨"src"⟩ .standard (some ⟨⟨"gen/n"⟩, "0\n"⟩),
      .record "x" ⟨"src"⟩ .relative (some ⟨⟨"lib/x"⟩, "1\n"⟩)]
  shader := ⟨.fragment, .glsl, "src/m", []⟩

def stocked : ShaderCache := Cache.empty.insert twofold

/-- Neither include is looked for at this path. -/
def aside : FileChange := .write ⟨"lib/gen/x"⟩ []

theorem isValid_twofold : isValid (mixed.resolver Session.library.files) twofold = true := by
  have hrecorded :
      ∀ d ∈ twofold.dependencies, d.RecordedBy (mixed.resolver Session.library.files) := by
    refine List.forall_mem_cons.2 ⟨?_, List.forall_mem_singleton.2 ?_⟩
    · exact Dependency.recordedBy_record (by decide +kernel)
    · exact Dependency.recordedBy_record (by decide +kernel)
  exact List.all_eq_true.2 fun d hd => Dependency.unchanged_of_contents (hrecorded d hd) rfl

theorem find_of_elsewhere_stocked :
    (∀ s ∈ mixed.searchPaths, s.loader = .files) ∧
      (∀ e ∈ stocked.entries, e.key = twofold.key → ∀ d ∈ e.dependencies, aside.Elsewhere mixed d) ∧
      (stocked.find twofold.key (mixed.resolver (aside.apply Session.library).files)).value =
        some twofold.shader := by
  have hloaders : ∀ s ∈ mixed.searchPaths, s.loader = .files := by simp [mixed]
  have helsewhere : ∀ e ∈ stocked.entries, e.key = twofold.key →
      ∀ d ∈ e.dependencies, aside.Elsewhere mixed d := by
    intro e he _ d hd
    obtain rfl := List.mem_singleton.1 he
    exact ⟨fun s hs => by revert s d; decide +kernel, by revert d; decide +kernel⟩
  refine ⟨hloaders, helsewhere, ?_⟩
  rw [find_of_elsewhere stocked twofold.key mixed Session.library _ hloaders helsewhere,
    stocked, find_only, if_pos ⟨rfl, isValid_twofold⟩]

end Cache

end ShaderBuild
