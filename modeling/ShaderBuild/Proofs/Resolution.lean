import ShaderBuild.Files.Memory
import ShaderBuild.Include.Dependency
import ShaderBuild.Proofs.NormalPath

/-!
What a request for an include finds. Main statements: `contents_ne_of_request`, by which no request
is answered with an empty text, and `value_request`, by which a finder without generators or loaders
of its own answers with the first text among the places it looks at.
-/

namespace ShaderBuild

/-! ## No empty text -/

theorem IncludeText.contents_ne_of_nonEmpty {found : Found} {t : IncludeText}
    (h : IncludeText.nonEmpty found = some t) : t.contents ≠ "" := (nonEmpty_eq_some_iff.1 h).2

/-- No text that it carries is empty. -/
def Found.Substantial (found : Found) : Prop := ∀ t ∈ found, t.contents ≠ ""

theorem IncludeText.substantial_nonEmpty (found : Found) :
    Found.Substantial (IncludeText.nonEmpty found) :=
  fun _ h => contents_ne_of_nonEmpty h

namespace Found

theorem Substantial.or {a b : Found} (ha : a.Substantial) (hb : b.Substantial) :
    Found.Substantial (a.or b) := by
  cases a with
  | none => simpa using hb
  | some t => simpa using ha

theorem substantial_findSome? {α : Type} {look : α → Found} {as : List α}
    (h : ∀ a ∈ as, (look a).Substantial) : Found.Substantial (as.findSome? look) := by
  intro t ht
  obtain ⟨a, ha, hlook⟩ := List.exists_of_findSome?_eq_some ht
  exact h a ha t hlook

end Found

namespace Finder

theorem substantial_askFrom (generators : List Registered) (name : String) (homes : List String)
    (start : Nat) : (askFrom generators name homes start).value.Substantial := by
  induction homes generalizing start with
  | nil => exact nofun
  | cons home homes ih =>
    rw [askFrom]
    split
    · exact nofun
    · simp only [Traced.value_bind, Traced.value_firstSome]
      split
      · rename_i text htext
        intro t ht
        obtain rfl : text = t := by simpa using ht
        have hfirst := Found.substantial_findSome? (fun e _ => ?_) text htext
        · exact hfirst
        · rw [Registered.ask, Traced.value_map]
          exact IncludeText.substantial_nonEmpty _
      · exact ih _

theorem substantial_generated (f : Finder) (name : String) : (f.generated name).value.Substantial :=
  substantial_askFrom _ _ _ _

theorem substantial_searched (f : Finder) (files : Files) (name : String) :
    (f.searched files name).value.Substantial := by
  rw [searched, Traced.value_firstSome]
  apply Found.substantial_findSome?
  intro s _
  rw [Traced.value_map]
  exact IncludeText.substantial_nonEmpty _

theorem substantial_beside (files : Files) (dir : Path) (name : String) :
    (beside files dir name).value.Substantial := by
  rw [beside, Traced.value_map]
  exact IncludeText.substantial_nonEmpty _

/-- No request is answered with an empty text. -/
theorem contents_ne_of_request {f : Finder} {files : Files} {kind : IncludeKind} {dir : Path}
    {name : String} {t : IncludeText}
    (h : ((f.resolver files).request kind dir name).value = some t) :
    t.contents ≠ "" := by
  have hsearched := f.substantial_searched files name
  have hbeside := substantial_beside files dir name
  cases kind with
  | standard =>
    simp only [resolver, standard, Traced.value_orElse] at h
    exact (f.substantial_generated name).or (hsearched.or hbeside) t h
  | relative =>
    simp only [resolver, relative, Traced.value_orElse] at h
    exact hbeside.or hsearched t h

end Finder

/-! ## Files in memory -/

namespace MemoryFiles

/-- The text of the file at a path, unless there is none, it is no text or it is empty. -/
def textAt? (m : MemoryFiles) (p : Path) : Found :=
  IncludeText.nonEmpty (((m.get? p).bind Bytes.text?).map fun contents => ⟨p.normal, contents⟩)

/-- A file is found under every spelling of its path. -/
theorem textAt?_congr (m : MemoryFiles) {p q : Path} (h : p.normal = q.normal) :
    m.textAt? p = m.textAt? q := by
  unfold textAt? get?
  rw [h]

@[simp] theorem get?_normal (m : MemoryFiles) (p : Path) : m.get? p.normal = m.get? p := by
  simp [get?, Path.normal_normal]

theorem get?_resolved (m : MemoryFiles) (p : Path) : m.get? (m.files.resolved p) = m.get? p := by
  simp only [Files.resolved, files]
  split <;> simp

theorem resolved_of_isSome {m : MemoryFiles} {p : Path} (h : (m.get? p).isSome) :
    m.files.resolved p = p.normal := by
  simp [Files.resolved, files, h]

theorem read_of_some {m : MemoryFiles} {p : Path} {data : Bytes} (h : m.get? p = some data) :
    m.files.read (m.files.resolved p) = .ok data := by
  rw [← get?_resolved] at h
  simp only [files] at h ⊢
  rw [h]

theorem read_of_none {m : MemoryFiles} {p : Path} (h : m.get? p = none) :
    m.files.read (m.files.resolved p) = .error (.absent (m.files.resolved p)) := by
  rw [← get?_resolved] at h
  simp only [files] at h ⊢
  rw [h]

theorem value_load (m : MemoryFiles) (root : Path) (name : String) :
    IncludeText.nonEmpty (m.files.load root name).value = m.textAt? (root.join ⟨name⟩) := by
  rw [Files.load, textAt?]
  cases hget : m.get? (root.join ⟨name⟩) with
  | none =>
    rw [read_of_none hget]
    rfl
  | some data =>
    rw [read_of_some hget, resolved_of_isSome (by simp [hget])]
    simp only [Option.bind_some]
    cases Bytes.text? data <;> rfl

/-- The path under which a file is kept. -/
def IsKept (m : MemoryFiles) (p : Path) : Prop := p.normal = p ∧ (m.get? p).isSome

theorem isKept_of_textAt? {m : MemoryFiles} {p : Path} {t : IncludeText}
    (h : m.textAt? p = some t) :
    m.IsKept t.path := by
  rw [textAt?, IncludeText.nonEmpty_eq_some_iff] at h
  obtain ⟨contents, hcontents, rfl⟩ := Option.map_eq_some_iff.1 h.1
  obtain ⟨data, hdata, _⟩ := Option.bind_eq_some_iff.1 hcontents
  exact ⟨Path.normal_normal p, by simp [hdata]⟩

/-- What is found at a path is found again at the path that it is kept under. -/
theorem textAt?_path {m : MemoryFiles} {p : Path} {t : IncludeText} (h : m.textAt? p = some t) :
    m.textAt? t.path = some t := by
  have hpath : t.path = p.normal := by
    rw [textAt?, IncludeText.nonEmpty_eq_some_iff] at h
    obtain ⟨contents, _, rfl⟩ := Option.map_eq_some_iff.1 h.1
    rfl
  rw [← h, hpath, textAt?, textAt?, get?_normal, Path.normal_normal]

theorem mem_keys_of_isKept {m : MemoryFiles} {p : Path} (h : m.IsKept p) :
    p ∈ m.entries.map Prod.fst := by
  obtain ⟨data, hdata⟩ := Option.isSome_iff_exists.1 h.2
  rw [get?, h.1] at hdata
  obtain ⟨before, after, hentries, _⟩ := List.lookup_eq_some_iff.1 hdata
  simp [hentries]

/-- Paths that files are kept under are equal if they name the same place. -/
theorem IsKept.eq_of_same {m : MemoryFiles} {p q : Path} (hp : m.IsKept p) (hq : m.IsKept q)
    (h : p.same q) : p = q := by
  rw [← hp.1, ← hq.1] at h ⊢
  exact Path.eq_of_same_normal h

end MemoryFiles

/-! ## Places -/

namespace Finder

/-- Where a finder without generators looks for an include, in order. -/
def places (f : Finder) (kind : IncludeKind) (dir : Path) (name : String) : List Path :=
  let searched := f.searchPaths.map fun s => s.root.join ⟨name⟩
  match kind with
  | .standard => searched ++ [dir.join ⟨name⟩]
  | .relative => dir.join ⟨name⟩ :: searched

/-- Every include comes from a file. -/
structure IsPlain (f : Finder) : Prop where
  generators : f.generators = []
  loaders : ∀ s ∈ f.searchPaths, s.loader = .files

theorem IsPlain.value_searched {f : Finder} (hf : f.IsPlain) (m : MemoryFiles) (name : String) :
    (f.searched m.files name).value =
      (f.searchPaths.map fun s => s.root.join ⟨name⟩).findSome? m.textAt? := by
  have hloaders := hf.loaders
  rw [searched, Traced.value_firstSome]
  generalize f.searchPaths = paths at hloaders ⊢
  induction paths with
  | nil => rfl
  | cons s rest ih =>
    rw [List.findSome?_cons, List.map_cons, List.findSome?_cons, Traced.value_map,
      hloaders s List.mem_cons_self, Loader.load, m.value_load, ih fun s hs =>
        hloaders s (.tail _ hs)]

theorem value_generated_of_nil {f : Finder} (h : f.generators = []) (name : String) :
    (f.generated name).value = none := by
  rw [generated, h]
  cases homesOf name <;> simp [askFrom]

theorem value_beside (m : MemoryFiles) (dir : Path) (name : String) :
    (beside m.files dir name).value = m.textAt? (dir.join ⟨name⟩) := m.value_load dir name

theorem IsPlain.value_request {f : Finder} (hf : f.IsPlain) (m : MemoryFiles) (kind : IncludeKind)
    (dir : Path) (name : String) :
    ((f.resolver m.files).request kind dir name).value =
      (f.places kind dir name).findSome? m.textAt? := by
  have hbeside := value_beside m dir name
  have hsearched := hf.value_searched m name
  cases kind with
  | standard =>
    have hgenerated := value_generated_of_nil hf.generators name
    simp only [resolver, standard, Traced.value_orElse, hgenerated, hsearched, hbeside, places,
      List.findSome?_append, List.findSome?_singleton, Option.none_or]
  | relative =>
    simp only [resolver, relative, Traced.value_orElse, hsearched, hbeside, places,
      List.findSome?_cons]
    cases m.textAt? (dir.join ⟨name⟩) <;> rfl

end Finder

end ShaderBuild
