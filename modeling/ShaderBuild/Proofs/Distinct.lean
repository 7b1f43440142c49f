import Mathlib.Data.List.Forall2
import ShaderBuild.Proofs.Workspace

/-!
No cache that started empty holds an entry twice. Main statement: `entries_distinct`. An entry is
added only where every other one with its key has a changed include, whereas its own includes were
just resolved; so it has other includes than each of them, whatever was edited, or edited back, in
between.
-/

namespace ShaderBuild

variable {fingerprint : ShaderKey → Hash128}

/-! ## Spellings of a directory -/

namespace Found

theorem contents_nonEmpty (found : Found) :
    contents (IncludeText.nonEmpty found) = found.contents := by
  cases found with
  | none => rfl
  | some t =>
    by_cases h : t.contents = ""
    · simp [IncludeText.nonEmpty, contents, Option.filter, h]
    · simp [IncludeText.nonEmpty, contents, Option.filter, h]

theorem Substantial.contents_or {a a' b b' : Found} (ha : a.Substantial) (ha' : a'.Substantial)
    (h : a.contents = a'.contents) (hb : b.contents = b'.contents) :
    contents (a.or b) = contents (a'.or b') := by
  cases a with
  | none =>
    cases a' with
    | none => exact hb
    | some t => exact absurd h.symm (ha' t rfl)
  | some t =>
    cases a' with
    | none => exact absurd h (ha t rfl)
    | some t' => exact h

end Found

/-- Directories with the same components hold the same texts. -/
def Files.Lexical (files : Files) : Prop :=
  ∀ (dir dir' : Path) (name : String), dir.same dir' →
    Found.contents (files.load dir name).value = Found.contents (files.load dir' name).value

theorem MemoryFiles.lexical (m : MemoryFiles) : m.files.Lexical := by
  intro dir dir' name h
  have hnormal := Path.normal_eq_of_same (Path.same_join h ⟨name⟩)
  rw [← Found.contents_nonEmpty, ← Found.contents_nonEmpty (m.files.load dir' name).value,
    m.value_load, m.value_load, m.textAt?_congr hnormal]

/-- The same include, from a directory with the same components. -/
structure Dependency.Same (d d' : Dependency) : Prop where
  identifier_eq : d.identifier = d'.identifier
  dir_same : d.dir.same d'.dir
  kind_eq : d.kind = d'.kind
  digest_eq : d.digest = d'.digest
  contents_eq : d.contents = d'.contents

theorem Dependency.Same.symm {d d' : Dependency} (h : d.Same d') : d'.Same d where
  identifier_eq := h.identifier_eq.symm
  dir_same := by
    have := h.dir_same
    rw [Path.same, beq_iff_eq] at this ⊢
    exact this.symm
  kind_eq := h.kind_eq.symm
  digest_eq := h.digest_eq.symm
  contents_eq := h.contents_eq.symm

theorem Finder.contents_request_of_same (f : Finder) {files : Files} (hfiles : files.Lexical)
    {dir dir' : Path} (hdir : dir.same dir') (kind : IncludeKind) (name : String) :
    Found.contents ((f.resolver files).request kind dir name).value =
      Found.contents ((f.resolver files).request kind dir' name).value := by
  have hsearched := f.substantial_searched files name
  have hbeside : Found.contents (beside files dir name).value =
      Found.contents (beside files dir' name).value := by
    simp only [beside, Traced.value_map, Found.contents_nonEmpty]
    exact hfiles dir dir' name hdir
  cases kind with
  | standard =>
    simp only [resolver, standard, Traced.value_orElse]
    have hgenerated := f.substantial_generated name
    exact hgenerated.contents_or hgenerated rfl (hsearched.contents_or hsearched rfl hbeside)
  | relative =>
    simp only [resolver, relative, Traced.value_orElse]
    exact (substantial_beside files dir name).contents_or (substantial_beside files dir' name)
      hbeside rfl

theorem Dependency.Same.isUnchanged_eq {d d' : Dependency} (h : d.Same d') (finder : Finder)
    {files : Files} (hfiles : files.Lexical) :
    (d.isUnchanged (finder.resolver files)).value =
      (d'.isUnchanged (finder.resolver files)).value := by
  have hcontents := finder.contents_request_of_same hfiles h.dir_same d.kind d.identifier
  rw [h.kind_eq, h.identifier_eq] at hcontents
  simp only [isUnchanged, resolve, Traced.value_map, Found.digest, h.kind_eq,
    h.identifier_eq, h.digest_eq, h.contents_eq, hcontents]

theorem Cache.isValid_of_same (finder : Finder) {files : Files} (hfiles : files.Lexical)
    {e e' : CacheEntry} (h : List.Forall₂ Dependency.Same e.dependencies e'.dependencies) :
    isValid (finder.resolver files) e = isValid (finder.resolver files) e' := by
  rw [isValid, isValid]
  generalize e.dependencies = ds at h ⊢
  generalize e'.dependencies = ds' at h ⊢
  induction h with
  | nil => rfl
  | cons hhead _ ih => rw [List.all_cons, List.all_cons, hhead.isUnchanged_eq finder hfiles, ih]

/-! ## Distinct entries -/

namespace CacheEntry

/-- The same key and the same includes. -/
def Duplicates (e e' : CacheEntry) : Prop := e.key = e'.key ∧ e.dependencies = e'.dependencies

/-- The same key and the same includes, from directories with the same components. -/
def Resembles (e e' : CacheEntry) : Prop :=
  e.key = e'.key ∧ List.Forall₂ Dependency.Same e.dependencies e'.dependencies

theorem Duplicates.symm {e e' : CacheEntry} (h : e.Duplicates e') : e'.Duplicates e :=
  ⟨h.1.symm, h.2.symm⟩

theorem Resembles.symm {e e' : CacheEntry} (h : e.Resembles e') : e'.Resembles e :=
  ⟨h.1.symm, h.2.flip.imp fun _ _ hsame => hsame.symm⟩

end CacheEntry

namespace Workspace

variable {finder : Finder} {w : Workspace fingerprint}

/-- A relation between entries that have the same key and are valid at the same time keeps away from
the cache: a new entry is valid when it is added, and the old ones with its key are not. -/
theorem pairwise_of_becomes {Alike : CacheEntry → CacheEntry → Prop}
    (symm : ∀ {e e'}, Alike e e' → Alike e' e) (hkey : ∀ {e e'}, Alike e e' → e.key = e'.key)
    (hvalid : ∀ {e e'}, Alike e e' → Cache.isValid (w.resolver finder) e = Cache.isValid
    (w.resolver finder) e') (h : w.cache.entries.Pairwise fun e e' => ¬ Alike e e')
    {entries : List CacheEntry} (hentries : w.Becomes finder entries) : entries.Pairwise fun e e' =>
    ¬ Alike e e' := by
  cases hentries with
  | clear => exact .nil
  | arrange perm => exact (perm.pairwise_iff fun hne halike => hne (symm halike)).2 h
  | @add call new missed made =>
    refine List.pairwise_append.2 ⟨h, List.pairwise_singleton _ _, fun old hold e he halike => ?_⟩
    obtain rfl := List.mem_singleton.1 he
    have hkeys : old.key = call.job.key := (hkey halike).trans (Compiler.key_of_fresh made)
    have hold := Cache.find_eq_none_iff.1 missed old hold hkeys
    have hnew := Compiler.isValid_of_fresh made
    rw [compiler_resolver, ← hvalid halike, hold] at hnew
    cases hnew

/-- The files before and after every edit of a run are told apart by the components of their
paths. -/
def LexicalThroughout (files : Files) (steps : List Step) : Prop :=
  files.Lexical ∧ ∀ s ∈ steps, ∀ files', s = .act (.edit files') → files'.Lexical

theorem lexical_step {s : Step} (h : w.files.Lexical)
    (hs : ∀ files, s = .act (.edit files) → files.Lexical) : (w.step finder s).files.Lexical := by
  cases s with
  | clear => exact h
  | reload => exact h
  | rebuild order => exact h
  | act a =>
    cases a with
    | edit files => exact hs files rfl
    | compile call => exact h

/-- No two entries of a cache that started empty have the same key and the same includes. Where
directories with the same components are the same, not even entries that spell them differently
do. -/
theorem entries_distinct (finder : Finder) (files : Files) (steps : List Step) :
    let entries := ((⟨files, .empty⟩ : Workspace fingerprint).run finder steps).cache.entries
    entries.Pairwise (fun e e' => ¬ e.Duplicates e') ∧
      (LexicalThroughout files steps → entries.Pairwise fun e e' => ¬ e.Resembles e') := by
  constructor
  · refine List.foldlRecOn (motive := fun w : Workspace fingerprint => w.cache.entries.Pairwise _)
      steps _ .nil fun w hw s _ => ?_
    refine pairwise_of_becomes .symm (·.1) (fun h => ?_) hw (w.becomes_step finder s)
    rw [Cache.isValid, Cache.isValid, h.2]
  · rintro ⟨hfiles, hsteps⟩
    refine (List.foldlRecOn (motive := fun w : Workspace fingerprint =>
      w.files.Lexical ∧ w.cache.entries.Pairwise _) steps _ ⟨hfiles, .nil⟩ fun w hw s hs => ?_).2
    refine ⟨lexical_step hw.1 (hsteps s hs), ?_⟩
    exact pairwise_of_becomes .symm (·.1) (fun h => Cache.isValid_of_same finder hw.1 h.2) hw.2
      (w.becomes_step finder s)

/-! ## A header that is edited, and edited back -/

open Session

/-- A job is compiled with some files, with others, and with the first ones again. -/
def backAndForth (m now : MemoryFiles) (call : CompileCall) : List Step :=
  [.act (.compile call), .act (.edit now.files), .act (.compile call), .act (.edit m.files),
    .act (.compile call), .reload]

theorem lexical_backAndForth (m now : MemoryFiles) (call : CompileCall) :
    LexicalThroughout m.files (backAndForth m now call) := by
  refine ⟨m.lexical, fun s hs files hedit => ?_⟩
  subst hedit
  simp only [backAndForth, List.mem_cons, Step.act.injEq, Act.edit.injEq, reduceCtorEq,
    List.not_mem_nil, or_false, false_or] at hs
  rcases hs with rfl | rfl
  · exact now.lexical
  · exact m.lexical

/-- The second call adds an entry to that of the first, and the third adds none. -/
theorem entries_backAndForth {m now : MemoryFiles} {call : CompileCall} {e e' : CacheEntry}
    (hmade : ((Compiler.mk (finder.resolver m.files) call.depth call.backend).compileFresh
      call.job).value = .ok e)
    (hmade' : ((Compiler.mk (finder.resolver now.files) call.depth call.backend).compileFresh
      call.job).value = .ok e')
    (hchanged : Cache.isValid (finder.resolver now.files) e = false) :
    ((⟨m.files, .empty⟩ : Workspace fingerprint).run finder
      (backAndForth m now call)).cache.entries = [e, e'] := by
  have hkey := Compiler.key_of_fresh hmade
  have hback := Compiler.isValid_of_fresh hmade
  let one : Cache fingerprint := Cache.empty.insert e
  let both : Cache fingerprint := one.insert e'
  have hfirst : (⟨m.files, .empty⟩ : Workspace fingerprint).act finder (.compile call) =
      ⟨m.files, one⟩ :=
    act_of_empty hmade
  have hsecond : (⟨now.files, one⟩ : Workspace fingerprint).act finder (.compile call) =
      ⟨now.files, both⟩ := by
    refine act_of_missed ?_ hmade'
    rw [Cache.find_only, if_neg fun h => by simp [resolver, hchanged] at h]
  have hfound : (both.find call.job.key (finder.resolver m.files)).value = some e.shader := by
    rw [Cache.value_find]
    simp [both, one, hkey, hback]
  have hthird : (⟨m.files, both⟩ : Workspace fingerprint).act finder (.compile call) =
      ⟨m.files, both⟩ :=
    act_of_found hfound
  simp only [run, backAndForth, List.foldl_cons, List.foldl_nil, step, hfirst, act.eq_1,
    hsecond, hthird, Cache.reload_eq]
  rfl

theorem entries_distinct_backAndForth :
    let steps := backAndForth library edited ⟨including "<x>" "m", defaultDepth, echo⟩
    let entries := ((⟨library.files, .empty⟩ : Workspace ShaderKey.fingerprint).run
      (searching ["lib"]).finder steps).cache.entries
    LexicalThroughout library.files steps ∧ entries.length = 2 ∧
      entries.Pairwise (fun e e' => e.key = e'.key) ∧ entries.Pairwise fun e e' =>
        ¬ e.Resembles e' := by
  intro steps entries
  have hchecked : makes (searching ["lib"]) library (including "<x>" "m")
      (fun e => !sameContents (searching ["lib"]) edited e) = true := by
    decide +kernel
  have hchecked' : makes (searching ["lib"]) edited (including "<x>" "m") (fun _ => true) =
      true := by
    decide +kernel
  obtain ⟨e, hmade, hother⟩ := makes_iff.1 hchecked
  obtain ⟨e', hmade', _⟩ := makes_iff.1 hchecked'
  have hentries : entries = [e, e'] :=
    entries_backAndForth hmade hmade' (isValid_of_otherContents (by simpa using hother))
  have hlexical : LexicalThroughout library.files steps := lexical_backAndForth _ _ _
  refine ⟨hlexical, ?_, ?_, (entries_distinct _ _ _).2 hlexical⟩
  · rw [hentries]
    rfl
  · rw [hentries, List.pairwise_pair, Compiler.key_of_fresh hmade, Compiler.key_of_fresh hmade']

end Workspace

end ShaderBuild
