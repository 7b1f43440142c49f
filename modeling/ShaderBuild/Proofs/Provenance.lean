import Mathlib.Data.List.Basic
import ShaderBuild.Proofs.IncludeGraph
import ShaderBuild.Proofs.Snapshot

/-!
Which texts an include may be taken to repeat. The expansion knows a text by its path alone. Main
statement: `repeats_share_source`, by which an include that is left out, or said to be recursive,
has the path of a text of which the expansion has begun, and the contents too if one source gave
both. The files are one source; a generator's answer to one name is another, and
`other_texts_taken_for_repeats` shows what comes of two.
-/

namespace ShaderBuild

/-- What gave a text. -/
inductive Provenance where
  | files
  | generators (name : String)
  | searchPaths (name : String)

namespace IncludeGraph

variable {g : IncludeGraph}

/-! ## Sources -/

def Gives (g : IncludeGraph) (t : IncludeText) : Provenance → Prop
  | .files => g.memory.textAt? t.path = some t
  | .generators name => (g.finder.generated name).value = some t
  | .searchPaths name => (g.finder.searched g.memory.files name).value = some t

/-- Every text that answers a request was given by something. -/
theorem exists_gives {kind : IncludeKind} {dir : Path} {name : String} {t : IncludeText}
    (h : (g.resolver.request kind dir name).value = some t) : ∃ p, g.Gives t p := by
  have hbeside : (Finder.beside g.memory.files dir name).value = some t → ∃ p, g.Gives t p := by
    rw [Finder.value_beside]
    exact fun hfound => ⟨.files, MemoryFiles.textAt?_path hfound⟩
  have hsearched : (g.finder.searched g.memory.files name).value = some t → ∃ p, g.Gives t p :=
    fun hfound => ⟨.searchPaths name, hfound⟩
  cases kind with
  | standard =>
    simp only [resolver, Finder.resolver, Finder.standard, Traced.value_orElse,
      Option.or_eq_some_iff] at h
    rcases h with hgenerated | ⟨_, hfound | ⟨_, hfound⟩⟩
    · exact ⟨.generators name, hgenerated⟩
    · exact hsearched hfound
    · exact hbeside hfound
  | relative =>
    simp only [resolver, Finder.resolver, Finder.relative, Traced.value_orElse,
      Option.or_eq_some_iff] at h
    rcases h with hfound | ⟨_, hfound⟩
    · exact hbeside hfound
    · exact hsearched hfound

/-- One source gives one text for a path. -/
theorem Gives.contents_eq {t u : IncludeText} {p : Provenance} (ht : g.Gives t p) (hu : g.Gives u p)
    (h : t.path.same u.path) : t.contents = u.contents := by
  cases p with
  | files =>
    have hpath := (MemoryFiles.isKept_of_textAt? ht).eq_of_same (MemoryFiles.isKept_of_textAt? hu) h
    rw [Gives, hpath] at ht
    rw [Option.some.inj (ht.symm.trans hu)]
  | generators name => rw [Option.some.inj (ht.symm.trans hu)]
  | searchPaths name => rw [Option.some.inj (ht.symm.trans hu)]

theorem gives_files_of_isPlain (hg : g.finder.IsPlain) {kind : IncludeKind} {dir : Path}
    {name : String} {t : IncludeText} (h : (g.resolver.request kind dir name).value = some t) :
    g.Gives t .files := by
  rw [resolver, hg.value_request] at h
  obtain ⟨place, _, hplace⟩ := List.exists_of_findSome?_eq_some h
  exact MemoryFiles.textAt?_path hplace

/-- Some request is answered with the text. -/
def Answered (g : IncludeGraph) (t : IncludeText) : Prop :=
  ∃ kind dir name, (g.resolver.request kind dir name).value = some t

theorem answered_of_meets {t : OpenText} {i : Inclusion} (h : t.Meets g.resolver i) :
    g.Answered i.text := by
  obtain ⟨_, _, found⟩ := h
  exact ⟨_, _, _, found⟩

/-- An include of `u` may be taken to repeat `t`. -/
structure StandsFor (g : IncludeGraph) (t u : IncludeText) : Prop where
  path : u.path.same t.path
  given : (∃ p, g.Gives t p) ∧ ∃ p, g.Gives u p
  contents : ∀ p, g.Gives t p → g.Gives u p → t.contents = u.contents
  plain : g.finder.IsPlain → t.contents = u.contents

theorem standsFor_of_same {t u : IncludeText} (ht : g.Answered t) (hu : g.Answered u)
    (h : u.path.same t.path) :
    g.StandsFor t u := by
  obtain ⟨_, _, _, ht⟩ := ht
  obtain ⟨_, _, _, hu⟩ := hu
  have hcontents : ∀ p, g.Gives t p → g.Gives u p → t.contents = u.contents :=
    fun p htp hup => htp.contents_eq hup (same_comm u.path t.path ▸ h)
  refine ⟨h, ⟨exists_gives ht, exists_gives hu⟩, hcontents, fun hg => ?_⟩
  exact hcontents .files (gives_files_of_isPlain hg ht) (gives_files_of_isPlain hg hu)

/-! ## Texts that were begun -/

/-- The source text as a text with a path. -/
def mainText (g : IncludeGraph) : IncludeText := ⟨g.main, g.source⟩

/-- The snapshots that the preprocessing of the source text goes through. -/
def Visits (g : IncludeGraph) (limit : Nat) (s : Snapshot) : Prop :=
  Snapshot.Leads g.resolver limit (.start g.resolver g.source g.path) s

/-- The open texts were begun, all but the source text answered a request, and every path that is
kept from another expansion is that of a text with `#pragma once`. -/
structure Traceable (g : IncludeGraph) (s : Snapshot) : Prop where
  levels : ∀ t ∈ s.levels, t.text ∈ s.begun
  answered : ∀ t ∈ s.begun, t = g.mainText ∨ g.Answered t
  once : ∀ p ∈ s.sofar.once, ∃ t ∈ s.begun, t.path = p ∧ hasPragmaOnce t.contents.toList = true

theorem traceable_start : g.Traceable (.start g.resolver g.source g.path) where
  levels t ht := by
    obtain rfl := List.mem_singleton.1 ht
    exact List.mem_singleton_self _
  answered t ht := .inl (List.mem_singleton.1 ht)
  once := Snapshot.kept_start g.resolver g.source g.path

theorem Traceable.step {limit : Nat} {s s' : Snapshot} (h : g.Traceable s)
    (hstep : s.Step g.resolver limit s') :
    g.Traceable s' := by
  have hlevels := hstep.levels_begun h.levels
  have honce := hstep.kept h.once
  cases hstep with
  | leave _ _ => exact ⟨hlevels, h.answered, honce⟩
  | pass _ _ _ _ => exact ⟨hlevels, h.answered, honce⟩
  | enter _ meets _ _ _ =>
    exact ⟨hlevels, List.forall_mem_cons.2 ⟨.inr (answered_of_meets meets), h.answered⟩, honce⟩

theorem Visits.traceable {limit : Nat} {s : Snapshot} (h : g.Visits limit s) : g.Traceable s :=
  h.invariant (fun _ _ hs hstep => hs.step hstep) traceable_start

/-! ## Repetitions -/

/-- A text that was begun and has the path of an include, though this is not the path of the source
text. -/
theorem Visits.standsFor_of_begun {limit : Nat} {s : Snapshot} (h : g.Visits limit s)
    {t : IncludeText} (ht : t ∈ s.begun) {u : IncludeText} (hu : g.Answered u)
    (hsame : u.path.same t.path) (hother : u.path.same g.main = false) : g.StandsFor t u := by
  rcases h.traceable.answered t ht with rfl | hanswered
  · exact absurd hsame (Bool.eq_false_iff.1 hother)
  · exact standsFor_of_same hanswered hu hsame

theorem Visits.standsFor_of_skip {limit : Nat} {s : Snapshot} {i : Inclusion} (h : g.Visits limit s)
    (hskip : s.turn g.resolver limit = some (.skip i)) :
    ∃ t ∈ s.begun, hasPragmaOnce t.contents.toList = true ∧ g.StandsFor t i.text := by
  obtain ⟨t, outer, hlevels, hasks⟩ := Snapshot.asks_of_turn hskip
  cases hasks with
  | skip meets fresh seen =>
    obtain ⟨_, hq, hsame⟩ := List.any_eq_true.1 seen
    obtain ⟨u, hu, rfl, honce⟩ := h.traceable.once _ hq
    -- An include of the source text itself would be an error and not be left out.
    have hmain : g.main ∈ s.stack := List.mem_of_getLast? (h.grounded.getLast? hlevels)
    have hother : i.text.path.same g.main = false := by
      simpa using List.any_eq_false.1 fresh _ hmain
    exact ⟨u, hu, honce, h.standsFor_of_begun hu (answered_of_meets meets) hsame hother⟩

theorem Visits.standsFor_of_open {limit : Nat} {s : Snapshot} {t : OpenText} {i : Inclusion}
    (h : g.Visits limit s) (meets : t.Meets g.resolver i) (hopen : i.text.path.mem s.stack = true)
    (hother : i.text.path.same g.main = false) : ∃ u ∈ s.levels, g.StandsFor u.text i.text := by
  obtain ⟨_, hq, hsame⟩ := List.any_eq_true.1 hopen
  obtain ⟨u, hu, rfl⟩ := List.mem_map.1 hq
  exact ⟨u, hu, h.standsFor_of_begun (h.traceable.levels u hu) (answered_of_meets meets) hsame
    hother⟩

/-- Whatever is left out because of `#pragma once` has the path of a text with `#pragma once` of
which the expansion has begun; whatever is said to be recursive has the path of the source text or
of an open text; and the contents are the same if one source gave both. -/
theorem repeats_share_source (g : IncludeGraph) (limit : Nat) (defines : List Define) :
    (∀ out, (ShaderBuild.preprocess g.resolver limit defines g.source g.path).value = .ok out →
      ∃ s, g.Visits limit s ∧ s.levels = [] ∧ Define.inject? s.sofar.code defines =
        some out.code.toList ∧ s.sofar.dependencies = out.dependencies) ∧
    (∀ s i, g.Visits limit s → s.turn g.resolver limit = some (.skip i) →
      ∃ t ∈ s.begun, hasPragmaOnce t.contents.toList = true ∧ g.StandsFor t i.text) ∧
    ∀ name file number,
      (ShaderBuild.preprocess g.resolver limit defines g.source g.path).value =
        .error (.recursive name file number) →
          ∃ s t outer i, g.Visits limit s ∧ s.levels = t :: outer ∧ t.Meets g.resolver i ∧
            i.name = name ∧ t.file = file ∧ t.number = number ∧
        (i.text.path.same g.main = false → ∃ u ∈ s.levels, g.StandsFor u.text i.text) := by
  refine ⟨fun out hout => Snapshot.exists_finished_of_preprocess hout,
    fun s i hs => hs.standsFor_of_skip, ?_⟩
  intro name file number herror
  obtain ⟨s, hs, hstop⟩ := Snapshot.exists_stopped_of_preprocess herror
  obtain ⟨t, outer, hlevels, hasks⟩ := Snapshot.asks_of_turn hstop
  cases hasks with
  | recursive meets hopen =>
    exact ⟨s, t, outer, _, hs, hlevels, meets, rfl, rfl, rfl,
      Visits.standsFor_of_open hs meets hopen⟩

/-! ## Two texts of one path -/

/-- An include is left out, but nothing with its contents was begun. -/
def LeavesOutUnread (g : IncludeGraph) (limit : Nat) : Prop :=
  ∃ s i, g.Visits limit s ∧ s.turn g.resolver limit = some (.skip i) ∧ ∀ t ∈ s.begun, t.contents ≠
    i.text.contents

/-- An include other than that of the source text is said to be recursive, but nothing with its
contents is open. -/
def BlamesUnread (g : IncludeGraph) (limit : Nat) : Prop :=
  ∃ s t outer i, g.Visits limit s ∧ s.levels = t :: outer ∧ t.Meets g.resolver i ∧
    s.turn g.resolver limit = some (.stop (.recursive i.name t.file t.number)) ∧
    i.text.path.same g.main = false ∧ ∀ u ∈ s.levels, u.text.contents ≠ i.text.contents

theorem leavesOutUnread_of_later {limit : Nat} (count : Nat) (i : Inclusion)
    (h : (((Snapshot.start g.resolver g.source g.path).later g.resolver limit count).any fun s =>
      decide (s.turn g.resolver limit = some (.skip i)) && s.begun.all fun t =>
        t.contents ≠ i.text.contents) = true) :
    g.LeavesOutUnread limit := by
  obtain ⟨s, hlater, hs⟩ := (Option.any_eq_true _ _).1 h
  rw [Bool.and_eq_true, decide_eq_true_eq, List.all_eq_true] at hs
  exact ⟨s, i, Snapshot.leads_of_later hlater, hs.1, fun t ht => of_decide_eq_true (hs.2 t ht)⟩

theorem blamesUnread_of_later {limit : Nat} (count : Nat) {line name : List Char}
    {kind : IncludeKind} {dir : Path} {text : IncludeText}
    (request : IncludeLine.ofLine line = .request kind name)
    (found : (g.resolver.request kind dir (String.ofList name)).value = some text)
    (hother : text.path.same g.main = false)
    (h : (((Snapshot.start g.resolver g.source g.path).later g.resolver limit count).any fun s =>
      (s.levels.head?.any fun t => decide (t.rest.head? = some line ∧ t.dir = dir ∧
        s.turn g.resolver limit =
          some (.stop (.recursive (String.ofList name) t.file t.number)))) &&
      s.levels.all fun u => u.text.contents ≠ text.contents) = true) : g.BlamesUnread limit := by
  obtain ⟨s, hlater, hs⟩ := (Option.any_eq_true _ _).1 h
  rw [Bool.and_eq_true, List.all_eq_true] at hs
  obtain ⟨t, htop, ht⟩ := (Option.any_eq_true _ _).1 hs.1
  obtain ⟨hline, rfl, hstop⟩ := of_decide_eq_true ht
  obtain ⟨outer, hlevels⟩ := List.head?_eq_some_iff.1 htop
  obtain ⟨rest, hrest⟩ := List.head?_eq_some_iff.1 hline
  exact ⟨s, t, outer, _, Snapshot.leads_of_later hlater, hlevels, .intro hrest request found,
    hstop, hother, fun u hu => of_decide_eq_true (hs.2 u hu)⟩

/-- A file `g/x`, and a generator that answers for the directory `g`. -/
def homonyms (text : String → String) (source : String) : IncludeGraph where
  finder :=
    { Finder.new with generators := [⟨"g", ⟨"g", fun name => return some ⟨⟨name⟩, text name⟩⟩⟩] }
  memory := .ofTexts [("g/x", "file\n")]
  source
  path := ⟨"m"⟩

/-- The generated text comes first. -/
def covering : IncludeGraph :=
  homonyms (fun _ => "#pragma once\ngenerated\n") "#include <g/x>\n#include \"g/x\"\n"

/-- Two names for one path. -/
def respelling : IncludeGraph :=
  homonyms (fun name => "#pragma once\n// " ++ name ++ "\n") "#include <g/x>\n#include <g//x>\n"

/-- The generated text includes the file. -/
def wrapping : IncludeGraph := homonyms (fun _ => "#include \"x\"\n") "#include <g/x>\n"

/-- A file is left out because of a generated text, a generated text because of another one, and a
file is said to be recursive because the text that includes it was generated under its name. -/
theorem other_texts_taken_for_repeats :
    covering.LeavesOutUnread 64 ∧ respelling.LeavesOutUnread 64 ∧ wrapping.BlamesUnread 64 ∧
      (covering.preprocess 64).map (·.code) = .ok "generated\n" ∧
    (respelling.preprocess 64).map (·.code) = .ok "// g/x\n" ∧
    wrapping.preprocess 64 = .error (.recursive "x" ⟨"g/x"⟩ 1) := by
  refine ⟨?_, ?_, ?_, by decide +kernel, by decide +kernel, by decide +kernel⟩
  · exact leavesOutUnread_of_later 4 ⟨.relative, ⟨""⟩, "g/x", ⟨⟨"g/x"⟩, "file\n"⟩⟩
      (by decide +kernel)
  · exact leavesOutUnread_of_later 4 ⟨.standard, ⟨""⟩, "g//x",
      ⟨⟨"g//x"⟩, "#pragma once\n// g//x\n"⟩⟩
      (by decide +kernel)
  · have request : IncludeLine.ofLine "#include \"x\"".toList = .request .relative ['x'] := by
      decide +kernel
    have found : (wrapping.resolver.request .relative ⟨"g"⟩ (String.ofList ['x'])).value =
        some ⟨⟨"g/x"⟩, "file\n"⟩ := by decide +kernel
    exact blamesUnread_of_later 1 request found (by decide +kernel) (by decide +kernel)

end IncludeGraph

end ShaderBuild
