import Mathlib.Logic.Relation
import ShaderBuild.Proofs.Expansion
import ShaderBuild.Proofs.Resolution

/-!
The graph of the includes of a source text over files in memory, and what its preprocessing says
about it. Main statement: `preprocess_decides_wellFormed`. A success is carried along the finishing
order, in which every file that is not open any more has sound includes only; a failure is carried
along the open files, which are a path of the graph without repetition.
-/

namespace ShaderBuild

open Relation (ReflTransGen TransGen)

/-- A source text, the path that it was read from, and where its includes come from. -/
structure IncludeGraph where
  finder : Finder
  memory : MemoryFiles
  source : String
  path : Path

namespace IncludeGraph

/-- The node of the source text itself. -/
def main (g : IncludeGraph) : Path := g.memory.files.resolved g.path

/-- The text at a node. -/
def textOf (g : IncludeGraph) (p : Path) : String :=
  if p = g.main then g.source else (g.memory.textAt? p).contents

/-- The directory that a node's includes are seen from. -/
def dirOf (g : IncludeGraph) (p : Path) : Path :=
  if p = g.main then g.path.parentDir else p.parentDir

def linesOf (g : IncludeGraph) (p : Path) : List (List Char) := Text.lines (g.textOf p).toList

/-- What an include directive at a node refers to: the first text among the places to look at. -/
def target? (g : IncludeGraph) (p : Path) (kind : IncludeKind) (name : List Char) : Found :=
  (g.finder.places kind (g.dirOf p) (String.ofList name)).findSome? g.memory.textAt?

def Edge (g : IncludeGraph) (p q : Path) : Prop :=
  ∃ line ∈ g.linesOf p, ∃ kind name t,
    IncludeLine.ofLine line = .request kind name ∧ g.target? p kind name = some t ∧ t.path = q

/-- A line that is no include, or an include that refers to a text. -/
def LineResolves (g : IncludeGraph) (p : Path) (line : List Char) : Prop :=
  match IncludeLine.ofLine line with
  | .other => True
  | .malformed => False
  | .request kind name => (g.target? p kind name).isSome

def Resolves (g : IncludeGraph) (p : Path) : Prop := ∀ line ∈ g.linesOf p, g.LineResolves p line

def Reachable (g : IncludeGraph) (p : Path) : Prop := ReflTransGen g.Edge g.main p

/-- All includes within reach refer to texts, and none leads back to where it is. -/
structure WellFormed (g : IncludeGraph) : Prop where
  resolves : ∀ p, g.Reachable p → g.Resolves p
  acyclic : ∀ p, g.Reachable p → ¬ TransGen g.Edge p p

/-! ## Nodes -/

def IsNode (g : IncludeGraph) (p : Path) : Prop := p = g.main ∨ g.memory.IsKept p

variable {g : IncludeGraph}

theorem isKept_of_target? {p : Path} {kind : IncludeKind} {name : List Char} {t : IncludeText}
    (h : g.target? p kind name = some t) : g.memory.IsKept t.path := by
  obtain ⟨place, _, hplace⟩ := List.exists_of_findSome?_eq_some h
  exact MemoryFiles.isKept_of_textAt? hplace

theorem textAt?_of_target? {p : Path} {kind : IncludeKind} {name : List Char} {t : IncludeText}
    (h : g.target? p kind name = some t) : g.memory.textAt? t.path = some t := by
  obtain ⟨place, _, hplace⟩ := List.exists_of_findSome?_eq_some h
  exact MemoryFiles.textAt?_path hplace

/-- A file that names the same place as the source text is its file. -/
theorem eq_main_of_same {p : Path} (hp : g.memory.IsKept p) (h : p.same g.main) : p = g.main := by
  have hnormal : p.normal = g.main.normal := Path.normal_eq_of_same h
  have hkept : (g.memory.get? g.path).isSome := by
    rw [← MemoryFiles.get?_resolved, ← MemoryFiles.get?_normal]
    change (g.memory.get? g.main.normal).isSome
    rw [← hnormal, MemoryFiles.get?_normal]
    exact hp.2
  have hmain : g.main = g.path.normal := MemoryFiles.resolved_of_isSome hkept
  rw [← hp.1, hnormal, hmain, Path.normal_normal]

theorem same_comm (p q : Path) : p.same q = q.same p := by
  rw [Path.same, Path.same, Bool.beq_comm]

theorem IsNode.eq_of_same {p q : Path} (hp : g.IsNode p) (hq : g.IsNode q) (h : p.same q) :
    p = q := by
  rcases hp with rfl | hp
  · rcases hq with rfl | hq
    · rfl
    · rw [same_comm] at h
      exact (eq_main_of_same hq h).symm
  · rcases hq with rfl | hq
    · exact eq_main_of_same hp h
    · exact hp.eq_of_same hq h

theorem mem_of_path_mem {p : Path} {ps : List Path} (hp : g.IsNode p) (hps : ∀ q ∈ ps, g.IsNode q)
    (h : p.mem ps = true) : p ∈ ps := by
  obtain ⟨q, hq, hsame⟩ := List.any_eq_true.1 h
  rwa [hp.eq_of_same (hps q hq) hsame]

theorem not_mem_of_path_mem {p : Path} {ps : List Path} (h : p.mem ps = false) : p ∉ ps := by
  intro hmem
  have : p.same p = false := by simpa using List.any_eq_false.1 h p hmem
  simp [Path.same] at this

/-- There are no more nodes than files and the source text. -/
theorem length_le_of_nodes {ps : List Path} (hps : ∀ p ∈ ps, g.IsNode p) (hnodup : ps.Nodup) :
    ps.length ≤ g.memory.size + 1 := by
  have hsubset : ps ⊆ g.main :: g.memory.entries.map Prod.fst := by
    intro p hp
    rcases hps p hp with rfl | hkept
    · exact List.mem_cons_self
    · exact .tail _ (MemoryFiles.mem_keys_of_isKept hkept)
  have hlength := hnodup.length_le_of_subset hsubset
  simpa [MemoryFiles.size] using hlength

/-! ## Frames -/

/-- The frame of a node whose file is open, with the open files around it. -/
structure Opened (g : IncludeGraph) (f : Frame) (p : Path) : Prop where
  dir : f.dir = g.dirOf p
  top : p ∈ f.stack
  bottom : g.main ∈ f.stack
  nodes : ∀ q ∈ f.stack, g.IsNode q

theorem Opened.request (hg : g.finder.IsPlain) {f : Frame} {p : Path} (h : g.Opened f p)
    (kind : IncludeKind) (name : List Char) :
    ((g.finder.resolver g.memory.files).request kind f.dir (String.ofList name)).value =
      g.target? p kind name := by
  rw [hg.value_request, h.dir, target?]

section Enter

variable {f : Frame} {p : Path} {kind : IncludeKind} {name : List Char} {t : IncludeText}

theorem ne_main_of_fresh (h : g.Opened f p) (hfresh : t.path.mem f.stack = false) :
    t.path ≠ g.main := by
  intro heq
  exact not_mem_of_path_mem hfresh (heq ▸ h.bottom)

theorem linesOf_entered (h : g.Opened f p) (ht : g.target? p kind name = some t)
    (hfresh : t.path.mem f.stack = false) : g.linesOf t.path = Text.lines t.contents.toList := by
  rw [linesOf, textOf, if_neg (ne_main_of_fresh h hfresh), textAt?_of_target? ht]
  rfl

/-- Entering the target of an include opens its node. -/
theorem Opened.enter (h : g.Opened f p) (ht : g.target? p kind name = some t)
    (hfresh : t.path.mem f.stack = false) : g.Opened (f.enter t.path) t.path where
  dir := by rw [dirOf, if_neg (ne_main_of_fresh h hfresh)]; rfl
  top := List.mem_cons_self
  bottom := .tail _ h.bottom
  nodes q hq := by
    rcases List.mem_cons.1 hq with rfl | hq
    · exact .inr (isKept_of_target? ht)
    · exact h.nodes q hq

end Enter

/-! ## Success -/

/-- Everything within reach refers to texts, and no path from here goes on without end. -/
inductive Sound (g : IncludeGraph) : Path → Prop
  | intro {p : Path} (resolves : g.Resolves p) (targets : ∀ q, g.Edge p q → Sound g q) : Sound g p

theorem Sound.reachable {p q : Path} (h : g.Sound p) (hpq : ReflTransGen g.Edge p q) :
    g.Resolves q ∧ ¬ TransGen g.Edge q q := by
  induction h generalizing q with
  | @intro p resolves targets ih =>
    rcases hpq.cases_head with rfl | ⟨next, hedge, hrest⟩
    · refine ⟨resolves, ?_⟩
      intro hcycle
      obtain ⟨next, hedge, hback⟩ := TransGen.head'_iff.1 hcycle
      exact (ih next hedge hback).2 hcycle
    · exact ih next hedge hrest

theorem Sound.wellFormed (h : g.Sound g.main) : g.WellFormed where
  resolves _ hp := (h.reachable hp).1
  acyclic _ hp := (h.reachable hp).2

/-- A line that is no include, or an include of something sound. -/
def LineSound (g : IncludeGraph) (p : Path) (line : List Char) : Prop :=
  match IncludeLine.ofLine line with
  | .other => True
  | .malformed => False
  | .request kind name => ∃ t, g.target? p kind name = some t ∧ g.Sound t.path

theorem sound_of_lines {p : Path} (h : ∀ line ∈ g.linesOf p, g.LineSound p line) : g.Sound p := by
  refine .intro (fun line hline => ?_) ?_
  · have hsound := h line hline
    rw [LineSound] at hsound
    rw [LineResolves]
    cases hkind : IncludeLine.ofLine line with
    | other => trivial
    | malformed => rw [hkind] at hsound; exact hsound
    | request kind name =>
      rw [hkind] at hsound
      obtain ⟨t, ht, _⟩ := hsound
      simp [ht]
  · rintro q ⟨line, hline, kind, name, t, hkind, ht, rfl⟩
    have hsound := h line hline
    rw [LineSound, hkind] at hsound
    obtain ⟨t', ht', htarget⟩ := hsound
    cases ht.symm.trans ht'
    exact htarget

/-- Every file that is kept from another expansion is open or sound. -/
def Settled (g : IncludeGraph) (stack once : List Path) : Prop :=
  ∀ q ∈ once, g.IsNode q ∧ (q ∈ stack ∨ g.Sound q)

theorem Settled.onceAfter {stack once : List Path} {p : Path} {text : List Char} (hp : g.IsNode p)
    (h : g.Settled stack once) : g.Settled (p :: stack) (onceAfter p text once) := by
  intro q hq
  have hq : q = p ∨ q ∈ once := by
    rw [ShaderBuild.onceAfter] at hq
    split at hq
    · exact List.mem_cons.1 hq
    · exact .inr hq
  rcases hq with rfl | hq
  · exact ⟨hp, .inl List.mem_cons_self⟩
  · exact ⟨(h q hq).1, (h q hq).2.imp (.tail _) id⟩

/-- A file that is closed with sound includes need not be open. -/
theorem Settled.close {stack once : List Path} {p : Path} (hp : g.Sound p)
    (h : g.Settled (p :: stack) once) : g.Settled stack once := by
  intro q hq
  obtain ⟨hnode, hopen | hsound⟩ := h q hq
  · rcases List.mem_cons.1 hopen with rfl | hopen
    · exact ⟨hnode, .inr hp⟩
    · exact ⟨hnode, .inl hopen⟩
  · exact ⟨hnode, .inr hsound⟩

/-- A file that is skipped is sound, for it is not open. -/
theorem Settled.sound_of_skip {stack once : List Path} {p : Path} (hp : g.IsNode p)
    (h : g.Settled stack once) (hfresh : p.mem stack = false) (hseen : p.mem once = true) :
    g.Sound p := by
  have hmem : p ∈ once := mem_of_path_mem hp (fun q hq => (h q hq).1) hseen
  rcases (h p hmem).2 with hopen | hsound
  · exact absurd hopen (not_mem_of_path_mem hfresh)
  · exact hsound

theorem lineSound_of_request {p : Path} {line : List Char} {kind : IncludeKind} {name : List Char}
    {t : IncludeText} (hkind : IncludeLine.ofLine line = .request kind name)
    (ht : g.target? p kind name = some t) (hsound : g.Sound t.path) : g.LineSound p line := by
  rw [LineSound, hkind]
  exact ⟨t, ht, hsound⟩

theorem lineSound_of_other {p : Path} {line : List Char}
    (hkind : IncludeLine.ofLine line = .other) :
    g.LineSound p line := by
  rw [LineSound, hkind]
  trivial

/-- What was expanded has sound includes only. -/
theorem sound_of_expands (hg : g.finder.IsPlain) {room : Nat} {f : Frame} {lines : List (List Char)}
    {once : List Path} {e : Expansion}
    (h : Expands (g.finder.resolver g.memory.files) room f lines once e) {p : Path}
    (hopened : g.Opened f p) (hsettled : g.Settled f.stack once) :
    (∀ line ∈ lines, g.LineSound p line) ∧ g.Settled f.stack e.once := by
  induction h generalizing p with
  | nil => exact ⟨nofun, hsettled⟩
  | pragma other _ _ ih =>
    obtain ⟨hlines, honce⟩ := ih hopened hsettled
    exact ⟨List.forall_mem_cons.2 ⟨lineSound_of_other other, hlines⟩, honce⟩
  | copy other _ _ ih =>
    obtain ⟨hlines, honce⟩ := ih hopened hsettled
    exact ⟨List.forall_mem_cons.2 ⟨lineSound_of_other other, hlines⟩, honce⟩
  | skip request found fresh seen _ ih =>
    rw [hopened.request hg] at found
    have hsound := hsettled.sound_of_skip (.inr (isKept_of_target? found)) fresh seen
    obtain ⟨hlines, honce⟩ := ih hopened hsettled
    exact ⟨List.forall_mem_cons.2 ⟨lineSound_of_request request found hsound, hlines⟩, honce⟩
  | enter request found fresh new _ _ ihBody ihTail =>
    rw [hopened.request hg] at found
    obtain ⟨hbody, hinner⟩ := ihBody (hopened.enter found fresh)
      (hsettled.onceAfter (.inr (isKept_of_target? found)))
    rw [← linesOf_entered hopened found fresh] at hbody
    have hsound := sound_of_lines hbody
    obtain ⟨hlines, honce⟩ := ihTail hopened (hinner.close hsound)
    exact ⟨List.forall_mem_cons.2 ⟨lineSound_of_request request found hsound, hlines⟩, honce⟩

/-! ## Failure -/

/-- The open files are a path of the graph that ends in `p`, without repetition. -/
structure Chained (g : IncludeGraph) (stack : List Path) (p : Path) : Prop where
  reachable : g.Reachable p
  leads : ∀ q ∈ stack, ReflTransGen g.Edge q p
  nodup : stack.Nodup

theorem Chained.enter {stack : List Path} {p q : Path} (h : g.Chained stack p) (hedge : g.Edge p q)
    (hfresh : q.mem stack = false) : g.Chained (q :: stack) q where
  reachable := h.reachable.tail hedge
  leads x hx := by
    rcases List.mem_cons.1 hx with rfl | hx
    · exact .refl
    · exact (h.leads x hx).tail hedge
  nodup := List.nodup_cons.2 ⟨not_mem_of_path_mem hfresh, h.nodup⟩

/-- An include of an open file closes a cycle. -/
theorem Chained.cycle {stack : List Path} {p q : Path} (h : g.Chained stack p) (hedge : g.Edge p q)
    (hopen : q ∈ stack) : TransGen g.Edge p p := .head' hedge (h.leads q hopen)

/-- What a failure says: a fault of the graph within reach, and never that it is too deep. -/
structure Faulty (g : IncludeGraph) (e : PreprocessError) : Prop where
  fault : ¬ g.WellFormed
  shallow : ∀ name file number limit, e ≠ .tooDeep name file number limit

theorem not_wellFormed_of_line {p : Path} {line : List Char} (hp : g.Reachable p)
    (hline : line ∈ g.linesOf p) (h : ¬ g.LineResolves p line) : ¬ g.WellFormed :=
  fun hgraph => h (hgraph.resolves p hp line hline)

/-- A failure while the open files and the levels that are left cover all files is a fault of the
graph. -/
theorem faulty_of_fails (hg : g.finder.IsPlain) {limit room : Nat} {f : Frame} {number : Nat}
    {lines : List (List Char)} {once : List Path} {e : PreprocessError}
    (h : Fails (g.finder.resolver g.memory.files) limit room f number lines once e) {p : Path}
    (hopened : g.Opened f p) (hchained : g.Chained f.stack p) (hlines : lines ⊆ g.linesOf p)
    (hroom : g.memory.size + 1 ≤ room + f.stack.length) : g.Faulty e := by
  induction h generalizing p with
  | @malformed _ f _ line _ _ malformed =>
    refine ⟨not_wellFormed_of_line hchained.reachable (hlines List.mem_cons_self) ?_, nofun⟩
    rw [LineResolves, malformed]
    exact id
  | notFound request missing =>
    refine ⟨not_wellFormed_of_line hchained.reachable (hlines List.mem_cons_self) ?_, nofun⟩
    rw [hopened.request hg] at missing
    rw [LineResolves, request]
    simp [missing]
  | recursive request found opened =>
    rw [hopened.request hg] at found
    have hedge : g.Edge p _ := ⟨_, hlines List.mem_cons_self, _, _, _, request, found, rfl⟩
    have hmem := mem_of_path_mem (.inr (isKept_of_target? found)) hopened.nodes opened
    exact ⟨fun hgraph => hgraph.acyclic p hchained.reachable (hchained.cycle hedge hmem), nofun⟩
  | tooDeep request found fresh new =>
    rw [hopened.request hg] at found
    have hedge : g.Edge p _ := ⟨_, hlines List.mem_cons_self, _, _, _, request, found, rfl⟩
    have hcount :=
      length_le_of_nodes (hopened.enter found fresh).nodes (hchained.enter hedge fresh).nodup
    rw [Frame.enter, List.length_cons] at hcount
    omega
  | inside request found fresh new _ ih =>
    rw [hopened.request hg] at found
    have hedge : g.Edge p _ := ⟨_, hlines List.mem_cons_self, _, _, _, request, found, rfl⟩
    apply ih (hopened.enter found fresh) (hchained.enter hedge fresh)
    · rw [linesOf_entered hopened found fresh]
      exact fun _ => id
    · rw [Frame.enter, List.length_cons]
      omega
  | later _ _ ih => exact ih hopened hchained (fun _ hline => hlines (.tail _ hline)) hroom

/-! ## The source text -/

def resolver (g : IncludeGraph) : Resolver := g.finder.resolver g.memory.files

def mainFrame (g : IncludeGraph) : Frame := g.resolver.frame g.path

theorem opened_mainFrame : g.Opened g.mainFrame g.main where
  dir := by simp [mainFrame, Resolver.frame, dirOf]
  top := List.mem_cons_self
  bottom := List.mem_cons_self
  nodes q hq := by
    obtain rfl := List.mem_singleton.1 hq
    exact .inl rfl

theorem chained_mainFrame : g.Chained g.mainFrame.stack g.main where
  reachable := .refl
  leads q hq := by
    obtain rfl := List.mem_singleton.1 hq
    exact .refl
  nodup := by simp [mainFrame, Resolver.frame]

theorem linesOf_main : g.linesOf g.main = Text.lines g.source.toList := by
  simp [linesOf, textOf]

/-- The preprocessing of the source text without defines. -/
def preprocess (g : IncludeGraph) (limit : Nat) : Ending PreprocessError Preprocessed :=
  (ShaderBuild.preprocess g.resolver limit [] g.source g.path).value

theorem preprocess_of_ok {limit : Nat} {e : Expansion}
    (h : g.resolver.expansion limit g.source g.path = .ok e) :
    g.preprocess limit = .ok ⟨String.ofList e.code, e.dependencies⟩ := by
  rw [preprocess, value_preprocess, h]
  rfl

theorem preprocess_of_error {limit : Nat} {e : PreprocessError}
    (h : g.resolver.expansion limit g.source g.path = .error e) :
    g.preprocess limit = .error e := by
  rw [preprocess, value_preprocess, h]

/-- With as many levels as there are files, preprocessing succeeds exactly on well-formed graphs and
never complains of the depth. -/
theorem preprocess_decides_wellFormed (g : IncludeGraph) (hg : g.finder.IsPlain) (limit : Nat)
    (hlimit : g.memory.size ≤ limit) :
    ((∃ out, g.preprocess limit = .ok out) ↔ g.WellFormed) ∧
      ∀ name file number depth, g.preprocess limit ≠ .error (.tooDeep name file number depth) := by
  cases hexpansion : g.resolver.expansion limit g.source g.path with
  | ok e =>
    have hsettled : g.Settled g.mainFrame.stack (onceAfter g.main g.source.toList []) :=
      Settled.onceAfter (.inl rfl) nofun
    have hsound := (sound_of_expands hg (expand_ok_iff.1 hexpansion) opened_mainFrame hsettled).1
    rw [← linesOf_main] at hsound
    rw [preprocess_of_ok hexpansion]
    exact ⟨⟨fun _ => (sound_of_lines hsound).wellFormed, fun _ => ⟨_, rfl⟩⟩, nofun⟩
  | error e =>
    have hfaulty :=
      faulty_of_fails hg (fails_of_expand_error hexpansion) opened_mainFrame chained_mainFrame
      (by rw [linesOf_main]; exact fun _ => id) (Nat.add_le_add_right hlimit 1)
    rw [preprocess_of_error hexpansion]
    refine ⟨⟨?_, fun hgraph => absurd hgraph hfaulty.fault⟩, ?_⟩
    · rintro ⟨_, hout⟩
      cases hout
    · intro name file number depth heq
      cases heq
      exact hfaulty.shallow _ _ _ _ rfl

/-- Two files that share a third. -/
def diamond : IncludeGraph where
  finder := Finder.new
  memory := .ofTexts [("a", "#pragma once\n#include <c>\n"), ("b", "#include \"c\"\n"),
    ("c", "float x;\n")]
  source := "#include \"a\"\n#include \"./b\"\n"
  path := ⟨"main"⟩

theorem preprocess_decides_diamond : diamond.finder.IsPlain ∧ diamond.memory.size ≤ 3 ∧
    ((∃ out, diamond.preprocess 3 = .ok out) ↔ diamond.WellFormed) ∧
    (∀ name file number depth, diamond.preprocess 3 ≠ .error (.tooDeep name file number depth)) ∧
    diamond.WellFormed := by
  have hplain : diamond.finder.IsPlain := ⟨rfl, by simp [diamond, Finder.new]⟩
  have hsize : diamond.memory.size ≤ 3 := by decide +kernel
  have hdecides := preprocess_decides_wellFormed diamond hplain 3 hsize
  have hok : (diamond.preprocess 3).isOk = true := by decide +kernel
  refine ⟨hplain, hsize, hdecides.1, hdecides.2, hdecides.1.1 ?_⟩
  cases hresult : diamond.preprocess 3 with
  | ok out => exact ⟨out, rfl⟩
  | error e => simp [hresult, Ending.isOk] at hok
  | panicked => simp [hresult, Ending.isOk] at hok

end IncludeGraph

end ShaderBuild
