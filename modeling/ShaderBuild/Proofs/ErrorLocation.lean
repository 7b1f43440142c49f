import Mathlib.Data.List.Chain
import ShaderBuild.Proofs.DirectiveForm
import ShaderBuild.Proofs.IncludeGraph
import ShaderBuild.Proofs.Snapshot

/-!
Where preprocessing fails. Main statement: `errors_are_genuine`, by which an error names a line of a
file to which a chain of includes leads from the source text, and this line is at fault as the error
says. The open texts of every snapshot are such a chain, each at a line of its file.
-/

namespace ShaderBuild

/-- The file and the line that an error names. -/
def PreprocessError.location? : PreprocessError → Option (Path × Nat)
  | .notFound _ file line => some (file, line)
  | .recursive _ file line => some (file, line)
  | .tooDeep _ file line _ => some (file, line)
  | .malformed file line => some (file, line)

namespace IncludeGraph

variable {g : IncludeGraph}

/-- The path that a node goes by in messages: that of the source text as it was given. -/
def fileOf (g : IncludeGraph) (p : Path) : Path := if p = g.main then g.path else p

theorem parentDir_fileOf (p : Path) : (g.fileOf p).parentDir = g.dirOf p := by
  rw [fileOf, dirOf]
  split <;> rfl

/-- A chain of includes of different files, from the source text to a node. -/
structure Trail (g : IncludeGraph) (trail : List Path) (p : Path) : Prop where
  head : trail.head? = some g.main
  last : trail.getLast? = some p
  edges : trail.IsChain g.Edge
  distinct : trail.Pairwise fun p q => p.same q = false

/-- A line of a node is at fault as an error says, with the includes on the way to the node. -/
inductive Genuine (g : IncludeGraph) (limit : Nat) (trail : List Path) (p : Path)
    (line : List Char) :
    PreprocessError → Prop
  | malformed {operand : List Char} {file : Path} {number : Nat}
    (directive : IsInclude line operand)
      (nameless : ∀ kind name, ¬ OperandNames operand kind name) :
        g.Genuine limit trail p line (.malformed file number)
  | notFound {operand name : List Char} {kind : IncludeKind} {file : Path} {number : Nat}
      (directive : IsInclude line operand) (names : OperandNames operand kind name)
      (missing : g.target? p kind name = none) :
      g.Genuine limit trail p line (.notFound (String.ofList name) file number)
  | recursive {operand name : List Char} {kind : IncludeKind} {t : IncludeText} {file : Path}
    {number : Nat}
      (directive : IsInclude line operand) (names : OperandNames operand kind name)
      (found : g.target? p kind name = some t) (open? : t.path ∈ trail) :
      g.Genuine limit trail p line (.recursive (String.ofList name) file number)
  | tooDeep {operand name : List Char} {kind : IncludeKind} {t : IncludeText} {file : Path}
    {number : Nat}
      (directive : IsInclude line operand) (names : OperandNames operand kind name)
      (found : g.target? p kind name = some t) (further : g.Trail (trail ++ [t.path]) t.path)
      (length : (trail ++ [t.path]).length = limit + 2) :
      g.Genuine limit trail p line (.tooDeep (String.ofList name) file number limit)

/-! ## Open texts -/

/-- An open text is at a line of its file. -/
structure Placed (g : IncludeGraph) (t : OpenText) : Prop where
  node : g.IsNode t.text.path
  file : t.file = g.fileOf t.text.path
  positive : 0 < t.number
  rest : t.rest = (g.linesOf t.text.path).drop (t.number - 1)

theorem Placed.passed {t : OpenText} (h : g.Placed t) : g.Placed t.passed where
  node := h.node
  file := h.file
  positive := Nat.succ_pos t.number
  rest := by
    have hnumber : t.number - 1 + 1 = t.number := Nat.sub_add_cancel h.positive
    rw [OpenText.passed, h.rest, List.tail_drop, hnumber, Nat.add_sub_cancel]

theorem Placed.getElem? {t : OpenText} (h : g.Placed t) {line : List Char} {rest : List (List Char)}
    (more : t.rest = line :: rest) : (g.linesOf t.text.path)[t.number - 1]? = some line := by
  have hline : ((g.linesOf t.text.path).drop (t.number - 1))[0]? = some line := by
    rw [← h.rest, more]
    rfl
  rwa [List.getElem?_drop, Nat.add_zero] at hline

/-- The open texts are a chain of includes of different files, no longer than the limit allows. -/
structure Mapped (g : IncludeGraph) (limit : Nat) (s : Snapshot) : Prop where
  grounded : s.Grounded g.resolver g.path
  placed : ∀ t ∈ s.levels, g.Placed t
  edges : s.stack.IsChain fun q p => g.Edge p q
  distinct : s.stack.Pairwise fun q p => q.same p = false
  depth : s.stack.length ≤ limit + 1

theorem mapped_start (limit : Nat) : g.Mapped limit (.start g.resolver g.source g.path) where
  grounded := .inr rfl
  placed t ht := by
    obtain rfl := List.mem_singleton.1 ht
    refine ⟨.inl rfl, (if_pos rfl).symm, Nat.one_pos, ?_⟩
    exact linesOf_main.symm
  edges := List.isChain_singleton _
  distinct := List.pairwise_singleton _ _
  depth := Nat.le_add_left 1 limit

section Top

variable {limit : Nat} {s : Snapshot} {t : OpenText} {outer : List OpenText}

theorem Mapped.opened (h : g.Mapped limit s) (hlevels : s.levels = t :: outer) :
    g.Opened (t.frame outer) t.text.path where
  dir := by
    have hplaced := h.placed t (hlevels ▸ List.mem_cons_self)
    rw [OpenText.frame, OpenText.dir, hplaced.file, parentDir_fileOf]
  top := List.mem_cons_self
  bottom := by
    have hlast := h.grounded.getLast? hlevels
    rw [Snapshot.stack, hlevels] at hlast
    exact List.mem_of_getLast? hlast
  nodes q hq := by
    obtain ⟨u, hu, rfl⟩ := List.mem_map.1 hq
    exact (h.placed u (hlevels ▸ hu)).node

/-- An include that is found refers to a target of the node. -/
theorem Mapped.target? (hg : g.finder.IsPlain) (h : g.Mapped limit s)
    (hlevels : s.levels = t :: outer) {i : Inclusion} (meets : t.Meets g.resolver i) :
    ∃ line rest name, t.rest = line :: rest ∧ IncludeLine.ofLine line = .request i.kind name ∧
      i.name = String.ofList name ∧ g.target? t.text.path i.kind name = some i.text := by
  obtain ⟨more, request, found⟩ := meets
  exact ⟨_, _, _, more, request, rfl, ((h.opened hlevels).request hg _ _).symm.trans found⟩

theorem Mapped.edge (hg : g.finder.IsPlain) (h : g.Mapped limit s) (hlevels : s.levels = t :: outer)
    {i : Inclusion} (meets : t.Meets g.resolver i) : g.Edge t.text.path i.text.path := by
  obtain ⟨line, rest, name, more, request, _, htarget⟩ := h.target? hg hlevels meets
  have hplaced := h.placed t (hlevels ▸ List.mem_cons_self)
  exact ⟨line, List.mem_of_getElem? (hplaced.getElem? more), i.kind, name, i.text,
    request, htarget, rfl⟩

/-- One more include leads to a further file. -/
theorem Mapped.edges_cons (hg : g.finder.IsPlain) (h : g.Mapped limit s)
    (hlevels : s.levels = t :: outer) {i : Inclusion} (meets : t.Meets g.resolver i) :
    (i.text.path :: s.stack).IsChain fun q p => g.Edge p q := by
  have hedges := h.edges
  rw [Snapshot.stack, hlevels, List.map_cons] at hedges ⊢
  exact .cons_cons (h.edge hg hlevels meets) hedges

theorem Mapped.placed_opening (hg : g.finder.IsPlain) (h : g.Mapped limit s)
    (hlevels : s.levels = t :: outer) {i : Inclusion} (meets : t.Meets g.resolver i)
    (fresh : i.text.path.mem s.stack = false) :
    g.Placed (.opening i.text.path i.text) := by
  obtain ⟨_, _, _, _, _, _, htarget⟩ := h.target? hg hlevels meets
  have hopened := h.opened hlevels
  rw [Snapshot.stack, hlevels] at fresh
  refine ⟨.inr (isKept_of_target? htarget), ?_, Nat.one_pos, ?_⟩
  · exact (if_neg (ne_main_of_fresh hopened fresh)).symm
  · exact (linesOf_entered hopened htarget fresh).symm

end Top

theorem Mapped.step (hg : g.finder.IsPlain) {limit : Nat} {s s' : Snapshot} (h : g.Mapped limit s)
    (hstep : s.Step g.resolver limit s') : g.Mapped limit s' := by
  suffices hfiles : (∀ t ∈ s'.levels, g.Placed t) ∧ s'.stack.IsChain fun q p => g.Edge p q from
    ⟨hstep.grounded h.grounded, hfiles.1, hfiles.2, hstep.distinct h.distinct,
      hstep.length_stack h.depth⟩
  cases hstep with
  | @leave t outer hlevels _ =>
    have hedges := h.edges
    rw [Snapshot.stack, hlevels] at hedges
    exact ⟨fun u hu => h.placed u (hlevels ▸ .tail _ hu), hedges.tail⟩
  | @pass t outer _ _ hlevels _ _ _ =>
    have hplaced := h.placed
    rw [hlevels, List.forall_mem_cons] at hplaced
    rw [Snapshot.stack_pass hlevels]
    exact ⟨List.forall_mem_cons.2 ⟨hplaced.1.passed, hplaced.2⟩, h.edges⟩
  | @enter t outer i hlevels meets fresh _ _ =>
    have hplaced := h.placed
    rw [hlevels, List.forall_mem_cons] at hplaced
    have hopening := h.placed_opening hg hlevels meets fresh
    have hpassed := List.forall_mem_cons.2 ⟨hplaced.1.passed, hplaced.2⟩
    rw [Snapshot.stack_begin hlevels]
    exact ⟨List.forall_mem_cons.2 ⟨hopening, hpassed⟩, h.edges_cons hg hlevels meets⟩

theorem mapped_of_leads (hg : g.finder.IsPlain) {limit : Nat} {s : Snapshot}
    (h : Snapshot.Leads g.resolver limit (.start g.resolver g.source g.path) s) :
    g.Mapped limit s :=
  h.invariant (fun _ _ hs hstep => hs.step hg hstep) (mapped_start limit)

/-! ## Errors -/

/-- Files that are open, innermost first, are a trail if read from the source text on. -/
theorem trail_reverse {stack : List Path} {p : Path} (hhead : stack.head? = some p)
    (hlast : stack.getLast? = some g.main) (hedges : stack.IsChain fun q p => g.Edge p q)
    (hdistinct : stack.Pairwise fun q p => q.same p = false) : g.Trail stack.reverse p where
  head := by rw [List.head?_reverse, hlast]
  last := by rw [List.getLast?_reverse, hhead]
  edges := List.isChain_reverse.2 hedges
  distinct := by
    rw [List.pairwise_reverse]
    exact hdistinct.imp fun hsame => (same_comm _ _).trans hsame

section Stop

variable {limit : Nat} {s : Snapshot} {t : OpenText} {outer : List OpenText}

theorem Mapped.trail (h : g.Mapped limit s) (hlevels : s.levels = t :: outer) :
    g.Trail s.stack.reverse t.text.path := by
  refine trail_reverse ?_ (h.grounded.getLast? hlevels) h.edges h.distinct
  rw [Snapshot.stack, hlevels]
  rfl

theorem Mapped.trail_further (hg : g.finder.IsPlain) (h : g.Mapped limit s)
    (hlevels : s.levels = t :: outer) {i : Inclusion} (meets : t.Meets g.resolver i)
    (fresh : i.text.path.mem s.stack = false) :
    g.Trail (s.stack.reverse ++ [i.text.path]) i.text.path := by
  rw [← List.reverse_cons]
  refine trail_reverse rfl ?_ (h.edges_cons hg hlevels meets)
    (Snapshot.distinct_cons fresh h.distinct)
  rw [List.getLast?_cons, h.grounded.getLast? hlevels, Option.getD_some]
  rfl

theorem Mapped.genuine (hg : g.finder.IsPlain) (h : g.Mapped limit s)
    (hlevels : s.levels = t :: outer) {e : PreprocessError}
    (hasks : t.Asks g.resolver limit s.stack s.sofar.once (.stop e)) :
    e.location? = some (t.file, t.number) ∧
      ∃ line rest, t.rest = line :: rest ∧ g.Genuine limit s.stack.reverse t.text.path line e := by
  have hopened := h.opened hlevels
  cases hasks with
  | malformed more malformed =>
    obtain ⟨operand, directive, nameless⟩ := isInclude_of_malformed malformed
    exact ⟨rfl, _, _, more, .malformed directive nameless⟩
  | notFound more request missing =>
    obtain ⟨operand, directive, names⟩ := isInclude_of_request request
    exact ⟨rfl, _, _, more, .notFound directive names ((hopened.request hg _ _).symm.trans missing)⟩
  | recursive meets hopen =>
    obtain ⟨line, rest, name, more, request, hname, found⟩ := h.target? hg hlevels meets
    obtain ⟨operand, directive, names⟩ := isInclude_of_request request
    -- Among nodes, paths that name the same place are equal.
    have hnodes : ∀ q ∈ s.stack, g.IsNode q := by
      rw [Snapshot.stack, hlevels]
      exact hopened.nodes
    have hmem := mem_of_path_mem (.inr (isKept_of_target? found)) hnodes hopen
    rw [hname]
    exact ⟨rfl, line, rest, more, .recursive directive names found (List.mem_reverse.2 hmem)⟩
  | @tooDeep i meets fresh _ full =>
    obtain ⟨line, rest, name, more, request, hname, found⟩ := h.target? hg hlevels meets
    obtain ⟨operand, directive, names⟩ := isInclude_of_request request
    have hdepth : s.stack.length = limit + 1 := Nat.le_antisymm h.depth full
    have hlength : (s.stack.reverse ++ [i.text.path]).length = limit + 2 := by
      rw [List.length_append, List.length_reverse, hdepth, List.length_singleton]
    rw [hname]
    exact ⟨rfl, line, rest, more,
      .tooDeep directive names found (h.trail_further hg hlevels meets fresh) hlength⟩

end Stop

/-- An error that names a file and a line names a line of a file to which a chain of includes leads
from the source text, and this line is at fault as the error says. -/
theorem errors_are_genuine (g : IncludeGraph) (hg : g.finder.IsPlain) (limit : Nat)
    (defines : List Define) (e : PreprocessError)
    (h : (ShaderBuild.preprocess g.resolver limit defines g.source g.path).value = .error e)
    (file : Path) (number : Nat) (hlocation : e.location? = some (file, number)) :
    ∃ trail p line, g.Trail trail p ∧ g.fileOf p = file ∧ 0 < number ∧
      (g.linesOf p)[number - 1]? = some line ∧ g.Genuine limit trail p line e := by
  obtain ⟨s, hleads, hstop⟩ := Snapshot.exists_stopped_of_preprocess h
  obtain ⟨t, outer, hlevels, hasks⟩ := Snapshot.asks_of_turn hstop
  have hmapped := mapped_of_leads hg hleads
  have hplaced := hmapped.placed t (hlevels ▸ List.mem_cons_self)
  obtain ⟨hnamed, line, rest, more, hgenuine⟩ := hmapped.genuine hg hlevels hasks
  obtain ⟨rfl, rfl⟩ := Prod.mk.inj (Option.some.inj (hnamed.symm.trans hlocation))
  exact ⟨s.stack.reverse, t.text.path, line, hmapped.trail hlevels, hplaced.file.symm,
    hplaced.positive, hplaced.getElem? more, hgenuine⟩

/-- The second include of a header leads back to the header that included it. -/
def looping : IncludeGraph where
  finder := Finder.new
  memory := .ofTexts [("lib/a", "#pragma once\n\n#include \"sub/b\"\n"),
    ("lib/sub/b", "int b;\r\n#include <lib/c>\n # include \"../a\" // again\n"),
    ("lib/c", "int c;\n")]
  source := "#version 450\n#include \"./lib/a\"\n"
  path := ⟨"main"⟩

theorem errors_are_genuine_looping :
    let e : PreprocessError := .recursive "../a" ⟨"lib/sub/b"⟩ 3
    looping.finder.IsPlain ∧
      (ShaderBuild.preprocess looping.resolver 64 [("A", "1")] looping.source looping.path).value =
        .error e ∧ e.location? = some (⟨"lib/sub/b"⟩, 3) ∧
      ∃ trail p line, looping.Trail trail p ∧ looping.fileOf p = ⟨"lib/sub/b"⟩ ∧ 0 < 3 ∧
        (looping.linesOf p)[2]? = some line ∧ looping.Genuine 64 trail p line e := by
  intro e
  have hplain : looping.finder.IsPlain := ⟨rfl, by simp [looping, Finder.new]⟩
  have herror :
    (ShaderBuild.preprocess looping.resolver 64 [("A", "1")] looping.source looping.path).value =
      .error e := by decide +kernel
  have hlocation : e.location? = some (⟨"lib/sub/b"⟩, 3) := rfl
  exact ⟨hplain, herror, hlocation, errors_are_genuine looping hplain 64 [("A", "1")] e herror
    _ 3 hlocation⟩

end IncludeGraph

end ShaderBuild
