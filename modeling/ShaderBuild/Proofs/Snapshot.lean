import Mathlib.Logic.Relation
import ShaderBuild.Proofs.Expansion

/-!
An expansion turn by turn. A `Snapshot` holds the texts that are open, innermost first, the texts
that were begun, and what has come of the expansion so far; `Snapshot.next` does what the next line
asks for. Main statements: `exists_finished` and `exists_stopped`, by which an expansion is what the
turns behind its start lead to, and `Snapshot.step_of_next`, which says all that one turn can do to
the open texts.
-/

namespace ShaderBuild

open Relation (ReflTransGen)

/-! ## Turns -/

/-- An include that was found. -/
structure Inclusion where
  kind : IncludeKind
  dir : Path
  name : String
  text : IncludeText
  deriving DecidableEq, Repr

def Inclusion.dependency (i : Inclusion) : Dependency := .record i.name i.dir i.kind (some i.text)

/-- A text that is being expanded. -/
structure OpenText where
  /-- The path that it goes by in messages. -/
  file : Path
  text : IncludeText
  /-- The number of the next line. -/
  number : Nat
  /-- The lines that are left. -/
  rest : List (List Char)
  deriving DecidableEq, Repr

namespace OpenText

def opening (file : Path) (text : IncludeText) : OpenText :=
  ⟨file, text, 1, Text.lines text.contents.toList⟩

def dir (t : OpenText) : Path := t.file.parentDir

/-- The text behind its next line. -/
def passed (t : OpenText) : OpenText := { t with number := t.number + 1, rest := t.rest.tail }

end OpenText

/-- What an expansion does next. -/
inductive Turn where
  /-- Goes on behind the include whose text is at its end. -/
  | leave
  /-- Passes a line that is not copied. -/
  | drop
  | copy (line : List Char)
  /-- Passes an include of a file that is not to be expanded again. -/
  | skip (i : Inclusion)
  | enter (i : Inclusion)
  | stop (e : PreprocessError)
  deriving DecidableEq, Repr

/-- What the next line of a text asks for while the files at `stack` are open. -/
def OpenText.turn (r : Resolver) (limit : Nat) (stack once : List Path) (t : OpenText) : Turn :=
  match t.rest with
  | [] => .leave
  | line :: _ =>
    match IncludeLine.ofLine line with
    | .other => if isPragmaOnce line then .drop else .copy line
    | .malformed => .stop (.malformed t.file t.number)
    | .request kind identifier =>
      let name := String.ofList identifier
      match (r.request kind t.dir name).value with
      | none => .stop (.notFound name t.file t.number)
      | some text =>
        if text.path.mem stack then .stop (.recursive name t.file t.number)
        else if text.path.mem once then .skip ⟨kind, t.dir, name, text⟩
        else if limit < stack.length then .stop (.tooDeep name t.file t.number limit)
        else .enter ⟨kind, t.dir, name, text⟩

/-- The next line of a text is an include that is found. -/
inductive OpenText.Meets (r : Resolver) (t : OpenText) : Inclusion → Prop
  | intro {line : List Char} {rest : List (List Char)} {kind : IncludeKind} {name : List Char}
    {text : IncludeText}
      (more : t.rest = line :: rest) (request : IncludeLine.ofLine line = .request kind name)
      (found : (r.request kind t.dir (String.ofList name)).value = some text) :
      t.Meets r ⟨kind, t.dir, String.ofList name, text⟩

/-- What a text asks for, with one rule for each kind of line and each way to resolve an include. -/
inductive OpenText.Asks (r : Resolver) (limit : Nat) (stack once : List Path) (t : OpenText) :
    Turn → Prop
  | leave (finished : t.rest = []) : t.Asks r limit stack once .leave
  | drop {line : List Char} {rest : List (List Char)} (more : t.rest = line :: rest)
      (other : IncludeLine.ofLine line = .other) (once? : isPragmaOnce line = true) :
        t.Asks r limit stack once .drop
  | copy {line : List Char} {rest : List (List Char)} (more : t.rest = line :: rest)
      (other : IncludeLine.ofLine line = .other) (plain : isPragmaOnce line = false) :
      t.Asks r limit stack once (.copy line)
  | malformed {line : List Char} {rest : List (List Char)} (more : t.rest = line :: rest)
      (malformed : IncludeLine.ofLine line = .malformed) :
      t.Asks r limit stack once (.stop (.malformed t.file t.number))
  | notFound {line : List Char} {rest : List (List Char)} {kind : IncludeKind} {name : List Char}
      (more : t.rest = line :: rest) (request : IncludeLine.ofLine line = .request kind name)
      (missing : (r.request kind t.dir (String.ofList name)).value = none) :
      t.Asks r limit stack once (.stop (.notFound (String.ofList name) t.file t.number))
  | recursive {i : Inclusion} (meets : t.Meets r i) (open? : i.text.path.mem stack = true) :
      t.Asks r limit stack once (.stop (.recursive i.name t.file t.number))
  | skip {i : Inclusion} (meets : t.Meets r i) (fresh : i.text.path.mem stack = false)
      (seen : i.text.path.mem once = true) : t.Asks r limit stack once (.skip i)
  | tooDeep {i : Inclusion} (meets : t.Meets r i) (fresh : i.text.path.mem stack = false)
      (new : i.text.path.mem once = false) (full : limit < stack.length) :
      t.Asks r limit stack once (.stop (.tooDeep i.name t.file t.number limit))
  | enter {i : Inclusion} (meets : t.Meets r i) (fresh : i.text.path.mem stack = false)
      (new : i.text.path.mem once = false) (room : stack.length ≤ limit) :
        t.Asks r limit stack once (.enter i)

theorem OpenText.Asks.turn_eq {r : Resolver} {limit : Nat} {stack once : List Path}
    {t : OpenText} {turn : Turn} (h : t.Asks r limit stack once turn) :
    t.turn r limit stack once = turn := by
  cases h with
  | leave finished => simp [OpenText.turn, finished]
  | drop more other once? => simp [OpenText.turn, more, other, once?]
  | copy more other plain => simp [OpenText.turn, more, other, plain]
  | malformed more malformed => simp [OpenText.turn, more, malformed]
  | notFound more request missing => simp [OpenText.turn, more, request, missing]
  | recursive meets opened =>
    obtain ⟨more, request, found⟩ := meets
    simp [OpenText.turn, more, request, found, opened]
  | skip meets fresh seen =>
    obtain ⟨more, request, found⟩ := meets
    simp [OpenText.turn, more, request, found, fresh, seen]
  | tooDeep meets fresh new full =>
    obtain ⟨more, request, found⟩ := meets
    simp [OpenText.turn, more, request, found, fresh, new, full]
  | enter meets fresh new room =>
    obtain ⟨more, request, found⟩ := meets
    simp [OpenText.turn, more, request, found, fresh, new, Nat.not_lt.2 room]

theorem OpenText.asks_turn (r : Resolver) (limit : Nat) (stack once : List Path) (t : OpenText) :
    t.Asks r limit stack once (t.turn r limit stack once) := by
  rw [OpenText.turn]
  cases hrest : t.rest with
  | nil => exact .leave hrest
  | cons line rest =>
    simp only
    cases hline : IncludeLine.ofLine line with
    | malformed => exact .malformed hrest hline
    | other =>
      simp only
      split
      · exact .drop hrest hline ‹_›
      · exact .copy hrest hline (eq_false_of_ne_true ‹_›)
    | request kind name =>
      simp only
      cases hfound : (r.request kind t.dir (String.ofList name)).value with
      | none => exact .notFound hrest hline hfound
      | some text =>
        have hmeets := OpenText.Meets.intro hrest hline hfound
        simp only
        split
        · exact .recursive hmeets ‹_›
        rename_i hfresh
        have hfresh := eq_false_of_ne_true hfresh
        split
        · exact .skip hmeets hfresh ‹_›
        rename_i hnew
        have hnew := eq_false_of_ne_true hnew
        split
        · exact .tooDeep hmeets hfresh hnew ‹_›
        · exact .enter hmeets hfresh hnew (Nat.not_lt.1 ‹_›)

/-! ## Snapshots -/

structure Snapshot where
  /-- The texts being expanded, innermost first. -/
  levels : List OpenText
  /-- The texts of which the expansion has begun, newest first. -/
  begun : List IncludeText
  sofar : Expansion

namespace Snapshot

def stack (s : Snapshot) : List Path := s.levels.map (·.text.path)

/-- What is done next, unless the expansion is finished. -/
def turn (r : Resolver) (limit : Nat) (s : Snapshot) : Option Turn :=
  s.levels.head?.map (·.turn r limit s.stack s.sofar.once)

/-- The innermost text passes a line, which adds to what has come of the expansion. -/
def pass (s : Snapshot) (t : OpenText) (outer : List OpenText) (lines : List (List Char))
    (dependencies : List Dependency) : Snapshot :=
  { s with
    levels := t.passed :: outer
    sofar := ⟨s.sofar.lines ++ lines, s.sofar.dependencies ++ dependencies, s.sofar.once⟩ }

/-- The innermost text passes an include, of which the expansion begins. -/
def begin (s : Snapshot) (t : OpenText) (outer : List OpenText) (i : Inclusion) : Snapshot where
  levels := .opening i.text.path i.text :: t.passed :: outer
  begun := i.text :: s.begun
  sofar := ⟨s.sofar.lines, s.sofar.dependencies ++ [i.dependency],
    onceAfter i.text.path i.text.contents.toList s.sofar.once⟩

theorem stack_pass {s : Snapshot} {t : OpenText} {outer : List OpenText} (h : s.levels = t :: outer)
    (lines : List (List Char)) (dependencies : List Dependency) :
    (s.pass t outer lines dependencies).stack = s.stack := by
  rw [stack, stack, h]
  rfl

theorem stack_begin {s : Snapshot} {t : OpenText} {outer : List OpenText}
    (h : s.levels = t :: outer) (i : Inclusion) :
    (s.begin t outer i).stack = i.text.path :: s.stack := by
  rw [stack, stack, h]
  rfl

/-- The snapshot behind a turn of the innermost text. There is none behind an error. -/
def after (s : Snapshot) (t : OpenText) (outer : List OpenText) : Turn → Option Snapshot
  | .leave => some { s with levels := outer }
  | .drop => some (s.pass t outer [] [])
  | .copy line => some (s.pass t outer [line] [])
  | .skip i => some (s.pass t outer [] [i.dependency])
  | .enter i => some (s.begin t outer i)
  | .stop _ => none

/-- The snapshot behind the next turn. -/
def next (r : Resolver) (limit : Nat) (s : Snapshot) : Option Snapshot :=
  match s.levels with
  | [] => none
  | t :: outer => s.after t outer (t.turn r limit s.stack s.sofar.once)

/-- Nothing of the source text has been expanded yet. -/
def start (r : Resolver) (source : String) (path : Path) : Snapshot where
  levels := [.opening path ⟨r.resolved path, source⟩]
  begun := [⟨r.resolved path, source⟩]
  sofar := ⟨[], [], onceAfter (r.resolved path) source.toList []⟩

/-- One snapshot comes some turns after another. -/
def Leads (r : Resolver) (limit : Nat) : Snapshot → Snapshot → Prop :=
  ReflTransGen fun s s' => s.next r limit = some s'

/-! ## One turn -/

/-- All that one turn can do to the open texts. -/
inductive Step (r : Resolver) (limit : Nat) (s : Snapshot) : Snapshot → Prop
  | leave {t : OpenText} {outer : List OpenText} (levels : s.levels = t :: outer)
    (finished : t.rest = []) :
      s.Step r limit { s with levels := outer }
  | pass {t : OpenText} {outer : List OpenText} {line : List Char} {rest : List (List Char)}
      (levels : s.levels = t :: outer) (more : t.rest = line :: rest) (lines : List (List Char))
      (dependencies : List Dependency) : s.Step r limit (s.pass t outer lines dependencies)
  | enter {t : OpenText} {outer : List OpenText} {i : Inclusion} (levels : s.levels = t :: outer)
      (meets : t.Meets r i) (fresh : i.text.path.mem s.stack = false)
        (new : i.text.path.mem s.sofar.once = false)
      (room : s.stack.length ≤ limit) : s.Step r limit (s.begin t outer i)

section

variable {r : Resolver} {limit : Nat} {s s' : Snapshot} {t : OpenText} {outer : List OpenText}
    {turn : Turn}

theorem step_of_next (h : s.next r limit = some s') :
    s.Step r limit s' := by
  rw [next] at h
  split at h
  · cases h
  rename_i t outer hlevels
  have hasks := t.asks_turn r limit s.stack s.sofar.once
  generalize t.turn r limit s.stack s.sofar.once = turn at h hasks
  cases hasks with
  | leave finished =>
    cases h
    exact .leave hlevels finished
  | drop more _ _ =>
    cases h
    exact .pass hlevels more _ _
  | copy more _ _ =>
    cases h
    exact .pass hlevels more _ _
  | skip meets _ _ =>
    cases h
    obtain ⟨more, _, _⟩ := meets
    exact .pass hlevels more _ _
  | enter meets fresh new room =>
    cases h
    exact .enter hlevels meets fresh new room
  | malformed _ _ => cases h
  | notFound _ _ _ => cases h
  | recursive _ _ => cases h
  | tooDeep _ _ _ _ => cases h

theorem distinct_cons {p : Path} {ps : List Path} (fresh : p.mem ps = false)
    (h : ps.Pairwise fun q p => q.same p = false) :
    (p :: ps).Pairwise fun q p => q.same p = false := by
  refine List.pairwise_cons.2 ⟨fun q hq => ?_, h⟩
  simpa using List.any_eq_false.1 fresh q hq

/-- The files that are open stay different, since a file that is open is not entered again. -/
theorem Step.distinct (h : s.Step r limit s') (hs : s.stack.Pairwise fun q p => q.same p = false) :
    s'.stack.Pairwise fun q p => q.same p = false := by
  cases h with
  | leave levels _ =>
    rw [stack, levels] at hs
    exact hs.tail
  | pass levels _ _ _ =>
    rw [stack_pass levels]
    exact hs
  | enter levels _ fresh _ _ =>
    rw [stack_begin levels]
    exact distinct_cons fresh hs

/-- No more files are open than the limit allows. -/
theorem Step.length_stack (h : s.Step r limit s') (hs : s.stack.length ≤ limit + 1) :
    s'.stack.length ≤ limit + 1 := by
  cases h with
  | leave levels _ =>
    rw [stack, levels] at hs
    exact Nat.le_of_succ_le hs
  | pass levels _ _ _ =>
    rw [stack_pass levels]
    exact hs
  | enter levels _ _ _ room =>
    rw [stack_begin levels]
    exact Nat.succ_le_succ room

/-- Every open text was begun. -/
theorem Step.levels_begun (h : s.Step r limit s') (hs : ∀ t ∈ s.levels, t.text ∈ s.begun) :
    ∀ t ∈ s'.levels, t.text ∈ s'.begun := by
  cases h with
  | leave levels _ => exact fun t ht => hs t (levels ▸ .tail _ ht)
  | pass levels _ _ _ =>
    rw [levels, List.forall_mem_cons] at hs
    exact List.forall_mem_cons.2 hs
  | enter levels _ _ _ _ =>
    rw [levels, List.forall_mem_cons] at hs
    refine List.forall_mem_cons.2 ⟨List.mem_cons_self, List.forall_mem_cons.2 ⟨.tail _ hs.1, ?_⟩⟩
    exact fun u hu => .tail _ (hs.2 u hu)

theorem mem_onceAfter {path p : Path} {text : List Char} {once : List Path}
    (h : p ∈ onceAfter path text once) :
    p = path ∧ hasPragmaOnce text = true ∨ p ∈ once := by
  rw [onceAfter] at h
  split at h
  · exact (List.mem_cons.1 h).imp_left (⟨·, ‹_›⟩)
  · exact .inr h

/-- Every path that is kept from another expansion is that of a text with `#pragma once`. -/
def Kept (s : Snapshot) : Prop :=
  ∀ p ∈ s.sofar.once, ∃ t ∈ s.begun, t.path = p ∧ hasPragmaOnce t.contents.toList = true

theorem kept_start (r : Resolver) (source : String) (path : Path) : (start r source path).Kept := by
  intro p hp
  obtain ⟨rfl, honce⟩ | hnone := mem_onceAfter hp
  · exact ⟨_, List.mem_singleton_self _, rfl, honce⟩
  · cases hnone

theorem Step.kept (h : s.Step r limit s') (hs : s.Kept) : s'.Kept := by
  cases h with
  | leave _ _ => exact hs
  | pass _ _ _ _ => exact hs
  | enter _ _ _ _ _ =>
    intro p hp
    obtain ⟨rfl, honce⟩ | hp := mem_onceAfter hp
    · exact ⟨_, List.mem_cons_self, rfl, honce⟩
    · obtain ⟨u, hu, hpath⟩ := hs p hp
      exact ⟨u, .tail _ hu, hpath⟩

/-- What every turn keeps holds at every snapshot that follows. -/
theorem Leads.invariant {Holds : Snapshot → Prop}
    (hstep : ∀ s s', Holds s → s.Step r limit s' → Holds s') (h : Leads r limit s s')
    (hs : Holds s) : Holds s' := by
  induction h with
  | refl => exact hs
  | tail _ hnext ih => exact hstep _ _ ih (step_of_next hnext)

theorem next_eq (hlevels : s.levels = t :: outer) (h : t.Asks r limit s.stack s.sofar.once turn) :
    s.next r limit = s.after t outer turn := by
  rw [next, hlevels]
  simp only [h.turn_eq]

theorem turn_eq (hlevels : s.levels = t :: outer) (h : t.Asks r limit s.stack s.sofar.once turn) :
    s.turn r limit = some turn := by
  rw [Snapshot.turn, hlevels, List.head?_cons, Option.map_some, h.turn_eq]

/-- The snapshot that comes a number of turns later. -/
def later (r : Resolver) (limit : Nat) : Nat → Snapshot → Option Snapshot
  | 0, s => some s
  | count + 1, s => (s.next r limit).bind (later r limit count)

theorem leads_of_later {count : Nat} (h : s.later r limit count = some s') :
    Leads r limit s s' := by
  induction count generalizing s with
  | zero =>
    obtain rfl := Option.some.inj h
    exact .refl
  | succ count ih =>
    obtain ⟨next, hnext, hlater⟩ := Option.bind_eq_some_iff.1 h
    exact .head hnext (ih hlater)

theorem asks_of_turn (h : s.turn r limit = some turn) :
    ∃ t outer, s.levels = t :: outer ∧ t.Asks r limit s.stack s.sofar.once turn := by
  rw [Snapshot.turn] at h
  cases hlevels : s.levels with
  | nil =>
    rw [hlevels] at h
    cases h
  | cons t outer =>
    rw [hlevels, List.head?_cons, Option.map_some, Option.some.injEq] at h
    exact ⟨t, outer, rfl, h ▸ t.asks_turn r limit s.stack s.sofar.once⟩

theorem next_finished (hlevels : s.levels = t :: outer) (h : t.rest = []) :
    s.next r limit = some { s with levels := outer } :=
  next_eq hlevels (.leave h)

end

end Snapshot

/-! ## Lines that are passed -/

namespace OpenText

def frame (t : OpenText) (outer : List OpenText) : Frame :=
  ⟨t.file, t.dir, (t :: outer).map (·.text.path)⟩

@[simp] theorem file_frame (t : OpenText) (outer : List OpenText) : (t.frame outer).file = t.file :=
  rfl

@[simp] theorem dir_frame (t : OpenText) (outer : List OpenText) : (t.frame outer).dir = t.dir :=
  rfl

theorem length_stack (t : OpenText) (outer : List OpenText) :
    (t.frame outer).stack.length = outer.length + 1 := by
  simp [frame]

/-- A text some lines further on. -/
def behind (t : OpenText) (count : Nat) (rest : List (List Char)) : OpenText :=
  { t with number := t.number + count, rest }

theorem behind_passed (t : OpenText) (count : Nat) (rest : List (List Char)) :
    t.passed.behind count rest = t.behind (count + 1) rest := by
  simp [behind, passed, Nat.add_comm, Nat.add_left_comm]

theorem rest_passed {t : OpenText} {line : List Char} {rest : List (List Char)}
    (h : t.rest = line :: rest) :
    t.passed.rest = rest := by
  rw [passed, h]
  rfl

end OpenText

/-- An expansion behind what came before it. -/
def Expansion.followedBy (a b : Expansion) : Expansion :=
  ⟨a.lines ++ b.lines, a.dependencies ++ b.dependencies, b.once⟩

theorem Expansion.followedBy_prepend (a b : Expansion) (lines : List (List Char))
    (dependencies : List Dependency) :
    a.followedBy (b.prepend lines dependencies) =
      (Expansion.mk (a.lines ++ lines) (a.dependencies ++ dependencies) a.once).followedBy b := by
  simp only [followedBy, prepend, List.append_assoc]

/-- What an include adds and then the lines behind it. -/
theorem Snapshot.followedBy_begin (s : Snapshot) (t : OpenText) (outer : List OpenText)
    (i : Inclusion) (inner e : Expansion) :
    ((s.begin t outer i).sofar.followedBy inner).followedBy e =
      s.sofar.followedBy (e.prepend inner.lines (i.dependency :: inner.dependencies)) := by
  simp [begin, Expansion.followedBy, Expansion.prepend]

/-- Wherever these lines are the next of the text, they are passed turn by turn, and add an
expansion. -/
def OpenText.Passes (r : Resolver) (limit : Nat) (outer : List OpenText) (t : OpenText)
    (lines : List (List Char)) (once : List Path) (e : Expansion) : Prop :=
  ∀ begun sofar more, t.rest = lines ++ more → sofar.once = once → ∃ begun',
    Snapshot.Leads r limit ⟨t :: outer, begun, sofar⟩ ⟨t.behind lines.length more :: outer, begun',
      sofar.followedBy e⟩

namespace OpenText

variable {r : Resolver} {limit : Nat} {outer : List OpenText} {t : OpenText} {line : List Char}
  {lines : List (List Char)} {once : List Path} {e : Expansion}

theorem passes_nil : t.Passes r limit outer [] once ⟨[], [], once⟩ := by
  intro begun sofar more hrest honce
  have hsame : t.behind 0 more = t := by rw [← show t.rest = more from hrest]; rfl
  have hsofar : sofar.followedBy ⟨[], [], once⟩ = sofar := by
    rw [Expansion.followedBy, ← honce, List.append_nil, List.append_nil]
  rw [List.length_nil, hsame, hsofar]
  exact ⟨begun, .refl⟩

/-- A line that enters nothing. -/
theorem passes_line {turn : Turn} {ls : List (List Char)} {ds : List Dependency}
    (hasks : ∀ rest, t.rest = line :: rest → t.Asks r limit (t.frame outer).stack once turn)
    (hafter : ∀ s : Snapshot, s.after t outer turn = some (s.pass t outer ls ds))
    (htail : t.passed.Passes r limit outer lines once e) :
    t.Passes r limit outer (line :: lines) once (e.prepend ls ds) := by
  intro begun sofar more hrest honce
  have hnext : (⟨t :: outer, begun, sofar⟩ : Snapshot).next r limit = some _ :=
    (Snapshot.next_eq rfl (honce ▸ hasks _ hrest)).trans (hafter _)
  obtain ⟨begun', hleads⟩ :=
    htail begun ⟨sofar.lines ++ ls, sofar.dependencies ++ ds, sofar.once⟩ more
    (rest_passed hrest) honce
  rw [behind_passed] at hleads
  rw [Expansion.followedBy_prepend]
  exact ⟨begun', .head hnext hleads⟩

/-- An include that is entered, with the lines of its text. -/
theorem passes_enter {i : Inclusion} {inner : Expansion}
    (hasks : ∀ rest, t.rest = line :: rest → t.Asks r limit (t.frame outer).stack once (.enter i))
    (hbody : (opening i.text.path i.text).Passes r limit (t.passed :: outer)
    (Text.lines i.text.contents.toList)
      (onceAfter i.text.path i.text.contents.toList once) inner)
    (htail : t.passed.Passes r limit outer lines inner.once e) :
    t.Passes r limit outer (line :: lines) once
      (e.prepend inner.lines (i.dependency :: inner.dependencies)) := by
  -- One turn into the text, the turns of its lines, one turn out of it, and the turns of the lines
  -- behind.
  intro begun sofar more hrest honce
  let s : Snapshot := ⟨t :: outer, begun, sofar⟩
  have hturn : t.Asks r limit s.stack s.sofar.once (.enter i) := honce ▸ hasks _ hrest
  have henter : s.next r limit = some (s.begin t outer i) := Snapshot.next_eq rfl hturn
  obtain ⟨begun₁, hinside⟩ :=
    hbody (i.text :: begun) (s.begin t outer i).sofar [] (List.append_nil _).symm
    (honce ▸ rfl)
  obtain ⟨begun₂, hbehind⟩ :=
    htail begun₁ ((s.begin t outer i).sofar.followedBy inner) more (rest_passed hrest) rfl
  rw [behind_passed] at hbehind
  rw [s.followedBy_begin] at hbehind
  exact ⟨begun₂, .head henter (hinside.trans (.head (Snapshot.next_finished rfl rfl) hbehind))⟩

end OpenText

/-! ## The whole of a file -/

/-- Lines that expand are passed turn by turn. The levels that are left and the texts around the
open one make up the limit, so that an include finds room exactly if a level is left. -/
theorem Expands.passes {r : Resolver} {limit room : Nat} {f : Frame} {lines : List (List Char)}
    {once : List Path} {e : Expansion} (h : Expands r room f lines once e) {t : OpenText}
    {outer : List OpenText} (hframe : f = t.frame outer) (hroom : room + outer.length = limit) :
    t.Passes r limit outer lines once e := by
  induction h generalizing t outer with
  | nil => exact t.passes_nil
  | pragma other once? _ ih =>
    exact t.passes_line (fun _ more => .drop more other once?) (fun _ => rfl) (ih hframe hroom)
  | copy other plain _ ih =>
    exact t.passes_line (fun _ more => .copy more other plain) (fun _ => rfl) (ih hframe hroom)
  | skip request found fresh seen _ ih =>
    subst hframe
    exact t.passes_line (fun _ more => .skip (.intro more request found) fresh seen) (fun _ => rfl)
      (ih rfl hroom)
  | enter request found fresh new _ _ ihBody ihTail =>
    subst hframe
    have hdepth : (t.frame outer).stack.length ≤ limit := by
      rw [OpenText.length_stack]
      omega
    apply t.passes_enter (fun _ more => .enter (.intro more request found) fresh new hdepth)
    · apply ihBody rfl
      rw [List.length_cons]
      omega
    · exact ihTail rfl hroom

/-- Lines that fail lead to the turn that reports the failure. -/
theorem Fails.stops {r : Resolver} {limit room : Nat} {f : Frame} {number : Nat}
    {lines : List (List Char)} {once : List Path} {e : PreprocessError}
    (h : Fails r limit room f number lines once e) {t : OpenText} {outer : List OpenText}
    (hframe : f = t.frame outer) (hroom : room + outer.length = limit) (hnumber : number = t.number)
    (hrest : t.rest = lines) (begun : List IncludeText) (sofar : Expansion)
    (honce : sofar.once = once) :
    ∃ s, Snapshot.Leads r limit ⟨t :: outer, begun, sofar⟩ s ∧ s.turn r limit = some (.stop e) := by
  induction h generalizing t outer begun sofar with
  | malformed malformed =>
    subst hframe hnumber
    exact ⟨_, .refl, Snapshot.turn_eq rfl (.malformed hrest malformed)⟩
  | notFound request missing =>
    subst hframe hnumber
    exact ⟨_, .refl, Snapshot.turn_eq rfl (.notFound hrest request missing)⟩
  | recursive request found opened =>
    subst hframe hnumber
    exact ⟨_, .refl, Snapshot.turn_eq rfl (.recursive (.intro hrest request found) opened)⟩
  | tooDeep request found fresh new =>
    subst hframe hnumber honce
    have hfull : limit < (t.frame outer).stack.length := by
      rw [OpenText.length_stack]
      omega
    exact ⟨_, .refl, Snapshot.turn_eq rfl (.tooDeep (.intro hrest request found) fresh new hfull)⟩
  | @inside room _ _ _ _ _ kind name text _ request found fresh new _ ih =>
    subst hframe honce
    have hdepth : (t.frame outer).stack.length ≤ limit := by
      rw [OpenText.length_stack]
      omega
    let s : Snapshot := ⟨t :: outer, begun, sofar⟩
    let i : Inclusion := ⟨kind, t.dir, String.ofList name, text⟩
    have hturn : t.Asks r limit s.stack s.sofar.once (.enter i) :=
      .enter (.intro hrest request found) fresh new hdepth
    have henter : s.next r limit = some (s.begin t outer i) := Snapshot.next_eq rfl hturn
    have hframe : (t.frame outer).enter text.path =
        (OpenText.opening text.path text).frame (t.passed :: outer) := rfl
    have hroom : room + (t.passed :: outer).length = limit := by
      rw [List.length_cons]
      omega
    obtain ⟨s', hleads, hstop⟩ :=
      ih hframe hroom rfl rfl (text :: begun) (s.begin t outer i).sofar rfl
    exact ⟨s', .head henter hleads, hstop⟩
  | later passed _ ih =>
    obtain ⟨begun', hpassed⟩ := passed.passes hframe hroom begun sofar _ hrest honce
    obtain ⟨s, hleads, hstop⟩ :=
      ih (t := t.behind 1 _) hframe hroom (by rw [hnumber]; rfl) rfl begun'
      (sofar.followedBy _) rfl
    exact ⟨s, hpassed.trans hleads, hstop⟩

/-! ## The source text -/

namespace Snapshot

variable {r : Resolver} {limit : Nat} {source : String} {path : Path}

/-- Every expansion is what the turns come to that lead to no text being open. -/
theorem exists_finished {e : Expansion} (h : r.expansion limit source path = .ok e) :
    ∃ begun, Leads r limit (start r source path) ⟨[], begun, e⟩ := by
  let t : OpenText := .opening path ⟨r.resolved path, source⟩
  have hframe : r.frame path = t.frame [] := rfl
  have hpasses := (expand_ok_iff.1 h).passes hframe (Nat.add_zero limit)
  obtain ⟨begun, hleads⟩ := hpasses (start r source path).begun (start r source path).sofar []
    (List.append_nil _).symm rfl
  exact ⟨begun, hleads.tail (next_finished rfl rfl)⟩

/-- Every failure of an expansion is a turn that comes behind the start. -/
theorem exists_stopped {e : PreprocessError} (h : r.expansion limit source path = .error e) :
    ∃ s, Leads r limit (start r source path) s ∧ s.turn r limit = some (.stop e) := by
  let t : OpenText := .opening path ⟨r.resolved path, source⟩
  have hframe : r.frame path = t.frame [] := rfl
  exact (fails_of_expand_error h).stops hframe (Nat.add_zero limit) rfl rfl _
    (start r source path).sofar rfl

theorem exists_finished_of_preprocess {defines : List Define} {out : Preprocessed}
    (h : (preprocess r limit defines source path).value = .ok out) :
    ∃ s, Leads r limit (start r source path) s ∧ s.levels = [] ∧
      Define.inject? s.sofar.code defines = some out.code.toList ∧ s.sofar.dependencies =
        out.dependencies := by
  obtain ⟨e, code, hexpansion, hcode, rfl⟩ := preprocess_ok_iff.1 h
  obtain ⟨begun, hleads⟩ := exists_finished hexpansion
  exact ⟨_, hleads, rfl, by rw [hcode, String.toList_ofList], rfl⟩

theorem exists_stopped_of_preprocess {defines : List Define} {e : PreprocessError}
    (h : (preprocess r limit defines source path).value = .error e) :
    ∃ s, Leads r limit (start r source path) s ∧ s.turn r limit = some (.stop e) := by
  rw [value_preprocess] at h
  cases hexpansion : r.expansion limit source path with
  | error e' =>
    rw [hexpansion] at h
    cases h
    exact exists_stopped hexpansion
  | ok expansion =>
    simp only [hexpansion] at h
    split at h
    · cases h
    · cases h

/-- As long as texts are open, the source text is the outermost. -/
def Grounded (r : Resolver) (path : Path) (s : Snapshot) : Prop :=
  s.levels = [] ∨ s.stack.getLast? = some (r.resolved path)

theorem Grounded.getLast? {s : Snapshot} {t : OpenText} {outer : List OpenText}
    (h : s.Grounded r path) (hlevels : s.levels = t :: outer) :
    s.stack.getLast? = some (r.resolved path) :=
  h.resolve_left (hlevels ▸ List.cons_ne_nil t outer)

theorem Step.grounded {s s' : Snapshot} (h : s.Step r limit s') (hs : s.Grounded r path) :
    s'.Grounded r path := by
  cases h with
  | @leave t outer levels _ =>
    cases outer with
    | nil => exact .inl rfl
    | cons u outer =>
      have hlast := hs.getLast? levels
      rw [stack, levels, List.map_cons, List.map_cons, List.getLast?_cons_cons] at hlast
      exact .inr hlast
  | pass levels _ _ _ =>
    right
    rw [stack_pass levels]
    exact hs.getLast? levels
  | enter levels _ _ _ _ =>
    right
    rw [stack_begin levels, List.getLast?_cons, hs.getLast? levels, Option.getD_some]

theorem Leads.grounded {s : Snapshot} (h : Leads r limit (start r source path) s) :
    s.Grounded r path :=
  h.invariant (fun _ _ hs hstep => hstep.grounded hs) (.inr rfl)

end Snapshot

end ShaderBuild
