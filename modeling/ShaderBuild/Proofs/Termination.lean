import ShaderBuild.Proofs.DefineLines
import ShaderBuild.Proofs.Resumption

/-!
That every expansion ends, and what it keeps to on the way. Texts are fetched while it runs, and a
generator may answer every identifier with an include of another one, so nothing about the texts
bounds their number: a turn either takes a line off the innermost text or goes one level deeper.
Main statement: `expansion_terminates`.
-/

namespace ShaderBuild

/-! ## Paths that are known -/

theorem Path.mem_of_same {p q : Path} (h : p.same q) (ps : List Path) : p.mem ps = q.mem ps := by
  have hcomponents : p.components = q.components := by simpa [Path.same] using h
  have hsame : p.same = q.same := funext fun x => by rw [Path.same, Path.same, hcomponents]
  rw [Path.mem, Path.mem, hsame]

theorem Path.mem_onceAfter_self {path : Path} {text : List Char} (h : hasPragmaOnce text = true)
    (once : List Path) :
    path.mem (onceAfter path text once) = true := by
  simp [onceAfter, h, Path.mem, Path.same]

theorem Path.mem_onceAfter_of_mem {path p : Path} {once : List Path} (h : p.mem once = true)
    (text : List Char) :
    p.mem (onceAfter path text once) = true := by
  rw [onceAfter]
  split
  · simp only [Path.mem, List.any_cons, Bool.or_eq_true] at h ⊢
    exact .inr h
  · exact h

namespace Snapshot

variable {r : Resolver} {limit : Nat}

/-! ## No endless run -/

/-- Whatever was begun and has come of the expansion so far, it ends if these are the texts that are
open. -/
def Ends (r : Resolver) (limit : Nat) (levels : List OpenText) : Prop :=
  ∀ begun sofar, Acc (fun s' s : Snapshot => s.next r limit = some s') ⟨levels, begun, sofar⟩

theorem ends_nil : Ends r limit [] :=
  fun _ _ => .intro _ nofun

/-- A text in which nothing is entered, or only texts that end, ends as the texts around it do. -/
theorem ends_cons_of_deeper {outer : List OpenText} (houter : Ends r limit outer)
    (hdeeper : ∀ t u, outer.length + 1 ≤ limit → Ends r limit (t :: outer) →
      Ends r limit (u :: t :: outer))
    (t : OpenText) : Ends r limit (t :: outer) := by
  -- Every turn but the last takes a line off the text.
  induction hlength : t.rest.length using Nat.strongRecOn generalizing t with
  | ind length ih =>
    have hpassed : ∀ {line rest}, t.rest = line :: rest → Ends r limit (t.passed :: outer) := by
      intro line rest more
      refine ih rest.length ?_ t.passed (congrArg _ (OpenText.rest_passed more))
      rw [← hlength, more]
      exact Nat.lt_succ_self _
    intro begun sofar
    refine .intro _ fun s' hnext => ?_
    cases step_of_next hnext with
    | leave levels _ =>
      cases levels
      exact houter _ _
    | pass levels more _ _ =>
      cases levels
      exact hpassed more _ _
    | enter levels meets _ _ room =>
      cases levels
      obtain ⟨more, _, _⟩ := meets
      rw [stack, List.length_map, List.length_cons] at room
      exact hdeeper _ _ room (hpassed more) _ _

theorem ends_cons {room : Nat} {outer : List OpenText} (hroom : limit ≤ outer.length + room)
    (h : Ends r limit outer) (t : OpenText) : Ends r limit (t :: outer) := by
  -- Going one level deeper takes one off the room.
  induction room generalizing outer t with
  | zero =>
    exact ends_cons_of_deeper h
      (fun _ _ hdepth _ => absurd (Nat.le_trans hdepth hroom) (Nat.lt_irrefl _)) t
  | succ room ih =>
    refine ends_cons_of_deeper h (fun u v _ hu => ih ?_ hu v) t
    rw [List.length_cons]
    omega

theorem ends (levels : List OpenText) : Ends r limit levels := by
  induction levels with
  | nil => exact ends_nil
  | cons t outer ih => exact ends_cons (Nat.le_add_left limit outer.length) ih t

/-- No turns go on for ever, wherever they begin. -/
theorem next_wellFounded (r : Resolver) (limit : Nat) :
    WellFounded fun s' s : Snapshot => s.next r limit = some s' :=
  ⟨fun s => ends s.levels s.begun s.sofar⟩

/-! ## On the way -/

/-- What every turn keeps to. -/
structure Regular (limit : Nat) (s : Snapshot) : Prop where
  /-- No file is open twice. -/
  distinct : s.stack.Pairwise fun q p => q.same p = false
  length : s.stack.length ≤ limit + 1
  begun : ∀ t ∈ s.levels, t.text ∈ s.begun
  /-- The path of a text that asks to be expanded once is known. -/
  marked : ∀ t ∈ s.begun, hasPragmaOnce t.contents.toList = true → t.path.mem s.sofar.once = true
  /-- Behind a text that asks to be expanded once, none of its path is begun. -/
  once : s.begun.Pairwise fun newer older =>
    hasPragmaOnce older.contents.toList = true → newer.path.same older.path = false

theorem regular_start (source : String) (path : Path) : (start r source path).Regular limit where
  distinct := List.pairwise_singleton _ _
  length := Nat.le_add_left 1 limit
  begun t ht := by
    obtain rfl := List.mem_singleton.1 ht
    exact List.mem_singleton_self _
  marked t ht honce := by
    obtain rfl := List.mem_singleton.1 ht
    exact Path.mem_onceAfter_self honce []
  once := List.pairwise_singleton _ _

theorem Regular.step {s s' : Snapshot} (h : s.Regular limit) (hstep : s.Step r limit s') :
    s'.Regular limit := by
  have hdistinct := hstep.distinct h.distinct
  have hlength := hstep.length_stack h.length
  have hbegun := hstep.levels_begun h.begun
  cases hstep with
  | leave _ _ => exact ⟨hdistinct, hlength, hbegun, h.marked, h.once⟩
  | pass _ _ _ _ => exact ⟨hdistinct, hlength, hbegun, h.marked, h.once⟩
  | enter _ _ _ new _ =>
    refine ⟨hdistinct, hlength, hbegun, ?_, ?_⟩
    · refine List.forall_mem_cons.2 ⟨fun honce => Path.mem_onceAfter_self honce _,
        fun t ht honce => ?_⟩
      exact Path.mem_onceAfter_of_mem (h.marked t ht honce) _
    · refine List.pairwise_cons.2 ⟨fun t ht honce => eq_false_of_ne_true fun hsame => ?_, h.once⟩
      -- A path that is kept from another expansion is not entered.
      rw [Path.mem_of_same hsame, h.marked t ht honce] at new
      cases new

/-- The expansion is about to expand the lines that are left of `t`, at a depth that is the number
of texts around it: as many levels less than the limit are left. -/
structure At (r : Resolver) (limit : Nat) (source : String) (path : Path) (s : Snapshot)
    (t : OpenText) (outer : List OpenText) (depth : Nat) : Prop where
  call : r.expansion limit source path =
    (expandLines r limit (enterAt r limit (limit - depth)) ⟨t.file, t.dir, s.stack⟩ t.number t.rest
      s.sofar.once).value.bind fun inner => finish r limit outer (s.sofar.followedBy inner)
  length : s.stack.length = depth + 1

theorem at_of_leads {source : String} {path : Path} {s : Snapshot} {t : OpenText}
    {outer : List OpenText} (h : Leads r limit (start r source path) s)
    (hlevels : s.levels = t :: outer) :
    s.At r limit source path t outer outer.length where
  call := by
    rw [← outcome_start, ← h.outcome_eq, outcome_eq hlevels, stack_eq hlevels]
    rfl
  length := by rw [stack_eq hlevels, OpenText.length_stack]

/-! ## The end -/

/-- How preprocessing ends when its expansion ends at a snapshot. -/
inductive Yields (r : Resolver) (limit : Nat) (defines : List Define) (s : Snapshot) :
    Ending PreprocessError Preprocessed → Prop
  | code {code : List Char} (finished : s.levels = [])
      (injected : Define.inject? s.sofar.code defines = some code) :
      s.Yields r limit defines (.ok ⟨String.ofList code, s.sofar.dependencies⟩)
  /-- The expansion is finished, but the place for the defines in it is inside a character. -/
  | panicked (finished : s.levels = []) (nowhere : Define.inject? s.sofar.code defines = none) :
      s.Yields r limit defines .panicked
  | error {e : PreprocessError} (stops : s.turn r limit = some (.stop e)) :
      s.Yields r limit defines (.error e)

theorem exists_yields (r : Resolver) (limit : Nat) (defines : List Define) (source : String)
    (path : Path) :
    ∃ s, Leads r limit (start r source path) s ∧
      s.Yields r limit defines (preprocess r limit defines source path).value := by
  rw [value_preprocess]
  cases hexpansion : r.expansion limit source path with
  | error e =>
    obtain ⟨s, hleads, hstop⟩ := exists_stopped hexpansion
    exact ⟨s, hleads, .error hstop⟩
  | ok e =>
    obtain ⟨begun, hleads⟩ := exists_finished hexpansion
    refine ⟨_, hleads, ?_⟩
    simp only
    cases hcode : Define.inject? e.code defines with
    | none => exact .panicked rfl hcode
    | some code => exact .code rfl hcode

/-- Preprocessing panics only if there are defines and the place that is counted for them in the
code without them is inside a character. -/
theorem preprocess_panics_iff {defines : List Define} {source : String} {path : Path} :
    (preprocess r limit defines source path).value = .panicked ↔ defines ≠ [] ∧
      ∃ plain, (preprocess r limit [] source path).value = .ok plain ∧
        Define.PlaceInside plain.code.toList := by
  cases hexpansion : r.expansion limit source path with
  | error e =>
    have hfails (ds : List Define) : (preprocess r limit ds source path).value = .error e := by
      rw [value_preprocess, hexpansion]
    simp [hfails]
  | ok e =>
    have hplain := preprocess_plain hexpansion
    have hinside : (preprocess r limit defines source path).value = .panicked ↔
        Define.inject? e.code defines = none := by
      rw [value_preprocess, hexpansion]
      simp only
      cases Define.inject? e.code defines <;> simp
    rw [hinside, Define.inject?_eq_none_iff, hplain]
    simp only [Ending.ok.injEq, exists_eq_left', String.toList_ofList]
    rfl

/-- There is a result unless preprocessing panics. -/
theorem exists_result_iff {defines : List Define} {source : String} {path : Path} :
    (∃ result, (preprocess r limit defines source path).value.result? = some result) ↔
      ¬ (defines ≠ [] ∧ ∃ plain, (preprocess r limit [] source path).value = .ok plain ∧
        Define.PlaceInside plain.code.toList) := by
  rw [← preprocess_panics_iff]
  cases (preprocess r limit defines source path).value <;> simp [Ending.result?]

/-- Expansion ends whatever the includes are answered with. No turns go on for ever, and those of a
source text lead to how preprocessing ends. This is with a code or an error, but for defines whose
counted place is inside a character. On the way no file is open twice, the open files are one more
than the depth and at most one more than the limit, and what asks to be expanded once is not
expanded again. -/
theorem expansion_terminates (r : Resolver) (limit : Nat) (source : String) (path : Path) :
    (WellFounded fun s' s : Snapshot => s.next r limit = some s') ∧
      (∀ defines, ∃ s, Leads r limit (start r source path) s ∧
        s.Yields r limit defines (preprocess r limit defines source path).value) ∧
      (∀ defines, (∃ result, (preprocess r limit defines source path).value.result? = some result) ↔
        ¬ (defines ≠ [] ∧ ∃ plain, (preprocess r limit [] source path).value = .ok plain ∧
          Define.PlaceInside plain.code.toList)) ∧
      ∀ s, Leads r limit (start r source path) s → s.Regular limit ∧
        ∀ t outer, s.levels = t :: outer → s.At r limit source path t outer outer.length := by
  refine ⟨next_wellFounded r limit, fun defines => exists_yields r limit defines source path,
    fun defines => exists_result_iff, fun s hleads => ?_⟩
  have hregular : s.Regular limit :=
    hleads.invariant (fun _ _ hs hstep => hs.step hstep) (regular_start source path)
  exact ⟨hregular, fun t outer hlevels => at_of_leads hleads hlevels⟩

/-- A define has its counted place inside the last character of the version line, for which there
is no result. -/
theorem preprocess_can_panic :
    (preprocess KeepsLines.noFiles 64 [("A", "1")] (KeepsLines.returned " // é")
        ⟨"m"⟩).value.result? = none ∧
      ¬ ∀ (r : Resolver) (limit : Nat) (defines : List Define) (source : String) (path : Path),
        ∃ result, (preprocess r limit defines source path).value.result? = some result := by
  have hpanics : (preprocess KeepsLines.noFiles 64 [("A", "1")] (KeepsLines.returned " // é")
      ⟨"m"⟩).value.result? = none := by decide +kernel
  refine ⟨hpanics, fun h => ?_⟩
  obtain ⟨result, hresult⟩ := h KeepsLines.noFiles 64 [("A", "1")]
    (KeepsLines.returned " // é") ⟨"m"⟩
  rw [hpanics] at hresult
  cases hresult

/-- Answers every identifier under its directory with an include of a longer one. -/
def lengthening : Finder :=
  ⟨[], [⟨"g", ⟨"g", fun name => return some ⟨⟨name⟩, "#include <" ++ name ++ "a>\n"⟩⟩⟩], false⟩

example :
    (match (preprocess (lengthening.resolver MemoryFiles.empty.files) 2 [] "#include <g/a>\n"
      ⟨"m"⟩).value with
    | .error e => decide (e = .tooDeep "g/aaa" ⟨"g/aa"⟩ 1 2)
    | _ => false) = true := by decide +kernel

end Snapshot

end ShaderBuild
