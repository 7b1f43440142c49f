import ShaderBuild.Proofs.DirectiveGrammar
import ShaderBuild.Proofs.FinishedRun
import ShaderBuild.Proofs.Provenance
import ShaderBuild.Text.Alphanumeric

/-!
What the word of a directive decides. A line whose word is neither `include` nor `pragma` is copied,
and a text without a line of the word `pragma` is expanded whenever it is included, with one
exception: a `pragma` and a `once` that are run together into one word count as a `#pragma once`.
Main statement: `words_decide`. The exception can be seen from outside (`run_together_counts`).
-/

namespace ShaderBuild

/-! ## Words -/

namespace Text

/-- Letters, digits and the underscore. -/
def isWordCharacter (c : Char) : Bool := isAlphanumeric c || c == '_'

/-- The code points of the blanks. -/
def blankCodes : List Nat :=
  List.range' 9 5 ++ [0x20, 0x85, 0xA0, 0x1680] ++ List.range' 0x2000 11 ++
    [0x2028, 0x2029, 0x202F, 0x205F, 0x3000]

theorem mem_blankCodes {c : Char} (h : isBlank c = true) : c.toNat ∈ blankCodes := by
  simp only [isBlank, Bool.or_eq_true, Bool.and_eq_true, decide_eq_true_eq, beq_iff_eq] at h
  simp only [blankCodes, List.mem_append, List.mem_range'_1, List.mem_cons,
    List.not_mem_nil, or_false]
  omega

theorem not_isWordCharacter_of_isBlank {c : Char} (h : isBlank c = true) :
    isWordCharacter c = false := by
  have hcodes : ∀ n ∈ blankCodes, (alphabetics.containsCode n || numerics.containsCode n) =
      false := by
    decide +kernel
  have hunderscore : c ≠ '_' := by
    rintro rfl
    exact absurd h (by decide)
  rw [isWordCharacter, beq_eq_false_iff_ne.2 hunderscore, Bool.or_false]
  exact hcodes c.toNat (mem_blankCodes h)

theorem not_isBlank_of_isWordCharacter {c : Char} (h : isWordCharacter c = true) :
    isBlank c = false := by
  by_contra hblank
  rw [not_isWordCharacter_of_isBlank (eq_true_of_ne_false hblank)] at h
  cases h

theorem exists_of_trimEnd (cs : List Char) :
    ∃ space, cs = trimEnd cs ++ space ∧ ∀ c ∈ space, isBlank c = true := by
  obtain ⟨space, hspace, hblank⟩ := exists_of_trimStart cs.reverse
  refine ⟨space.reverse, ?_, fun c hc => hblank c (List.mem_reverse.1 hc)⟩
  rw [trimEnd, ← List.reverse_append, ← trimStart, ← hspace, List.reverse_reverse]

theorem trimEnd_append {cs space : List Char} (hspace : ∀ c ∈ space, isBlank c = true)
    (hcs : ∀ c, cs.getLast? = some c → isBlank c = false) : trimEnd (cs ++ space) = cs := by
  have htrim : trimStart (space.reverse ++ cs.reverse) = cs.reverse :=
    trimStart_append (fun c hc => hspace c (List.mem_reverse.1 hc)) (by simpa using hcs)
  rw [trimEnd, List.reverse_append, ← trimStart, htrim, List.reverse_reverse]

/-- Trimming leaves a word exactly if nothing but blanks stands around it. -/
theorem trim_eq_iff {word cs : List Char} (hne : word ≠ [])
    (hword : ∀ c ∈ word, isBlank c = false) :
    trim cs = word ↔ ∃ front behind, cs = front ++ (word ++ behind) ∧ (∀ c ∈ front,
      isBlank c = true) ∧ ∀ c ∈ behind, isBlank c = true := by
  constructor
  · rintro rfl
    obtain ⟨front, hfront, hblank⟩ := exists_of_trimStart cs
    obtain ⟨behind, hbehind, hblank'⟩ := exists_of_trimEnd (trimStart cs)
    refine ⟨front, behind, ?_, hblank, hblank'⟩
    rw [trim, ← hbehind]
    exact hfront
  · rintro ⟨front, behind, rfl, hfront, hbehind⟩
    have hhead : ∀ c, (word ++ behind).head? = some c → isBlank c = false := by
      intro c hc
      rw [List.head?_append_of_ne_nil word hne] at hc
      exact hword c (List.mem_of_head? hc)
    rw [trim, trimStart_append hfront hhead, trimEnd_append hbehind fun c hc =>
      hword c (List.mem_of_getLast? hc)]

end Text

/-- The word of a directive: the letters, digits and underscores right behind the number sign and
its blanks. Other lines have none. -/
def directiveWord? (line : List Char) : Option (List Char) :=
  (directiveBody? line).map (·.takeWhile Text.isWordCharacter)

section Word

variable {word line rest : List Char} (hword : ∀ c ∈ word, Text.isWordCharacter c = true)

include hword

theorem takeWhile_word (hrest : ∀ c, rest.head? = some c → Text.isWordCharacter c = false) :
    (word ++ rest).takeWhile Text.isWordCharacter = word := by
  rw [List.takeWhile_append_of_pos hword]
  cases rest with
  | nil => simp
  | cons c rest => simp [hrest c rfl]

/-- A word that ends where it stands in the line is the word of the directive. -/
theorem IsDirective.directiveWord?_eq (h : IsDirective word line rest) (hne : word ≠ [])
    (hrest : ∀ c, rest.head? = some c → Text.isWordCharacter c = false) :
    directiveWord? line = some word := by
  obtain ⟨indent, gap, rfl, hblank⟩ := h
  have hbody : ∀ c, (word ++ rest).head? = some c → Text.isBlank c = false := by
    intro c hc
    rw [List.head?_append_of_ne_nil word hne] at hc
    exact Text.not_isBlank_of_isWordCharacter (hword c (List.mem_of_head? hc))
  rw [directiveWord?, directiveBody?_of_blanks hblank hbody, Option.map_some,
    takeWhile_word hword hrest]

end Word

/-! ## Includes and pragmas -/

/-- A line of another word is no include. -/
theorem ofLine_eq_other_of_word {line : List Char}
    (h : directiveWord? line ≠ some "include".toList) :
    IncludeLine.ofLine line = .other := by
  by_contra hother
  obtain ⟨rest, hline, hends⟩ :=
    IncludeLine.namesInclude_iff.1 (IncludeLine.ofLine_ne_other_iff.1 hother)
  apply h
  apply hline.directiveWord?_eq (List.all_eq_true.1 (by decide +kernel)) (by decide)
  intro c hc
  obtain ⟨more, rfl⟩ := List.head?_eq_some_iff.1 hc
  rcases IncludeLine.endsWord_cons.1 hends with hblank | rfl | rfl
  · exact Text.not_isWordCharacter_of_isBlank hblank
  · decide +kernel
  · decide +kernel

theorem isPragmaOnce_iff {line : List Char} : isPragmaOnce line = true ↔
    ∃ front behind, IsDirective "pragma".toList line (front ++ ("once".toList ++ behind)) ∧
      (∀ c ∈ front, Text.isBlank c = true) ∧ ∀ c ∈ behind, Text.isBlank c = true := by
  have htrim : ∀ rest, (Text.trim rest == "once".toList) = true ↔
      ∃ front behind, rest = front ++ ("once".toList ++ behind) ∧
        (∀ c ∈ front, Text.isBlank c = true) ∧ ∀ c ∈ behind, Text.isBlank c = true := fun rest => by
    rw [beq_iff_eq]
    exact Text.trim_eq_iff (by decide) fun c hc =>
      Bool.eq_false_iff.2 (List.any_eq_false.1 (by decide) c hc)
  constructor
  · intro h
    rw [isPragmaOnce] at h
    split at h
    · rename_i rest hrest
      obtain ⟨front, behind, rfl, hfront, hbehind⟩ := (htrim rest).1 h
      exact ⟨front, behind, (directiveRest_iff (by decide)).1 hrest, hfront, hbehind⟩
    · cases h
  · rintro ⟨front, behind, hline, hfront, hbehind⟩
    rw [isPragmaOnce, (directiveRest_iff (by decide)).2 hline]
    exact (htrim _).2 ⟨front, behind, rfl, hfront, hbehind⟩

/-- The words `pragma` and `once` of a line are run together into one, with nothing but blanks
behind. -/
def RunsTogether (line : List Char) : Prop :=
  ∃ behind, IsDirective "pragmaonce".toList line behind ∧ ∀ c ∈ behind, Text.isBlank c = true

theorem isDirective_pragma_once {line behind : List Char} :
    IsDirective "pragma".toList line ("once".toList ++ behind) ↔
      IsDirective "pragmaonce".toList line behind := Iff.rfl

theorem isPragmaOnce_of_runsTogether {line : List Char} (h : RunsTogether line) :
    isPragmaOnce line = true := by
  obtain ⟨behind, hline, hbehind⟩ := h
  exact isPragmaOnce_iff.2 ⟨[], behind, isDirective_pragma_once.2 hline, nofun, hbehind⟩

/-- Only a line of the word `pragma`, or one in which it is run together with its operand, is a
`#pragma once`. -/
theorem word_or_runsTogether {line : List Char} (h : isPragmaOnce line = true) :
    directiveWord? line = some "pragma".toList ∨ RunsTogether line := by
  obtain ⟨front, behind, hline, hfront, hbehind⟩ := isPragmaOnce_iff.1 h
  cases front with
  | nil => exact .inr ⟨behind, isDirective_pragma_once.1 hline, hbehind⟩
  | cons c front =>
    left
    apply hline.directiveWord?_eq (List.all_eq_true.1 (by decide +kernel)) (by decide)
    intro d hd
    obtain rfl : c = d := Option.some.inj hd
    exact Text.not_isWordCharacter_of_isBlank (hfront c List.mem_cons_self)

/-- A line whose word is neither that of an include nor that of a pragma. Lines that are no
directives are foreign. -/
def IsForeign (line : List Char) : Prop :=
  directiveWord? line ≠ some "include".toList ∧ directiveWord? line ≠ some "pragma".toList

theorem RunsTogether.isForeign {line : List Char} (h : RunsTogether line) : IsForeign line := by
  obtain ⟨behind, hline, hbehind⟩ := h
  have hword : directiveWord? line = some "pragmaonce".toList := by
    apply hline.directiveWord?_eq (List.all_eq_true.1 (by decide +kernel)) (by decide)
    intro c hc
    exact Text.not_isWordCharacter_of_isBlank (hbehind c (List.mem_of_head? hc))
  rw [IsForeign, hword]
  decide

theorem IsForeign.isPragmaOnce_iff {line : List Char} (h : IsForeign line) :
    isPragmaOnce line = true ↔ RunsTogether line :=
  ⟨fun honce => (word_or_runsTogether honce).resolve_left h.2, isPragmaOnce_of_runsTogether⟩

/-! ## Moments of a run -/

namespace Snapshot

variable {r : Resolver} {limit : Nat} {s f : Snapshot} {t : OpenText} {outer : List OpenText}

theorem next_of_foreign {line : List Char} {rest : List (List Char)}
    (hlevels : s.levels = t :: outer) (hrest : t.rest = line :: rest) (hline : IsForeign line)
    (happart : ¬ RunsTogether line) :
    s.next r limit = some (s.pass t outer [line] []) := by
  have hplain : isPragmaOnce line = false :=
    eq_false_of_ne_true (happart ∘ hline.isPragmaOnce_iff.1)
  rw [next_eq hlevels (.copy hrest (ofLine_eq_other_of_word hline.1) hplain), after]

theorem next_of_runsTogether {line : List Char} {rest : List (List Char)}
    (hlevels : s.levels = t :: outer) (hrest : t.rest = line :: rest) (hline : RunsTogether line) :
    s.next r limit = some (s.pass t outer [] []) := by
  have hother := ofLine_eq_other_of_word hline.isForeign.1
  rw [next_eq hlevels (.drop hrest hother (isPragmaOnce_of_runsTogether hline)), after]

/-- No text of the path was begun that has a line of the word `pragma`, or one in which it is run
together with its operand. -/
def FreeOfPragmas (s : Snapshot) (p : Path) : Prop :=
  ∀ u ∈ s.begun, p.same u.path = true → ∀ line ∈ Text.lines u.contents.toList,
    directiveWord? line ≠ some "pragma".toList ∧ ¬ RunsTogether line

theorem FreeOfPragmas.new {p : Path} (h : s.FreeOfPragmas p) (hkept : s.Kept) :
    p.mem s.sofar.once = false := by
  apply eq_false_of_ne_true
  intro hseen
  obtain ⟨_, hq, hsame⟩ := List.any_eq_true.1 hseen
  obtain ⟨u, hu, rfl, honce⟩ := hkept _ hq
  obtain ⟨line, hline, hpragma⟩ := List.any_eq_true.1 honce
  obtain ⟨hword, happart⟩ := h u hu hsame line hline
  exact (word_or_runsTogether hpragma).elim hword happart

/-- A run that finishes enters an include unless a text of its path has a pragma. -/
theorem next_of_meets (h : Leads r limit s f) (hf : f.levels = []) (hkept : s.Kept) {i : Inclusion}
    (hlevels : s.levels = t :: outer) (meets : t.Meets r i) (hplain : s.FreeOfPragmas i.text.path) :
    s.next r limit = some (s.begin t outer i) := by
  obtain ⟨s', hnext, _⟩ := h.exists_next hf hlevels
  have hgoes {e : PreprocessError} (hasks : t.Asks r limit s.stack s.sofar.once (.stop e)) :
      False := by
    rw [next_eq hlevels hasks, after] at hnext
    cases hnext
  have hfresh : i.text.path.mem s.stack = false :=
    eq_false_of_ne_true fun hopen => hgoes (.recursive meets hopen)
  have hnew : i.text.path.mem s.sofar.once = false := hplain.new hkept
  have hroom : s.stack.length ≤ limit :=
    Nat.not_lt.1 fun hfull => hgoes (.tooDeep meets hfresh hnew hfull)
  rw [next_eq hlevels (.enter meets hfresh hnew hroom), after]

end Snapshot

/-! ## Main statement -/

/-- The moments of a preprocessing. -/
def Resolver.Visits (r : Resolver) (limit : Nat) (source : String) (path : Path) (s : Snapshot) :
    Prop :=
  Snapshot.Leads r limit (.start r source path) s

/-- A preprocessing with the output `out` does what the words of the directives say. -/
structure GoesByWords (r : Resolver) (limit : Nat) (source : String) (path : Path)
    (out : Preprocessed) : Prop where
  /-- Every line of a text that is begun comes up. -/
  comes_up : ∀ s t outer before line rest, r.Visits limit source path s → s.levels = t :: outer →
    t.rest = before ++ line :: rest → ∃ s', r.Visits limit source path s' ∧
      s'.levels = t.behind before.length (line :: rest) :: outer
  /-- A line of another word is copied, to where the output has come to, unless it is run
  together. -/
  copied : ∀ s t outer line rest, r.Visits limit source path s → s.levels = t :: outer →
    t.rest = line :: rest → IsForeign line → ¬ RunsTogether line →
      s.next r limit = some (s.pass t outer [line] []) ∧ ∃ behind, out.code.toList =
        Text.terminated s.sofar.lines ++ (line ++ '\n' :: behind)
  /-- A line that is run together is dropped. -/
  dropped : ∀ s t outer line rest, r.Visits limit source path s → s.levels = t :: outer →
    t.rest = line :: rest → RunsTogether line → s.next r limit = some (s.pass t outer [] [])
  /-- Every recorded include is met. -/
  met : ∀ place d, out.dependencies[place]? = some d → ∃ s t outer i, r.Visits limit source path s ∧
    s.sofar.dependencies.length = place ∧ s.levels = t :: outer ∧ t.Meets r i ∧ i.dependency = d
  /-- An include is expanded whenever it is met, unless a text of its path has a pragma. -/
  expanded : ∀ s t outer i, r.Visits limit source path s → s.levels = t :: outer → t.Meets r i →
    s.FreeOfPragmas i.text.path → s.next r limit = some (s.begin t outer i)

/-- Every preprocessing without defines that succeeds goes by the words of the directives. -/
theorem words_decide (finder : Finder) (files : Files) (limit : Nat) (source : String) (path : Path)
    (out : Preprocessed)
    (hout : (preprocess (finder.resolver files) limit [] source path).value = .ok out) :
    GoesByWords (finder.resolver files) limit source path out := by
  generalize finder.resolver files = r at hout ⊢
  obtain ⟨f, hfinish, hf, hcode, hrecord⟩ := Snapshot.exists_finished_of_preprocess hout
  have hcode : Text.terminated f.sofar.lines = out.code.toList := Option.some.inj hcode
  have hend {s : Snapshot} (hs : r.Visits limit source path s) : Snapshot.Leads r limit s f :=
    hs.before_end hfinish hf
  constructor
  case comes_up =>
    intro s t outer before line rest hs hlevels hrest
    obtain ⟨s', hlater, _, hup⟩ := (hend hs).comes_up hf hlevels hrest
    exact ⟨s', hs.trans hlater, hup⟩
  case copied =>
    intro s t outer line rest hs hlevels hrest hforeign happart
    have hnext : s.next r limit = _ := Snapshot.next_of_foreign hlevels hrest hforeign happart
    refine ⟨hnext, ?_⟩
    obtain ⟨behind, hbehind⟩ := (hend (hs.tail hnext)).copied_stays
    have hlines : f.sofar.lines = s.sofar.lines ++ ([line] ++ behind) := by
      rw [← hbehind, ← List.append_assoc]
      rfl
    exact ⟨Text.terminated behind, by rw [← hcode, hlines]; simp⟩
  case dropped =>
    intro s t outer line rest _ hlevels hrest htogether
    exact Snapshot.next_of_runsTogether hlevels hrest htogether
  case met =>
    intro place d hd
    rw [← hrecord] at hd
    exact Snapshot.Leads.exists_meets hfinish rfl hd
  case expanded =>
    intro s t outer i hs hlevels meets hplain
    have hkept : s.Kept :=
      hs.invariant (fun _ _ hs hstep => hstep.kept hs) (Snapshot.kept_start r source path)
    exact Snapshot.next_of_meets (hend hs) hf hkept hlevels meets hplain

namespace GoesByWords

/-- A header with a `pragma` and a `once` that are run together. -/
def hasty : String := "#pragmaonce\nint h;\n"

def overHasty : Resolver := Finder.new.resolver (MemoryFiles.ofTexts [("h", hasty)]).files

def twice : String := "#include <h>\n#includes <h>\n # pragmas once\n#include \"h\"\n"

theorem words_decide_twice : ∃ out, (preprocess overHasty 1 [] twice ⟨"m"⟩).value = .ok out ∧
    out.code = "int h;\n#includes <h>\n # pragmas once\n" ∧
      GoesByWords overHasty 1 twice ⟨"m"⟩ out := by
  have hcode : (preprocess overHasty 1 [] twice ⟨"m"⟩).value.map Preprocessed.code =
      .ok "int h;\n#includes <h>\n # pragmas once\n" := by decide +kernel
  cases hvalue : (preprocess overHasty 1 [] twice ⟨"m"⟩).value with
  | panicked =>
    rw [hvalue] at hcode
    cases hcode
  | error e =>
    rw [hvalue] at hcode
    cases hcode
  | ok out =>
    rw [hvalue] at hcode
    exact ⟨out, rfl, Ending.ok.inj hcode, words_decide Finder.new _ 1 twice ⟨"m"⟩ out hvalue⟩

/-- All lines of the header are of other words, but one of them is not copied, and the header is
expanded once only though it is included twice. A file without any directive is left out for a
generated text of its path. -/
theorem run_together_counts :
    (∀ line ∈ Text.lines hasty.toList, IsForeign line) ∧
      (preprocess overHasty 64 [] "#include <h>\n#include <h>\n" ⟨"m"⟩).value.map
        Preprocessed.code = .ok "int h;\n" ∧ (∀ line ∈ Text.lines "file\n".toList, IsForeign line) ∧
      IncludeGraph.covering.memory.get? ⟨"g/x"⟩ = some (Bytes.ofText "file\n") ∧
      (IncludeGraph.covering.preprocess 64).map Preprocessed.code = .ok "generated\n" := by
  unfold IsForeign
  decide +kernel

end GoesByWords

end ShaderBuild
