import ShaderBuild.Proofs.EscapedText
import ShaderBuild.Proofs.Matching
import ShaderBuild.Include.Builtin

/-!
The patterns of the virtual texturing headers as texts. Main statement: `compile?_numbersText`, by
which the text of each, in which the name of the file is escaped and every number is a class of
digits, is compiled to a pattern that accepts the same names.
-/

namespace ShaderBuild

namespace Regex

/-! ## Equal expressions -/

mutual

theorem eq_of_same {r s : Regex} (h : same r s = true) : r = s := by
  cases r <;> cases s <;> simp only [same, Bool.and_eq_true, beq_iff_eq, Bool.false_eq_true] at h
  case empty.empty => rfl
  case literal.literal => rw [h]
  case set.set => rw [h.1, h.2]
  case anchor.anchor => rw [h]
  case group.group => rw [h.1, eq_of_same h.2]
  case seq.seq => rw [eq_of_sameAll h]
  case either.either => rw [eq_of_sameAll h]
  case times.times =>
    obtain ⟨⟨⟨hleast, hmost⟩, hgreedy⟩, hsame⟩ := h
    rw [hleast, hmost, hgreedy, eq_of_same hsame]

theorem eq_of_sameAll {rs ss : List Regex} (h : sameAll rs ss = true) : rs = ss := by
  cases rs <;> cases ss <;> simp only [sameAll, Bool.and_eq_true, Bool.false_eq_true] at h
  case nil.nil => rfl
  case cons.cons => rw [eq_of_same h.1, eq_of_sameAll h.2]

end

/-! ## Expressions with the same matches -/

section Spans

variable {text : Array Char} {i k : Nat}

theorem spans_seq {rs : List Regex} : Spans text (seq rs) i k ↔ SpansAll text rs i k := Iff.rfl

theorem spansAll_append {rs ss : List Regex} :
    SpansAll text (rs ++ ss) i k ↔ ∃ j, SpansAll text rs i j ∧ SpansAll text ss j k := by
  induction rs generalizing i with
  | nil => simp [SpansAll]
  | cons r rs ih =>
    simp only [List.cons_append, SpansAll, ih]
    grind

theorem spans_literal_append {cs ds : List Char} :
    Spans text (literal (cs ++ ds)) i k ↔
      ∃ j, Spans text (literal cs) i j ∧ Spans text (literal ds) j k := by
  simp only [Spans, List.length_append]
  constructor
  · rintro ⟨⟨rest, hrest⟩, rfl⟩
    have hthen : ds <+: text.toList.drop (i + cs.length) := by
      rw [← List.drop_drop, ← hrest, List.append_assoc, List.drop_left]
      exact List.prefix_append _ _
    exact ⟨_, ⟨⟨ds ++ rest, by rw [← hrest, List.append_assoc]⟩, rfl⟩, hthen,
      (Nat.add_assoc _ _ _).symm⟩
  · rintro ⟨_, ⟨⟨rest, hrest⟩, rfl⟩, hthen, rfl⟩
    rw [← List.drop_drop, ← hrest, List.drop_left] at hthen
    obtain ⟨more, rfl⟩ := hthen
    exact ⟨⟨more, by rw [← hrest, List.append_assoc]⟩, Nat.add_assoc _ _ _⟩

theorem spansAll_literal_append {cs ds : List Char} {rs : List Regex} :
    SpansAll text (literal (cs ++ ds) :: rs) i k ↔
      SpansAll text (literal cs :: literal ds :: rs) i k := by
  simp only [SpansAll, spans_literal_append]
  grind

/-- A sequence between two expressions is no group of its own. -/
theorem spans_seq_between {first last : Regex} {rs : List Regex} :
    Spans text (seq (first :: (rs ++ [last]))) i k ↔
      Spans text (seq [first, seq rs, last]) i k := by
  simp only [spans_seq, SpansAll, spansAll_append]

end Spans

end Regex

open Regex

namespace Builtin

/-- The text of a pattern for `file` below the virtual texturing directory, followed by `count`
numbers. -/
def numbersText (file : String) (count : Nat) : String :=
  String.ofList (escape (texturingHome ++ "/" ++ file).toList) ++
    String.join (List.replicate count "/[0-9]+")

/-- The expression that such a text is read as. The first slash is part of the literal before it. -/
def numbersRead (file : String) (count : Nat) : Regex :=
  .seq (.anchor .textStart :: .literal ((texturingHome ++ "/" ++ file).toList ++ ['/']) :: digits ::
    ((List.replicate count [.literal ['/'], digits]).flatten ++ [.anchor .textEnd]))

theorem accepts_numbersRead (file : String) (count : Nat) (name : String) :
    (Pattern.mk (numbersRead file count)).accepts name =
      (Pattern.whole (numbersPattern file (count + 1))).accepts name := by
  have hnumbers :
    ∀ i k,
      Spans name.toList.toArray (.seq (.literal ((texturingHome ++ "/" ++ file).toList ++ ['/']) ::
        digits :: (List.replicate count [.literal ['/'], digits]).flatten)) i k ↔
          Spans name.toList.toArray (numbersPattern file (count + 1)) i k :=
            fun i k => spansAll_literal_append
  have hspans : ∀ i k, Spans name.toList.toArray (numbersRead file count) i k ↔
      Spans name.toList.toArray (Pattern.whole (numbersPattern file (count + 1))).regex i k := by
    intro i k
    rw [numbersRead, ← List.cons_append, ← List.cons_append, spans_seq_between]
    constructor
    · rintro ⟨start, hstart, stop, hmiddle, hstop⟩
      exact ⟨start, hstart, stop, (hnumbers start stop).1 hmiddle, hstop⟩
    · rintro ⟨start, hstart, stop, hmiddle, hstop⟩
      exact ⟨start, hstart, stop, (hnumbers start stop).2 hmiddle, hstop⟩
  rw [Bool.eq_iff_iff, Pattern.accepts_iff, Pattern.accepts_iff]
  simp only [hspans]

variable {properties : Text.Properties}

theorem compile?_of_read {file : String} {count : Nat}
    (h : (ofText? properties
      ("^(?:".toList ++ (numbersText file (count + 1)).toList ++ ")$".toList)).any
        (same (numbersRead file count)) = true) :
    ∃ p, Pattern.compile? properties (numbersText file (count + 1)) = some p ∧
      ∀ name, p.accepts name = (Pattern.whole (numbersPattern file (count + 1))).accepts name := by
  obtain ⟨r, hr, hsame⟩ := (Option.any_eq_true _ _).1 h
  obtain rfl := eq_of_same hsame
  refine ⟨⟨numbersRead file count⟩, ?_, accepts_numbersRead file count⟩
  rw [Pattern.compile?, hr]
  rfl

set_option maxRecDepth 4000 in
theorem compile?_numbersText : ∀ numbers ∈ [("descriptors.glsl", 3), ("extensions.glsl", 2)],
    ∃ p, Pattern.compile? properties (numbersText numbers.1 numbers.2) = some p ∧
      ∀ name, p.accepts name =
        (Pattern.whole (numbersPattern numbers.1 numbers.2)).accepts name := by
  intro numbers hnumbers
  rcases List.mem_pair.1 hnumbers with rfl | rfl
  · exact compile?_of_read (by with_unfolding_all rfl)
  · exact compile?_of_read (by with_unfolding_all rfl)

end Builtin

end ShaderBuild
