import Mathlib.Data.List.Basic
import ShaderBuild.Source.Directive

/-!
Texts as lines. A newline ends a line, together with a carriage return right before it. Main
statements: `lines_terminated`, by which lines that are each ended by a newline are read back up to
their carriage returns, and `isPlainText_dropReturn`, by which such a carriage return has no say in
what a line asks for.
-/

namespace ShaderBuild

/-! ## Texts of whole lines -/

namespace Text

/-- Lines with a newline behind each. -/
def terminated (lines : List (List Char)) : List Char := lines.flatMap (· ++ ['\n'])

@[simp] theorem terminated_nil : terminated [] = [] := rfl

@[simp] theorem terminated_cons (line : List Char) (rest : List (List Char)) :
    terminated (line :: rest) = line ++ '\n' :: terminated rest := by
  simp [terminated]

@[simp] theorem terminated_append (ls ms : List (List Char)) :
    terminated (ls ++ ms) = terminated ls ++ terminated ms := by
  simp [terminated]

theorem terminated_eq_join {ls : List (List Char)} (hne : ls ≠ []) :
    terminated ls = join '\n' ls ++ ['\n'] := by
  induction ls with
  | nil => exact absurd rfl hne
  | cons line rest ih =>
    cases rest with
    | nil => simp [join]
    | cons next rest => simp [ih (by simp), join]

theorem splitOn_terminated_append {ls : List (List Char)} {last : List Char}
    (h : ∀ line ∈ ls, '\n' ∉ line) (hlast : '\n' ∉ last) :
    splitOn '\n' (terminated ls ++ last) = ls ++ [last] := by
  induction ls with
  | nil => exact splitOn_of_not_mem hlast
  | cons line rest ih =>
    obtain ⟨hline, hrest⟩ := List.forall_mem_cons.1 h
    rw [terminated_cons, List.append_assoc, List.cons_append, splitOn_append,
      splitOn_of_not_mem hline, ih hrest]
    rfl

theorem splitOn_terminated {ls : List (List Char)} (h : ∀ line ∈ ls, '\n' ∉ line) :
    splitOn '\n' (terminated ls) = ls ++ [[]] := by
  simpa using splitOn_terminated_append h List.not_mem_nil

theorem terminated_injective {ls ms : List (List Char)} (hls : ∀ line ∈ ls, '\n' ∉ line)
    (hms : ∀ line ∈ ms, '\n' ∉ line) (h : terminated ls = terminated ms) : ls = ms := by
  have hsplit := congrArg (splitOn '\n') h
  rw [splitOn_terminated hls, splitOn_terminated hms] at hsplit
  exact List.append_cancel_right hsplit

theorem getLast?_terminated {ls : List (List Char)} (hne : ls ≠ []) :
    (terminated ls).getLast? = some '\n' := by
  simp [terminated_eq_join hne]

theorem join_concat (ls : List (List Char)) (last : List Char) :
    join '\n' (ls ++ [last]) = terminated ls ++ last := by
  induction ls with
  | nil => rfl
  | cons line rest ih =>
    cases rest with
    | nil => simp [join]
    | cons next rest => simpa [join] using ih

/-- A text is its whole lines and what stands behind them. -/
theorem exists_terminated_append (cs : List Char) :
    ∃ ls last, (∀ line ∈ ls, '\n' ∉ line) ∧ '\n' ∉ last ∧ cs = terminated ls ++ last := by
  obtain ⟨ls, last, hpieces⟩ :=
    (List.eq_nil_or_concat' (splitOn '\n' cs)).resolve_left (splitOn_ne_nil '\n' cs)
  have hmem : ∀ piece ∈ ls ++ [last], '\n' ∉ piece := by
    rw [← hpieces]
    exact fun piece hpiece => not_mem_of_mem_splitOn hpiece
  refine ⟨ls, last, fun line hline => hmem line (List.mem_append_left _ hline),
    hmem last (by simp), ?_⟩
  rw [← join_splitOn '\n' cs, hpieces, join_concat]

/-- A text with a newline at its end is made of whole lines. -/
theorem exists_terminated {cs : List Char} (h : cs.getLast? = some '\n') :
    ∃ ls, ls ≠ [] ∧ (∀ line ∈ ls, '\n' ∉ line) ∧ cs = terminated ls := by
  obtain ⟨before, rfl⟩ := List.getLast?_eq_some_iff.1 h
  have hne := splitOn_ne_nil '\n' before
  refine ⟨splitOn '\n' before, hne, fun line hline => not_mem_of_mem_splitOn hline, ?_⟩
  rw [terminated_eq_join hne, join_splitOn]

theorem newline_not_mem_lines {cs line : List Char} (h : line ∈ lines cs) : '\n' ∉ line := by
  rw [lines] at h
  rcases List.mem_append.1 h with h | h
  · obtain ⟨piece, hpiece, rfl⟩ := List.mem_map.1 h
    have hnot := not_mem_of_mem_splitOn (List.dropLast_subset _ hpiece)
    rw [dropReturn]
    split
    · rename_i rest hrest
      intro hmem
      apply hnot
      rw [← List.mem_reverse, hrest]
      exact .tail _ (List.mem_reverse.1 hmem)
    · exact hnot
  · split at h
    · simp at h
    · obtain rfl := List.mem_singleton.1 h
      have hlast : (splitOn '\n' cs).getLastD [] ∈ splitOn '\n' cs := by
        rw [List.getLastD_eq_getLast?, List.getLast?_eq_some_getLast (splitOn_ne_nil '\n' cs)]
        exact List.getLast_mem _
      exact not_mem_of_mem_splitOn hlast

/-! ## Carriage returns -/

@[simp] theorem dropReturn_concat (line : List Char) : dropReturn (line ++ ['\r']) = line := by
  simp [dropReturn]

theorem dropReturn_of_getLast?_ne {line : List Char} (h : line.getLast? ≠ some '\r') :
    dropReturn line = line := by
  rw [dropReturn]
  split
  · rename_i rest hrest
    rw [List.getLast?_eq_head?_reverse, hrest] at h
    exact absurd rfl h
  · rfl

theorem eq_dropReturn_or (line : List Char) :
    line = dropReturn line ∨ line = dropReturn line ++ ['\r'] := by
  by_cases h : line.getLast? = some '\r'
  · obtain ⟨before, rfl⟩ := List.getLast?_eq_some_iff.1 h
    right
    rw [dropReturn_concat]
  · left
    rw [dropReturn_of_getLast?_ne h]

theorem lines_terminated_append {ls : List (List Char)} {last : List Char}
    (h : ∀ line ∈ ls, '\n' ∉ line) (hlast : '\n' ∉ last) :
    lines (terminated ls ++ last) = ls.map dropReturn ++ if last = [] then [] else [last] := by
  simp [lines, splitOn_terminated_append h hlast]

theorem lines_terminated {ls : List (List Char)} (h : ∀ line ∈ ls, '\n' ∉ line) :
    lines (terminated ls) = ls.map dropReturn := by
  simpa using lines_terminated_append h List.not_mem_nil

theorem lines_eq_nil_iff {cs : List Char} : lines cs = [] ↔ cs = [] := by
  obtain ⟨ls, last, hls, hlast, rfl⟩ := exists_terminated_append cs
  rw [lines_terminated_append hls hlast, List.append_eq_nil_iff, List.append_eq_nil_iff,
    List.map_eq_nil_iff]
  apply and_congr
  · cases ls <;> simp
  · split <;> simp [*]

/-! ## Blanks before a carriage return -/

/-- A text with a carriage return behind it, which is dropped as a blank where the text is empty. -/
def withReturn (cs : List Char) : List Char := if cs = [] then [] else cs ++ ['\r']

theorem trimStart_concat_return (cs : List Char) :
    trimStart (cs ++ ['\r']) = withReturn (trimStart cs) := by
  have hreturn : ['\r'].dropWhile isBlank = [] := by decide
  rw [withReturn, trimStart, List.dropWhile_append, hreturn]
  cases h : List.dropWhile isBlank cs <;> simp [trimStart, h]

theorem trimEnd_withReturn (cs : List Char) : trimEnd (withReturn cs) = trimEnd cs := by
  have hreturn : isBlank '\r' = true := by decide
  unfold withReturn
  split
  · rename_i hnil
    rw [hnil]
  · simp [trimEnd, hreturn]

theorem trim_concat_return (cs : List Char) : trim (cs ++ ['\r']) = trim cs := by
  rw [trim, trim, trimStart_concat_return, trimEnd_withReturn]

section Word

variable {word : List Char} (hword : '\r' ∉ word)

include hword

theorem isPrefixOf_withReturn (cs : List Char) :
    word.isPrefixOf (withReturn cs) = word.isPrefixOf cs := by
  have hlonger : word ≠ cs ++ ['\r'] := by
    rintro rfl
    simp at hword
  unfold withReturn
  split
  · rename_i hnil
    rw [hnil]
  · rw [Bool.eq_iff_iff, List.isPrefixOf_iff_prefix, List.isPrefixOf_iff_prefix,
      List.prefix_concat_iff, or_iff_right hlonger]

theorem dropPrefix?_withReturn (hne : word ≠ []) (cs : List Char) :
    dropPrefix? word (withReturn cs) = (dropPrefix? word cs).map (· ++ ['\r']) := by
  unfold dropPrefix?
  rw [isPrefixOf_withReturn hword]
  split
  · rename_i hprefix
    obtain ⟨rest, rfl⟩ := List.isPrefixOf_iff_prefix.1 hprefix
    have hcs : word ++ rest ≠ [] := by simp [hne]
    simp [withReturn, hcs]
  · rfl

end Word

end Text

/-! ## Directives before a carriage return -/

theorem directiveBody?_concat_return (line : List Char) :
    directiveBody? (line ++ ['\r']) = (directiveBody? line).map Text.withReturn := by
  rw [directiveBody?, directiveBody?, Text.trimStart_concat_return]
  cases Text.trimStart line with
  | nil => rfl
  | cons c rest =>
    by_cases hc : c = '#'
    · subst hc
      simp [Text.withReturn, Text.trimStart_concat_return]
    · simp [Text.withReturn, hc]

/-- What stands behind the word of a directive has the carriage return at its end. -/
theorem directiveRest_concat_return {word : List Char} (hword : '\r' ∉ word) (hne : word ≠ [])
    (line : List Char) :
    (directiveBody? (line ++ ['\r'])).bind (Text.dropPrefix? word) =
      ((directiveBody? line).bind (Text.dropPrefix? word)).map (· ++ ['\r']) := by
  rw [directiveBody?_concat_return]
  cases directiveBody? line with
  | none => rfl
  | some body => exact Text.dropPrefix?_withReturn hword hne body

/-- A carriage return at the end of a line does not make it a version line. -/
theorem isVersion_concat_return (line : List Char) :
    isVersion (line ++ ['\r']) = isVersion line := by
  rw [isVersion, isVersion, directiveBody?_concat_return]
  cases directiveBody? line with
  | none => rfl
  | some body => exact Text.isPrefixOf_withReturn (by decide) body

theorem isVersion_dropReturn (line : List Char) :
    isVersion (Text.dropReturn line) = isVersion line := by
  rcases Text.eq_dropReturn_or line with h | h
  · rw [← h]
  · rw [h, isVersion_concat_return, Text.dropReturn_concat]

theorem isPragmaOnce_concat_return (line : List Char) :
    isPragmaOnce (line ++ ['\r']) = isPragmaOnce line := by
  unfold isPragmaOnce
  rw [directiveRest_concat_return (by decide) (by decide)]
  cases (directiveBody? line).bind (Text.dropPrefix? "pragma".toList) with
  | none => rfl
  | some rest => simp only [Option.map_some, Text.trim_concat_return]

namespace IncludeLine

theorem ofOperand_ne_other (kind : IncludeKind) (operand : List Char) :
    ofOperand kind operand ≠ .other := by
  unfold ofOperand
  split
  · exact nofun
  · exact nofun

/-- A line is no include exactly if it lacks the word or continues it. -/
theorem ofLine_eq_other_iff {line : List Char} : ofLine line = .other ↔
    ∀ rest, (directiveBody? line).bind (Text.dropPrefix? "include".toList) = some rest →
      endsWord rest = false := by
  unfold ofLine
  cases (directiveBody? line).bind (Text.dropPrefix? "include".toList) with
  | none => simp
  | some rest =>
    cases hends : endsWord rest with
    | false => simp [hends]
    | true =>
      simp only [if_true, Option.some.injEq, forall_eq', hends, Bool.true_eq_false, iff_false]
      split
      · exact ofOperand_ne_other _ _
      · exact ofOperand_ne_other _ _
      · exact nofun

theorem endsWord_concat_return (rest : List Char) : endsWord (rest ++ ['\r']) = endsWord rest := by
  cases rest with
  | nil => decide
  | cons c rest => rfl

theorem ofLine_concat_return {line : List Char} :
    ofLine (line ++ ['\r']) = .other ↔ ofLine line = .other := by
  rw [ofLine_eq_other_iff, ofLine_eq_other_iff, directiveRest_concat_return (by decide) (by decide)]
  cases (directiveBody? line).bind (Text.dropPrefix? "include".toList) with
  | none => simp
  | some rest => simp [endsWord_concat_return]

end IncludeLine

/-- The line is copied as it stands: it is no include and no `#pragma once`. -/
def IsPlainText (line : List Char) : Prop :=
  IncludeLine.ofLine line = .other ∧ isPragmaOnce line = false

theorem isPlainText_dropReturn {line : List Char} :
    IsPlainText (Text.dropReturn line) ↔ IsPlainText line := by
  rcases Text.eq_dropReturn_or line with h | h
  · rw [← h]
  · rw [h, Text.dropReturn_concat, IsPlainText, IsPlainText, IncludeLine.ofLine_concat_return,
      isPragmaOnce_concat_return]

end ShaderBuild
