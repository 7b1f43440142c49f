import ShaderBuild.Proofs.DefineLines

/-!
What an expansion leaves in a text. It copies lines that ask for nothing, and a text of such lines
expands to itself. Main statement: `expanded_text_is_inert`. The carriage returns are the one thing
that a second expansion can still change: a line of the first may end in one, and loses it when the
text is split again.
-/

namespace ShaderBuild

/-! ## Plain text -/

/-- An expansion copies plain text and nothing else. -/
theorem Expands.isPlainText {r : Resolver} {room : Nat} {f : Frame} {lines : List (List Char)}
    {once : List Path} {e : Expansion} (h : Expands r room f lines once e) :
    ∀ l ∈ e.lines, IsPlainText l :=
  h.forall_lines (fun _ _ _ other plain => ⟨other, plain⟩) fun _ _ other plain => ⟨other, plain⟩

/-- Plain text expands to itself, whatever includes would be resolved to. -/
theorem expands_of_isPlainText (r : Resolver) (room : Nat) (f : Frame) {lines : List (List Char)}
    (once : List Path) (h : ∀ l ∈ lines, IsPlainText l) :
    Expands r room f lines once ⟨lines, [], once⟩ := by
  induction lines with
  | nil => exact .nil
  | cons line rest ih =>
    obtain ⟨⟨other, plain⟩, hrest⟩ := List.forall_mem_cons.1 h
    exact .copy other plain (ih hrest)

/-- A source of plain text is preprocessed into its lines. -/
theorem preprocess_of_isPlainText (r : Resolver) (limit : Nat) (source : String) (path : Path)
    (h : ∀ l ∈ Text.lines source.toList, IsPlainText l) :
    (preprocess r limit [] source path).value =
      .ok ⟨String.ofList (Text.terminated (Text.lines source.toList)), []⟩ := by
  have hexpands :=
    expands_of_isPlainText r limit (r.frame path) (onceAfter (r.resolved path) source.toList []) h
  have hexpansion : r.expansion limit source path = .ok _ := expand_ok_iff.2 hexpands
  rw [preprocess_plain hexpansion]

/-! ## Carriage returns at the ends of lines -/

namespace Text

theorem infix_terminated {ls : List (List Char)} {line : List Char} (h : line ∈ ls) :
    line ++ ['\n'] <:+: terminated ls := by
  rw [terminated, List.flatMap_def]
  exact List.infix_of_mem_flatten (List.mem_map_of_mem h)

/-- Lines of a text in which no newline follows a carriage return lose nothing. -/
theorem map_dropReturn_of_not_infix {ls : List (List Char)}
    (h : ¬ ['\r', '\n'] <:+: terminated ls) :
    ls.map dropReturn = ls := by
  rw [List.map_congr_left, List.map_id']
  intro line hline
  apply dropReturn_of_getLast?_ne
  intro hreturn
  obtain ⟨before, rfl⟩ := List.getLast?_eq_some_iff.1 hreturn
  apply h
  have hend : ['\r', '\n'] <:+: (before ++ ['\r']) ++ ['\n'] := ⟨before, [], by simp⟩
  exact hend.trans (infix_terminated hline)

end Text

/-! ## Main statement -/

/-- No line of a text that was preprocessed without defines is an include, well-formed or malformed,
or a `#pragma once`. With any finder, files, limit and path, preprocessing it once more gives its
lines, each with a newline behind it and no include on the way, which is the same text if no newline
in it follows a carriage return. -/
theorem expanded_text_is_inert {finder : Finder} {files : Files} {limit : Nat}
    {source : String} {path : Path} {out : Preprocessed}
    (hout : (preprocess (finder.resolver files) limit [] source path).value = .ok out) :
    (∀ line ∈ Text.lines out.code.toList, IncludeLine.ofLine line = .other ∧
      isPragmaOnce line = false) ∧
        ∀ (finder' : Finder) (files' : Files) (limit' : Nat) (path' : Path),
          (preprocess (finder'.resolver files') limit' [] out.code path').value =
            .ok ⟨String.ofList (Text.terminated (Text.lines out.code.toList)), []⟩ ∧
              (¬ ['\r', '\n'] <:+: out.code.toList →
                (preprocess (finder'.resolver files') limit' [] out.code path').value =
                  .ok ⟨out.code, []⟩) := by
  obtain ⟨e, code, hexpansion, hinject, rfl⟩ := preprocess_ok_iff.1 hout
  obtain rfl : Text.terminated e.lines = code := Option.some.inj hinject
  have hplain : ∀ l ∈ e.lines, IsPlainText l := (expand_ok_iff.1 hexpansion).isPlainText
  have hlines : Text.lines (Text.terminated e.lines) = e.lines.map Text.dropReturn :=
    Text.lines_terminated (newline_not_mem_expansion hexpansion)
  have hinert : ∀ l ∈ Text.lines (Text.terminated e.lines), IsPlainText l := by
    rw [hlines]
    exact List.forall_mem_map.2 fun l hl => isPlainText_dropReturn.2 (hplain l hl)
  rw [String.toList_ofList]
  refine ⟨hinert, ?_⟩
  intro finder' files' limit' path'
  have hagain := preprocess_of_isPlainText (finder'.resolver files') limit'
    (String.ofList (Text.terminated e.lines))
    path' (by rwa [String.toList_ofList])
  rw [String.toList_ofList] at hagain
  refine ⟨hagain, ?_⟩
  intro hreturns
  rw [hagain, hlines, Text.map_dropReturn_of_not_infix hreturns]

namespace Inert

/-- A header that asks for itself only once, with a carriage return too many in its last line. -/
def guarded : MemoryFiles := .ofTexts [("h", "# pragma once \r\n #include2\nint x;\r\r\n")]

def overGuarded : Resolver := Finder.new.resolver guarded.files

/-- Asks for the header twice, the second time between wide blanks. -/
def twice : String := "#include <h>\n\u2003#\u2003include \"h\"\nint y;"

theorem expanded_text_is_inert_guarded :
    ∃ out, (preprocess overGuarded 4 [] twice ⟨"m"⟩).value = .ok out ∧
      out.code = " #include2\nint x;\r\nint y;\n" ∧
    (preprocess (Finder.new.resolver MemoryFiles.empty.files) 0 [] out.code ⟨"n"⟩).value =
      .ok ⟨" #include2\nint x;\nint y;\n", []⟩ := by
  have hcode : (preprocess overGuarded 4 [] twice ⟨"m"⟩).value.map Preprocessed.code =
      .ok " #include2\nint x;\r\nint y;\n" := by decide +kernel
  cases hvalue : (preprocess overGuarded 4 [] twice ⟨"m"⟩).value with
  | panicked =>
    rw [hvalue] at hcode
    cases hcode
  | error e =>
    rw [hvalue] at hcode
    cases hcode
  | ok out =>
    rw [hvalue] at hcode
    have hout : out.code = " #include2\nint x;\r\nint y;\n" := Ending.ok.inj hcode
    refine ⟨out, rfl, hout, ?_⟩
    rw [((expanded_text_is_inert hvalue).2 Finder.new MemoryFiles.empty.files 0 ⟨"n"⟩).1, hout]
    decide +kernel

end Inert

end ShaderBuild
