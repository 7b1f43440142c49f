import ShaderBuild.Files.Memory
import ShaderBuild.Proofs.Expansion

/-!
The record of an expansion as its transcript. `writeOut` puts texts in place of include directives
without asking where they come from: each directive takes the contents of the next recorded include.
Main statement: `record_is_transcript`, by which the record of a text without `#pragma once` is used
up exactly, answers every directive under its own name and kind, and gives the code.
-/

namespace ShaderBuild

/-! ## Writing out lines from a record -/

structure WrittenOut where
  lines : List (List Char)
  /-- The includes that were met, in order. -/
  met : List (IncludeKind × String)
  /-- The end of the record, which was not used. -/
  left : List Dependency
  deriving DecidableEq, Repr

namespace WrittenOut

def copy (line : List Char) (w : WrittenOut) : WrittenOut := { w with lines := line :: w.lines }

def meet (kind : IncludeKind) (name : String) (w : WrittenOut) : WrittenOut :=
  { w with met := (kind, name) :: w.met }

end WrittenOut

/-- Writes out lines, depth first: the lines of the next recorded include stand in place of each
directive and are written out before the lines behind it. There is no result if the record ends too
early. -/
def writeOut : (lines : List (List Char)) → (record : List Dependency) → Option WrittenOut
  | [], record => some ⟨[], [], record⟩
  | line :: rest, record =>
    match IncludeLine.ofLine line with
    | .other => (writeOut rest record).map (·.copy line)
    | .malformed => none
    | .request kind name =>
      match record with
      | [] => none
      | d :: record => (writeOut (Text.lines d.contents.toList ++ rest) record).map
        (·.meet kind (String.ofList name))
termination_by lines record => (record.length, lines.length)

theorem writeOut_other {line : List Char} (h : IncludeLine.ofLine line = .other)
    (rest : List (List Char)) (record : List Dependency) :
    writeOut (line :: rest) record = (writeOut rest record).map (·.copy line) := by
  rw [writeOut, h]

theorem writeOut_request {line : List Char} {kind : IncludeKind} {name : List Char}
    (h : IncludeLine.ofLine line = .request kind name) (rest : List (List Char)) (d : Dependency)
    (record : List Dependency) : writeOut (line :: rest) (d :: record) =
      (writeOut (Text.lines d.contents.toList ++ rest) record).map
        (·.meet kind (String.ofList name)) := by
  rw [writeOut, h]

/-! ## Expansions without `#pragma once` -/

/-- No line keeps its text from being expanded again. -/
def Dependency.Repeatable (d : Dependency) : Prop := hasPragmaOnce d.contents.toList = false

theorem onceAfter_of_repeatable {path : Path} {text : List Char} (h : hasPragmaOnce text = false)
    (once : List Path) :
    onceAfter path text once = once := by
  rw [onceAfter, h, if_neg Bool.false_ne_true]

theorem isPragmaOnce_of_repeatable {text line : List Char} (h : hasPragmaOnce text = false)
    (hline : line ∈ Text.lines text) : isPragmaOnce line = false := by
  rw [hasPragmaOnce, List.any_eq_false] at h
  exact eq_false_of_ne_true (h line hline)

/-- Where no text is kept from being expanded again, nothing is skipped and nothing is
remembered. -/
theorem Expands.once_eq_nil {r : Resolver} {room : Nat} {f : Frame} {lines : List (List Char)}
    {once : List Path} {e : Expansion} (h : Expands r room f lines once e) (honce : once = [])
    (hrecord : ∀ d ∈ e.dependencies, d.Repeatable) : e.once = [] := by
  induction h with
  | nil => exact honce
  | pragma _ _ _ ih => exact ih honce hrecord
  | copy _ _ _ ih => exact ih honce hrecord
  | skip _ _ _ _ _ ih => exact ih honce (List.forall_mem_cons.1 hrecord).2
  | enter _ _ _ _ _ _ ihBody ihTail =>
    obtain ⟨htext, hrest⟩ := List.forall_mem_cons.1 hrecord
    obtain ⟨hinner, htail⟩ := List.forall_mem_append.1 hrest
    exact ihTail (ihBody ((onceAfter_of_repeatable htext _).trans honce) hinner) htail

/-- What an expansion adds in front of what is written out behind it. -/
def Expansion.inFront (e : Expansion) (w : WrittenOut) : WrittenOut :=
  ⟨e.lines ++ w.lines, e.dependencies.map (fun d => (d.kind, d.identifier)) ++ w.met, w.left⟩

/-- Writing out lines that were expanded uses exactly what the expansion recorded, whatever stands
behind. -/
theorem Expands.writeOut_append {r : Resolver} {room : Nat} {f : Frame} {lines : List (List Char)}
    {once : List Path} {e : Expansion} (h : Expands r room f lines once e) (honce : once = [])
    (hlines : ∀ l ∈ lines, isPragmaOnce l = false) (hrecord : ∀ d ∈ e.dependencies, d.Repeatable)
    (rest : List (List Char)) (record : List Dependency) :
    writeOut (lines ++ rest) (e.dependencies ++ record) = (writeOut rest record).map e.inFront := by
  induction h generalizing rest record with
  | nil => exact (congrFun Option.map_id _).symm
  | pragma _ once? _ _ =>
    have hplain := (List.forall_mem_cons.1 hlines).1
    rw [once?] at hplain
    cases hplain
  | copy other _ _ ih =>
    rw [List.cons_append, writeOut_other other]
    have htail := ih honce (List.forall_mem_cons.1 hlines).2 hrecord rest record
    rw [Expansion.prepend, List.nil_append, htail, Option.map_map]
    rfl
  | skip _ _ _ seen _ _ =>
    rw [honce] at seen
    cases seen
  | @enter _ f line lines _ inner e kind name text request _ _ _ body _ ihBody ihTail =>
    obtain ⟨htext, hrest⟩ := List.forall_mem_cons.1 hrecord
    obtain ⟨hinner, htail⟩ := List.forall_mem_append.1 hrest
    have hbegin : onceAfter text.path text.contents.toList _ = [] :=
      (onceAfter_of_repeatable htext _).trans honce
    have hbody :=
      ihBody hbegin (fun l hl => isPragmaOnce_of_repeatable htext hl) hinner (lines ++ rest)
      (e.dependencies ++ record)
    have hbehind :=
      ihTail (body.once_eq_nil hbegin hinner) (List.forall_mem_cons.1 hlines).2 htail rest record
    have hcontents : (Dependency.record (String.ofList name) f.dir kind (some text)).contents =
        text.contents := rfl
    let d : Dependency := .record (String.ofList name) f.dir kind (some text)
    have hwhole : (e.prepend inner.lines (d :: inner.dependencies)).dependencies ++ record =
        d :: (inner.dependencies ++ (e.dependencies ++ record)) := by
      simp [Expansion.prepend]
    rw [hwhole, List.cons_append, writeOut_request request, hcontents, hbody, hbehind,
      Option.map_map, Option.map_map]
    congr 1
    funext w
    simp [Expansion.inFront, Expansion.prepend, WrittenOut.meet, Dependency.record]

/-! ## The whole of a source text -/

/-- Where neither the source text nor any included text has a `#pragma once`, the record alone gives
the code: it is used up exactly, and each directive is met under the recorded name and kind. -/
theorem record_is_transcript (finder : Finder) (files : Files) (limit : Nat)
    (source : String) (path : Path) (out : Preprocessed)
    (hout : (preprocess (finder.resolver files) limit [] source path).value = .ok out)
    (hsource : hasPragmaOnce source.toList = false)
    (hrecord : ∀ d ∈ out.dependencies, hasPragmaOnce d.contents.toList = false) :
    ∃ w, writeOut (Text.lines source.toList) out.dependencies = some w ∧ w.left = [] ∧
      w.met = out.dependencies.map (fun d => (d.kind, d.identifier)) ∧
      out.code.toList = w.lines.flatMap (· ++ ['\n']) := by
  obtain ⟨e, code, hexpansion, hcode, rfl⟩ := preprocess_ok_iff.1 hout
  have hexpands : Expands (finder.resolver files) limit ((finder.resolver files).frame path)
    (Text.lines source.toList) (onceAfter ((finder.resolver files).resolved path) source.toList [])
      e :=
    expand_ok_iff.1 hexpansion
  have hwritten := hexpands.writeOut_append (onceAfter_of_repeatable hsource _)
    (fun l hl => isPragmaOnce_of_repeatable hsource hl) hrecord [] []
  rw [List.append_nil, List.append_nil] at hwritten
  have hnothing : writeOut [] [] = some ⟨[], [], []⟩ := by rw [writeOut]
  obtain rfl : e.code = code := by simpa [Define.inject?] using hcode
  refine ⟨_, by rw [hwritten, hnothing]; rfl, rfl, by simp [Expansion.inFront], ?_⟩
  simp [Expansion.inFront, Expansion.code]

/-! ## Headers that are included several times -/

namespace WrittenOut

/-- A header that includes two others, of which one includes the other again. -/
def shared : MemoryFiles :=
  .ofTexts [("a/p", "#include \"q\"\n#include <r>\nint p;"),
    ("a/q", "int q;\n#include \"../r\"\n"), ("r", "int r;\r\n")]

def overShared : Resolver := Finder.new.resolver shared.files

def includingTwice : String := "#include \"a/p\"\nint m;\n#include \"a//q\"\n"

theorem record_is_transcript_shared :
    ∃ out, (preprocess overShared 3 [] includingTwice ⟨"m"⟩).value = .ok out ∧
      hasPragmaOnce includingTwice.toList = false ∧
        (∀ d ∈ out.dependencies, hasPragmaOnce d.contents.toList = false) ∧
    out.dependencies.map Dependency.identifier = ["a/p", "q", "../r", "r", "a//q", "../r"] ∧
    ∃ w, writeOut (Text.lines includingTwice.toList) out.dependencies = some w ∧ w.left = [] ∧
      w.met = out.dependencies.map (fun d => (d.kind, d.identifier)) ∧
      out.code.toList = w.lines.flatMap (· ++ ['\n']) := by
  have hchecked : ((preprocess overShared 3 [] includingTwice ⟨"m"⟩).value.toOption.any fun out =>
      out.dependencies.all (fun d => !hasPragmaOnce d.contents.toList) &&
        out.dependencies.map Dependency.identifier == ["a/p", "q", "../r", "r", "a//q", "../r"]) =
          true := by
    decide +kernel
  have hsource : hasPragmaOnce includingTwice.toList = false := by decide +kernel
  cases hout : (preprocess overShared 3 [] includingTwice ⟨"m"⟩).value with
  | error e => simp [hout, Ending.toOption] at hchecked
  | panicked => simp [hout, Ending.toOption] at hchecked
  | ok out =>
    rw [hout, Ending.toOption, Option.any_some, Bool.and_eq_true, beq_iff_eq] at hchecked
    have hrecord : ∀ d ∈ out.dependencies, hasPragmaOnce d.contents.toList = false := by
      simpa using hchecked.1
    exact ⟨out, rfl, hsource, hrecord, hchecked.2,
      record_is_transcript Finder.new shared.files 3 includingTwice ⟨"m"⟩ out hout hsource hrecord⟩

end WrittenOut

end ShaderBuild
