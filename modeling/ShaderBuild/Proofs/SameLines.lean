import Mathlib.Data.List.Forall2
import ShaderBuild.Proofs.Expansion
import ShaderBuild.Proofs.LineEnds
import ShaderBuild.Proofs.Resolution

/-!
Two expansions of texts that differ in the ends of their lines. Main statement:
`line_ends_are_immaterial`. A text goes into an expansion by its path and its lines only, so
resolvers that agree on these give expansions that differ in nothing but the recorded texts.
-/

namespace ShaderBuild

/-! ## What is read of a text -/

/-- A text as an expansion reads it, by its path and its lines. -/
def IncludeText.outline (t : IncludeText) : Path × List (List Char) :=
  (t.path, Text.lines t.contents.toList)

/-- The include that was resolved, without the text that was found. -/
def Dependency.asked (d : Dependency) : String × Path × IncludeKind := (d.identifier, d.dir, d.kind)

theorem Dependency.asked_record (name : String) (dir : Path) (kind : IncludeKind) (found : Found) :
    (record name dir kind found).asked = (name, dir, kind) := rfl

/-- An expansion without the texts of its includes. -/
def Expansion.outline (e : Expansion) :
    List (List Char) × List (String × Path × IncludeKind) × List Path :=
  (e.lines, e.dependencies.map Dependency.asked, e.once)

/-- A preprocessed source without the texts of its includes. -/
def Preprocessed.outline (out : Preprocessed) : String × List (String × Path × IncludeKind) :=
  (out.code, out.dependencies.map Dependency.asked)

/-- Requests find texts with the same path and the same lines. -/
structure Resolver.Agree (r r' : Resolver) : Prop where
  resolved : ∀ p, r'.resolved p = r.resolved p
  request : ∀ kind dir name, (r'.request kind dir name).value.map IncludeText.outline =
    (r.request kind dir name).value.map IncludeText.outline

/-! ## Expansions -/

theorem onceAfter_congr {cs ds : List Char} (h : Text.lines ds = Text.lines cs) (path : Path)
    (once : List Path) :
    onceAfter path ds once = onceAfter path cs once := by
  rw [onceAfter, onceAfter, hasPragmaOnce, hasPragmaOnce, h]

theorem Expansion.outline_prepend (lines : List (List Char)) (dependencies : List Dependency)
    (e : Expansion) :
    (e.prepend lines dependencies).outline =
      (lines ++ e.outline.1, dependencies.map Dependency.asked ++ e.outline.2.1,
        e.outline.2.2) := by
  simp [outline, prepend]

/-- Outcomes that differ in the recorded texts only are the same error, or both are successes. -/
theorem outline_cases {x x' : Except PreprocessError Expansion}
    (h : x'.map Expansion.outline = x.map Expansion.outline) :
    (∃ e, x = .error e ∧ x' = .error e) ∨ ∃ e e', x = .ok e ∧ x' = .ok e' ∧
      e'.outline = e.outline := by
  cases x with
  | error e =>
    cases x' with
    | error e' =>
      cases h
      exact .inl ⟨e, rfl, rfl⟩
    | ok e' => cases h
  | ok e =>
    cases x' with
    | error e' => cases h
    | ok e' => exact .inr ⟨e, e', rfl, rfl, Except.ok.inj h⟩

theorem outline_prepend_congr {x x' : Except PreprocessError Expansion}
    (h : x'.map Expansion.outline = x.map Expansion.outline) (lines : List (List Char))
    {ds ds' : List Dependency} (hds : ds'.map Dependency.asked = ds.map Dependency.asked) :
    (x'.map (·.prepend lines ds')).map Expansion.outline =
      (x.map (·.prepend lines ds)).map Expansion.outline := by
  rcases outline_cases h with ⟨e, rfl, rfl⟩ | ⟨e, e', rfl, rfl, houtline⟩
  · rfl
  · simp only [Except.map, Expansion.outline_prepend, houtline, hds]

theorem outline_expandLines {r r' : Resolver} (h : r.Agree r') (limit room : Nat) (f : Frame)
    (number : Nat) (lines : List (List Char)) (once : List Path) :
    (expandLines r' limit (enterAt r' limit room) f number lines once).value.map Expansion.outline =
      (expandLines r limit (enterAt r limit room) f number lines once).value.map
        Expansion.outline := by
  -- Entering takes one off the room; every other step takes one line off the list.
  induction room using Nat.strongRecOn generalizing f number lines once with
  | ind room ihRoom =>
    induction lines generalizing number once with
    | nil => rfl
    | cons line rest ih =>
      rw [value_expandLines_cons, value_expandLines_cons]
      cases IncludeLine.ofLine line with
      | malformed => rfl
      | other =>
        simp only
        split
        · exact ih (number + 1) once
        · exact outline_prepend_congr (ih (number + 1) once) [line] rfl
      | request kind name =>
        have hrequest := h.request kind f.dir (String.ofList name)
        simp only
        cases hfound : (r.request kind f.dir (String.ofList name)).value with
        | none =>
          rw [hfound, Option.map_none, Option.map_eq_none_iff] at hrequest
          rw [hrequest]
        | some t =>
          rw [hfound, Option.map_some] at hrequest
          obtain ⟨t', hfound', houtline⟩ := Option.map_eq_some_iff.1 hrequest
          obtain ⟨hpath, hlines⟩ := Prod.mk.inj houtline
          simp only [hfound', hpath]
          split
          · rfl
          split
          · apply outline_prepend_congr (ih (number + 1) once)
            simp only [List.map_singleton, Dependency.asked_record]
          cases room with
          | zero => rfl
          | succ room =>
            have hbody :=
              ihRoom room (Nat.lt_succ_self room) (f.enter t.path) 1 (Text.lines t.contents.toList)
              (onceAfter t.path t.contents.toList once)
            simp only [expand_eq, hlines, onceAfter_congr hlines]
            rcases outline_cases hbody with
              ⟨e, hinner, hinner'⟩ | ⟨inner, inner', hinner, hinner', hsame⟩
            · rw [hinner, hinner']
            · obtain ⟨hcopied, hincluded⟩ := Prod.mk.inj hsame
              obtain ⟨hasked, honce⟩ := Prod.mk.inj hincluded
              simp only [hinner, hinner', hcopied, honce]
              apply outline_prepend_congr (ih (number + 1) inner.once)
              simp only [List.map_cons, Dependency.asked_record, hasked]

/-- Sources with the same lines are preprocessed alike where requests find texts with the same
lines. -/
theorem outline_preprocess {r r' : Resolver} (h : r.Agree r') (limit : Nat) (defines : List Define)
    {source source' : String} (hlines : Text.lines source'.toList = Text.lines source.toList)
    (path : Path) :
    (preprocess r' limit defines source' path).value.map Preprocessed.outline =
      (preprocess r limit defines source path).value.map Preprocessed.outline := by
  have hexpansion : (r'.expansion limit source' path).map Expansion.outline =
      (r.expansion limit source path).map Expansion.outline := by
    unfold Resolver.expansion Resolver.frame
    rw [h.resolved, hlines, onceAfter_congr hlines, expand_eq, expand_eq]
    exact outline_expandLines h limit limit _ 1 _ _
  rw [value_preprocess, value_preprocess]
  rcases outline_cases hexpansion with ⟨e, hr, hr'⟩ | ⟨e, e', hr, hr', houtline⟩
  · rw [hr, hr']
  · obtain ⟨hcopied, hincluded⟩ := Prod.mk.inj houtline
    have hcode : e'.code = e.code := by rw [Expansion.code, Expansion.code, hcopied]
    simp only [hr, hr', hcode]
    cases Define.inject? e.code defines with
    | none => rfl
    | some code => simp only [Ending.map, Preprocessed.outline, (Prod.mk.inj hincluded).1]

/-! ## Files -/

namespace MemoryFiles

/-- The same files, in which lines may end in other ways. -/
def OtherEnds (m m' : MemoryFiles) : Prop :=
  List.Forall₂ (fun e e' => e'.1 = e.1 ∧ LineEnds.OtherEnds 10 13 e.2 e'.2) m.entries m'.entries

/-- No file has a carriage return in it. -/
def NoReturns (m : MemoryFiles) : Prop := ∀ e ∈ m.entries, 13 ∉ e.2

section

variable {m m' : MemoryFiles} (hreturns : m.NoReturns) (h : m.OtherEnds m')

include hreturns h

theorem lines?_get? (p : Path) : (m'.get? p).map Bytes.lines? = (m.get? p).map Bytes.lines? := by
  unfold NoReturns at hreturns
  unfold OtherEnds at h
  unfold get?
  generalize m.entries = es at hreturns h
  generalize m'.entries = es' at h
  induction h with
  | nil => rfl
  | @cons e e' _ _ hhead _ ih =>
    obtain ⟨hkey, hends⟩ := hhead
    obtain ⟨hreturn, hrest⟩ := List.forall_mem_cons.1 hreturns
    rw [List.lookup_cons, List.lookup_cons, hkey]
    split
    · exact congrArg some (Bytes.lines?_eq_of_otherEnds hreturn hends)
    · exact ih hrest

theorem resolved_of_otherEnds (p : Path) : m'.files.resolved p = m.files.resolved p := by
  have hkept := congrArg Option.isSome (lines?_get? hreturns h p)
  rw [Option.isSome_map, Option.isSome_map] at hkept
  simp only [Files.resolved, files, hkept]

end

theorem outline_textAt? (m : MemoryFiles) (p : Path) :
    (m.textAt? p).map IncludeText.outline =
      (((m.get? p).map Bytes.lines?).join.map fun lines => (p.normal, lines)).filter fun o =>
        o.2 ≠ [] := by
  unfold textAt? Bytes.lines?
  cases m.get? p with
  | none => rfl
  | some data =>
    simp only [Option.bind_some, Option.map_some, Option.join_some]
    cases Bytes.text? data with
    | none => rfl
    | some contents =>
      have hempty : Text.lines contents.toList = [] ↔ contents = "" := by
        rw [Text.lines_eq_nil_iff, String.toList_eq_nil_iff]
      unfold IncludeText.nonEmpty
      simp only [Option.map_some, Option.filter_some, ne_eq, hempty]
      split
      · rfl
      · rfl

theorem outline_textAt?_of_otherEnds {m m' : MemoryFiles} (hreturns : m.NoReturns)
    (h : m.OtherEnds m') (p : Path) :
    (m'.textAt? p).map IncludeText.outline = (m.textAt? p).map IncludeText.outline := by
  rw [outline_textAt?, outline_textAt?, lines?_get? hreturns h]

end MemoryFiles

/-! ## Requests -/

namespace Finder

section

variable {m m' : MemoryFiles}
  (h : ∀ p, (m'.textAt? p).map IncludeText.outline = (m.textAt? p).map IncludeText.outline)

include h

theorem outline_searched (f : Finder) (name : String) :
    (f.searched m'.files name).value.map IncludeText.outline =
      (f.searched m.files name).value.map IncludeText.outline := by
  rw [searched, searched, Traced.value_firstSome, Traced.value_firstSome, List.map_findSome?,
    List.map_findSome?]
  congr 1
  funext s
  simp only [Function.comp, Traced.value_map]
  cases s.loader with
  | files =>
    rw [Loader.load, Loader.load, m'.value_load, m.value_load]
    exact h (s.root.join ⟨name⟩)
  | custom load => rfl

theorem outline_beside (dir : Path) (name : String) :
    (beside m'.files dir name).value.map IncludeText.outline =
      (beside m.files dir name).value.map IncludeText.outline := by
  rw [value_beside, value_beside]
  exact h (dir.join ⟨name⟩)

theorem outline_request {f : Finder} (hgenerators : f.generators = [])
    (kind : IncludeKind) (dir : Path) (name : String) :
    ((f.resolver m'.files).request kind dir name).value.map IncludeText.outline =
      ((f.resolver m.files).request kind dir name).value.map IncludeText.outline := by
  have hgenerated := value_generated_of_nil hgenerators name
  have hsearched := outline_searched h f name
  have hbeside := outline_beside h dir name
  cases kind with
  | standard =>
    simp only [resolver, standard, Traced.value_orElse, hgenerated, Option.none_or, Option.map_or,
      hsearched, hbeside]
  | relative =>
    simp only [resolver, relative, Traced.value_orElse, Option.map_or, hsearched, hbeside]

end

theorem agree_of_otherEnds {f : Finder} (hgenerators : f.generators = []) {m m' : MemoryFiles}
    (hreturns : m.NoReturns) (h : m.OtherEnds m') :
    (f.resolver m.files).Agree (f.resolver m'.files) where
  resolved := MemoryFiles.resolved_of_otherEnds hreturns h
  request := outline_request (MemoryFiles.outline_textAt?_of_otherEnds hreturns h) hgenerators

end Finder

/-! ## Main statement -/

/-- Where neither the source nor a file has a carriage return in it and no include is made by a
generator, it makes no difference to the outcome of preprocessing if some of the texts get carriage
returns in front of their newlines, and some the last newline that they lack: the error is the same,
or the code and which includes were asked for. -/
theorem line_ends_are_immaterial (finder : Finder) (m m' : MemoryFiles) (limit : Nat)
    (defines : List Define) (source source' : String) (path : Path)
    (hgenerators : finder.generators = []) (hfiles : m.NoReturns) (hsource : '\r' ∉ source.toList)
    (hends : m.OtherEnds m')
    (hsourceEnds : LineEnds.OtherEnds '\n' '\r' source.toList source'.toList) :
    (preprocess (finder.resolver m'.files) limit defines source' path).value.map
      Preprocessed.outline =
        (preprocess (finder.resolver m.files) limit defines source path).value.map
          Preprocessed.outline := by
  have hagree := Finder.agree_of_otherEnds hgenerators hfiles hends
  have hlines := Text.lines_eq_of_otherEnds hsource hsourceEnds
  exact outline_preprocess hagree limit defines hlines path

namespace SameLines

/-- A header that lacks its last newline, one that includes it twice, and bytes that are no text. -/
def plain : MemoryFiles :=
  (MemoryFiles.ofTexts [("a", "#pragma once\nfloat x;"),
    ("b", "#include \"a\"\n#include <a>\n")]).insert ⟨"c"⟩ [10, 255]

def converted : MemoryFiles :=
  (MemoryFiles.ofTexts [("a", "#pragma once\r\nfloat x;\n"),
    ("b", "#include \"a\"\n#include <a>\n")]).insert ⟨"c"⟩ [13, 10, 255, 10]

def overPlain : Resolver := Finder.new.resolver plain.files

def overConverted : Resolver := Finder.new.resolver converted.files

theorem otherEnds_converted : plain.OtherEnds converted := by
  have ha : Bytes.ofText "#pragma once\r\nfloat x;\n" =
      LineEnds.completed 10 (LineEnds.withReturns 10 13 (Bytes.ofText "#pragma once\nfloat x;")) :=
        by decide +kernel
  refine .cons ⟨rfl, ?_⟩ (.cons ⟨rfl, .same⟩ (.cons ⟨rfl, .completeLast⟩ .nil))
  rw [ha]
  exact .completeLast

theorem line_ends_are_immaterial_converted :
    Finder.new.generators = [] ∧ plain.NoReturns ∧ plain.OtherEnds converted ∧
      '\r' ∉ "#version 450\n#include <b>".toList ∧
      LineEnds.OtherEnds '\n' '\r' "#version 450\n#include <b>".toList
        "#version 450\r\n#include <b>\r\n".toList ∧
          (preprocess overConverted 2 [("N", "1")] "#version 450\r\n#include <b>\r\n"
            ⟨"m"⟩).value.map
        Preprocessed.outline = .ok ("#version 450\n#define N 1\nfloat x;\n",
          [("b", ⟨""⟩, .standard), ("a", ⟨""⟩, .relative), ("a", ⟨""⟩, .standard)]) := by
  have hgenerators : Finder.new.generators = [] := rfl
  have hfiles : plain.NoReturns := by
    unfold MemoryFiles.NoReturns
    decide +kernel
  have hsource : '\r' ∉ "#version 450\n#include <b>".toList := by decide
  have hends : LineEnds.OtherEnds '\n' '\r' "#version 450\n#include <b>".toList
      "#version 450\r\n#include <b>\r\n".toList := by
    have hconverted : "#version 450\r\n#include <b>\r\n".toList =
        LineEnds.withReturns '\n' '\r'
          (LineEnds.completed '\n' "#version 450\n#include <b>".toList) := by decide
    rw [hconverted]
    exact .returnsLast
  have hplain : (preprocess overPlain 2 [("N", "1")] "#version 450\n#include <b>" ⟨"m"⟩).value.map
      Preprocessed.outline = .ok ("#version 450\n#define N 1\nfloat x;\n",
        [("b", ⟨""⟩, .standard), ("a", ⟨""⟩, .relative), ("a", ⟨""⟩, .standard)]) := by
    decide +kernel
  have hsame :=
    line_ends_are_immaterial Finder.new plain converted 2 [("N", "1")] _ _ ⟨"m"⟩ hgenerators hfiles
    hsource otherEnds_converted hends
  exact ⟨hgenerators, hfiles, otherEnds_converted, hsource, hends, hsame.trans hplain⟩

end SameLines

end ShaderBuild
