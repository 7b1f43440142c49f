import ShaderBuild.Files.Memory
import ShaderBuild.Proofs.Replay
import ShaderBuild.Proofs.Resolution

/-!
What an expansion depends on. Main statement: `preprocess_determined_by_record`, by which a finder
over other files, with other search paths and generators, leads to the same text and the same record
as soon as it resolves what was recorded alike. Nothing else that finders differ in is ever asked
for.
-/

namespace ShaderBuild

/-- The include resolves to the same path and the same contents. -/
structure Dependency.ResolvesAlike (d : Dependency) (r s : Resolver) : Prop where
  path_eq : (d.resolve s).value.path = (d.resolve r).value.path
  contents_eq : (d.resolve s).value.contents = (d.resolve r).value.contents

instance (d : Dependency) (r s : Resolver) : Decidable (d.ResolvesAlike r s) :=
  decidable_of_iff ((d.resolve s).value.path = (d.resolve r).value.path ∧
      (d.resolve s).value.contents = (d.resolve r).value.contents)
    ⟨fun h => ⟨h.1, h.2⟩, fun h => ⟨h.path_eq, h.contents_eq⟩⟩

theorem Dependency.ResolvesAlike.agrees {d : Dependency} {f : Finder} {files : Files} {s : Resolver}
    (h : d.ResolvesAlike (f.resolver files) s) (hrecorded : d.RecordedBy (f.resolver files)) :
    d.Agrees (f.resolver files) s := by
  exact agrees_of_path_contents hrecorded (fun t ht => Finder.contents_ne_of_request ht)
    h.path_eq h.contents_eq

/-- Two finders that know the source text by the same path have the same outcome, if the first
succeeds and the second resolves every include that the first has recorded alike. -/
theorem preprocess_determined_by_record (f₁ f₂ : Finder) (files₁ files₂ : Files) (limit : Nat)
    (defines : List Define) (source : String) (path : Path) (out : Preprocessed)
    (hresolved : ((f₂.resolver files₂).resolved path).same ((f₁.resolver files₁).resolved path))
    (hout : (preprocess (f₁.resolver files₁) limit defines source path).value = .ok out)
    (halike : ∀ d ∈ out.dependencies, d.ResolvesAlike (f₁.resolver files₁) (f₂.resolver files₂)) :
    (preprocess (f₂.resolver files₂) limit defines source path).value = .ok out := by
  have hrecorded := recordedBy_of_preprocess hout
  have hagrees : ∀ d ∈ out.dependencies, d.Agrees (f₁.resolver files₁) (f₂.resolver files₂) := by
    intro d hd
    exact (halike d hd).agrees (hrecorded d hd)
  exact preprocess_replay hout hagrees rfl hresolved

/-! ## A header from a generator and from a file -/

def header : String := "#pragma once\n#include \"y\"\n"

/-- Makes the header of every identifier in the directory `g`, and looks for files in no other place
than beside the file that asks. -/
def generatingFinder : Finder :=
  ⟨[], [⟨"g", ⟨"g", fun name => return some ⟨⟨name⟩, header⟩⟩⟩], false⟩

def headerless : MemoryFiles := .ofTexts [("g/y", "1\n")]

/-- The header and the source text are files. -/
def headed : MemoryFiles :=
  .ofTexts [("g/x", header), ("g/y", "1\n"), ("m/a", "main\n")]

/-- Includes the header twice and what the header includes once more. -/
def twice : String := "#include <g/x>\n#include \"../g/y\"\n#include <g/x>\n"

def fromGenerator : Resolver := generatingFinder.resolver headerless.files

def fromFiles : Resolver := Finder.new.resolver headed.files

theorem preprocess_determined_by_record_headers :
    (fromFiles.resolved ⟨"m//a"⟩).same (fromGenerator.resolved ⟨"m//a"⟩) ∧ ∃ out,
      (preprocess fromGenerator 2 [("A", "")] twice ⟨"m//a"⟩).value = .ok out ∧
      (∀ d ∈ out.dependencies, d.ResolvesAlike fromGenerator fromFiles) ∧
      (preprocess fromFiles 2 [("A", "")] twice ⟨"m//a"⟩).value = .ok out := by
  have hresolved : (fromFiles.resolved ⟨"m//a"⟩).same (fromGenerator.resolved ⟨"m//a"⟩) := by
    decide +kernel
  have hchecked :
    ((preprocess fromGenerator 2 [("A", "")] twice ⟨"m//a"⟩).value.toOption.any fun out =>
      out.dependencies.all fun d => decide (d.ResolvesAlike fromGenerator fromFiles)) = true := by
    decide +kernel
  cases hout : (preprocess fromGenerator 2 [("A", "")] twice ⟨"m//a"⟩).value with
  | error e => simp [hout, Ending.toOption] at hchecked
  | panicked => simp [hout, Ending.toOption] at hchecked
  | ok out =>
    have halike : ∀ d ∈ out.dependencies, d.ResolvesAlike fromGenerator fromFiles := by
      simpa [hout, Ending.toOption] using hchecked
    have hagain :=
      preprocess_determined_by_record generatingFinder Finder.new headerless.files headed.files
      2 [("A", "")] twice ⟨"m//a"⟩ out hresolved hout halike
    exact ⟨hresolved, out, rfl, halike, hagain⟩

end ShaderBuild
