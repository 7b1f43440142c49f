import ShaderBuild.Include.Finder
import ShaderBuild.Source.Directive

/-!
Recorded include resolutions, which can be resolved again and compared.
-/

namespace ShaderBuild

/-- How includes are resolved: the path under which a source file is known, and the text for a
request made from a directory. -/
structure Resolver where
  resolved : Path → Path
  request : IncludeKind → (dir : Path) → (name : String) → Traced Found

def Finder.resolver (f : Finder) (files : Files) : Resolver where
  resolved := files.resolved
  request
    | .standard => f.standard files
    | .relative => f.relative files

/-- One include resolution of a shader. -/
structure Dependency where
  identifier : String
  /-- The directory of the file with the directive. -/
  dir : Path
  kind : IncludeKind
  /-- The digest of the contents when they were resolved. -/
  digest : Digest
  contents : String
  deriving DecidableEq, Repr

namespace Dependency

def record (identifier : String) (dir : Path) (kind : IncludeKind) (found : Found) : Dependency :=
  ⟨identifier, dir, kind, found.digest, found.contents⟩

/-- Resolves the include again, the way it was resolved at first. -/
def resolve (d : Dependency) (r : Resolver) : Traced Found := r.request d.kind d.dir d.identifier

/-- Whether the include resolves to the same digest and the same text again. -/
def isUnchanged (d : Dependency) (r : Resolver) : Traced Bool :=
  (fun found => found.digest == d.digest && found.contents == d.contents) <$> d.resolve r

theorem isUnchanged_iff {d : Dependency} {r : Resolver} :
    (d.isUnchanged r).value = true ↔
      (d.resolve r).value.digest = d.digest ∧ (d.resolve r).value.contents = d.contents := by
  simp [isUnchanged]

end Dependency

end ShaderBuild
