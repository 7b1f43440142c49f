import ShaderBuild.Digest
import ShaderBuild.Files
import ShaderBuild.Trace

/-!
Loading an include's text from files under a search root.
-/

namespace ShaderBuild

/-- The text of an include and where it came from: the path of a file, or the identifier itself
for generated text. -/
structure IncludeText where
  path : Path
  contents : String
  deriving DecidableEq, Repr, Inhabited

namespace IncludeText

/-- The digest of exactly the contents. -/
def digest (t : IncludeText) : Digest := Digest.ofText t.contents

/-- An empty text counts as no text. -/
def nonEmpty (t : Option IncludeText) : Option IncludeText := t.filter fun t => t.contents ≠ ""

theorem nonEmpty_eq_some_iff {found : Option IncludeText} {t : IncludeText} :
    nonEmpty found = some t ↔ found = some t ∧ t.contents ≠ "" := by
  rw [nonEmpty, Option.filter_eq_some_iff, decide_eq_true_eq]

end IncludeText

/-- The outcome of resolving an include: no text where nothing was found. -/
abbrev Found := Option IncludeText

namespace Found

def path (f : Found) : Path := (f.map IncludeText.path).getD Path.empty

def contents (f : Found) : String := (f.map IncludeText.contents).getD ""

/-- The digest of the contents, which is the digest of no bytes where nothing was found. -/
def digest (f : Found) : Digest := Digest.ofText f.contents

end Found

/-- Where a search path takes its texts from. -/
inductive Loader where
  /-- The files of the finder. -/
  | files
  | custom (load : (root : Path) → (name : String) → Traced (Option IncludeText))

def loaderChannel : String := "kiln_include::loader"

/-- Reads the file at `name` under `root`. Whatever prevents reading it is a miss. -/
def Files.load (files : Files) (root : Path) (name : String) : Traced (Option IncludeText) := do
  let path := files.resolved (root.join ⟨name⟩)
  match files.read path with
  | .error e =>
    Traced.log .trace loaderChannel "include not readable"
      [("path", path.display), ("error", e.message)]
    return none
  | .ok data =>
    match Bytes.text? data with
    | some contents => return some ⟨path, contents⟩
    | none =>
      Traced.log .trace loaderChannel "include is not valid UTF-8" [("path", path.display)]
      return none

def Loader.load (files : Files) :
    Loader → (root : Path) → (name : String) → Traced (Option IncludeText)
  | .files, root, name => files.load root name
  | .custom load, root, name => load root name

end ShaderBuild
