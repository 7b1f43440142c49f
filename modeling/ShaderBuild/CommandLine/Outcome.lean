import ShaderBuild.Cache.File
import ShaderBuild.Project.Artifact
import ShaderBuild.Project.Location
import ShaderBuild.Project.Overrides

/-!
What a command leaves behind, and why one fails.
-/

namespace ShaderBuild.CommandLine

inductive CommandError where
  | settings (e : SettingsError)
  | define (e : NamelessDefine)
  | source (file : Path) (e : SystemError)
  | stage (e : UnknownStageOf)
  | preprocess (e : PreprocessError)
  | cache (e : CacheError)
  | outputDirectory (e : SystemError)
  | removal (path : Path) (e : SystemError)
  deriving DecidableEq, Repr

def CommandError.message : CommandError → String
  | settings e => e.message
  | define e => e.message
  | source file e => "cannot read " ++ file.display ++ ": " ++ e.message
  | stage e => e.message
  | preprocess e => e.message
  | cache e => e.message
  | outputDirectory e => e.message
  | removal path e => "cannot remove " ++ path.display ++ ": " ++ e.message

/-- The file tree after a command, and what the command said. -/
structure Outcome where
  disk : Disk
  code : Nat
  output : String
  errors : String

namespace Outcome

def line (s : String) : String := s ++ "\n"

def lines (ls : List String) : String := String.join (ls.map line)

def errorLine (message : String) : String := "error: " ++ message

/-- A command that stops at an error, after it said something. -/
def failed (disk : Disk) (output errors : String) (e : CommandError) : Outcome :=
  ⟨disk, 1, output, errors ++ line (errorLine e.message)⟩

/-- The exit code of a command that panics. -/
def panicCode : Nat := 101

/-- A command that panics. What is written about it is not told. -/
def panicked (disk : Disk) : Outcome := ⟨disk, panicCode, "", ""⟩

end Outcome

/-- Text to the left of blanks that fill a width. -/
def padRight (width : Nat) (s : String) : String :=
  s ++ String.ofList (List.replicate (width - s.length) ' ')

/-- Text to the right of blanks that fill a width. -/
def padLeft (width : Nat) (s : String) : String :=
  String.ofList (List.replicate (width - s.length) ' ') ++ s

end ShaderBuild.CommandLine
