import ShaderBuild.Path
import ShaderBuild.Shader.Stage

/-!
What follows from the path of a source file: its stage, and where the compiled shader goes.
-/

namespace ShaderBuild

structure UnknownStageOf where
  file : Path
  deriving DecidableEq, Repr

def UnknownStageOf.message (e : UnknownStageOf) : String :=
  "cannot infer the shader stage of " ++ e.file.display ++ "; pass --stage"

/-- The stage asked for, or else the one that the file's extension names. -/
def stageFor (file : Path) (asked : Option Stage) : Except UnknownStageOf Stage :=
  let ofName := file.extension?.bind fun extension =>
    (Bytes.text? extension).bind Stage.ofExtension?
  match asked.or ofName with
  | some stage => .ok stage
  | none => .error ⟨file⟩

/-- The name that a compiled shader gets by itself. -/
def artifactName (file : Path) : Bytes := file.fileName?.getD [] ++ Bytes.ofText ".spv"

/-- Where the compiled shader goes. What was asked for is a directory if there are several files. -/
def artifactPath (file : Path) (asked : Option Path) (several : Bool) : Path :=
  match asked with
  | some out => if several then out.join ⟨artifactName file⟩ else out
  | none => file.withFileName (artifactName file)

end ShaderBuild
