import ShaderBuild.Hash.Xxh3
import ShaderBuild.Shader.Stage

/-!
What a compilation depends on apart from its includes, and the fingerprint by which it is
looked up.
-/

namespace ShaderBuild

/-- The options that change what the compiler puts out. -/
structure CompileOptions where
  stage : Stage
  target : String
  debugInfo : Bool
  optimize : Bool
  defines : List (String × String)
  deriving DecidableEq, Repr, Inhabited

/-- The options for a stage with the usual target, optimized and without debug information. -/
def CompileOptions.ofStage (stage : Stage) : CompileOptions := ⟨stage, "vulkan1.3", false, true, []⟩

structure ShaderKey where
  /-- The main source text, before preprocessing. -/
  source : String
  /-- The name of the main source, usually its path. -/
  identifier : String
  options : CompileOptions
  deriving DecidableEq, Repr, Inhabited

namespace ShaderKey

/-- A field with its length in front. -/
def field (s : String) : Bytes :=
  let b := Bytes.ofText s
  Bytes.littleEndian 8 b.length ++ b

def flag (b : Bool) : UInt8 := if b then 1 else 0

/-- The bytes that the fingerprint is taken of. -/
def image (k : ShaderKey) : Bytes :=
  field k.source ++ field k.identifier ++ field k.options.stage.shortName ++
    field k.options.target ++ [flag k.options.debugInfo, flag k.options.optimize] ++
    k.options.defines.flatMap fun d => field d.1 ++ field d.2

/-- Distinct keys may share a fingerprint. -/
def fingerprint (k : ShaderKey) : Hash128 := Xxh3.hash k.image

end ShaderKey

/-- A compiled shader. -/
structure Shader where
  stage : Stage
  contentType : ContentType
  /-- Where it came from, for a reader: usually the path of its source. -/
  hint : String
  code : Bytes
  deriving DecidableEq, Repr, Inhabited

end ShaderBuild
