/-!
Pipeline stages and the formats of compiled shaders, with their names.
-/

namespace ShaderBuild

/-- A stage of the graphics pipeline. -/
inductive Stage where
  | vertex
  | tessControl
  | tessEvaluation
  | geometry
  | fragment
  | compute
  | task
  | mesh
  deriving DecidableEq, Repr, Inhabited

namespace Stage

/-- All stages, in pipeline order. -/
def all : List Stage :=
  [vertex, tessControl, tessEvaluation, geometry, fragment, compute, task, mesh]

/-- The name used in file extensions and compiler flags. -/
def shortName : Stage → String
  | vertex => "vert"
  | tessControl => "tesc"
  | tessEvaluation => "tese"
  | geometry => "geom"
  | fragment => "frag"
  | compute => "comp"
  | task => "task"
  | mesh => "mesh"

/-- The name used in stored metadata. -/
def longName : Stage → String
  | vertex => "vertex"
  | tessControl => "tess_control"
  | tessEvaluation => "tess_evaluation"
  | geometry => "geometry"
  | fragment => "fragment"
  | compute => "compute"
  | task => "task"
  | mesh => "mesh"

/-- The stage whose short name is the given file extension. -/
def ofExtension? (extension : String) : Option Stage :=
  all.find? fun s => s.shortName == extension

def ofLongName? (name : String) : Option Stage :=
  all.find? fun s => s.longName == name

/-- A name that is neither the short nor the long name of a stage. -/
structure Unknown where
  name : String
  deriving DecidableEq, Repr

def Unknown.message (e : Unknown) : String := "unknown shader stage '" ++ e.name ++ "'"

def ofName (name : String) : Except Unknown Stage :=
  match all.find? fun s => s.shortName == name || s.longName == name with
  | some s => .ok s
  | none => .error ⟨name⟩

end Stage

/-- What the bytes of a compiled shader are. -/
inductive ContentType where
  | spirv
  | glsl
  | hlsl
  deriving DecidableEq, Repr, Inhabited

namespace ContentType

def all : List ContentType := [spirv, glsl, hlsl]

def name : ContentType → String
  | spirv => "spirv"
  | glsl => "glsl"
  | hlsl => "hlsl"

def ofName? (name : String) : Option ContentType := all.find? fun t => t.name == name

end ContentType

end ShaderBuild
