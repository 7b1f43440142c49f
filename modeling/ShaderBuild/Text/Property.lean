import ShaderBuild.Text.CharSet

/-!
Unicode properties by name. What is known of them is a parameter of whatever asks for one, so that
it may grow with the standard.
-/

namespace ShaderBuild.Text

/-- A property as it is asked for: by a name, or as the value of a property with a name. -/
inductive Property where
  | named (name : String)
  | valued (name value : String)
  deriving DecidableEq, Repr

/-- The characters with a property, for the properties that are known. How names are compared is a
matter of the table. -/
structure Properties where
  find? : Property → Option CharSet

end ShaderBuild.Text
