/-!
Values of TOML documents.
-/

namespace ShaderBuild.Toml

/-- A value. Of a number with a fraction or an exponent only its kind is kept. -/
inductive Value where
  | text (s : String)
  | integer (n : Int)
  | float
  | boolean (b : Bool)
  /-- A date, a time or both, as written. -/
  | dateTime (s : String)
  | array (items : List Value)
  | table (entries : List (String × Value))
  deriving Repr, Inhabited

namespace Value

/-- The name under which a date shows its text where a table is asked for. -/
def dateTimeName : String := "$__toml_private_datetime"

/-- The members of a table. A date counts as a table with one member. -/
def members? : Value → Option (List (String × Value))
  | table entries => some entries
  | dateTime s => some [(dateTimeName, text s)]
  | _ => none

def text? : Value → Option String
  | text s => some s
  | _ => none

def boolean? : Value → Option Bool
  | boolean b => some b
  | _ => none

/-- A whole number that is not negative. -/
def natural? : Value → Option Nat
  | integer (.ofNat n) => some n
  | _ => none

def texts? : Value → Option (List String)
  | array items => items.mapM text?
  | _ => none

end Value

end ShaderBuild.Toml
