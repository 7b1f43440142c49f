import ShaderBuild.Project.Settings
import ShaderBuild.Text.Blank

/-!
Defines given on the command line, on top of those of the project.
-/

namespace ShaderBuild

/-- A define without a name. -/
structure NamelessDefine where
  argument : String
  deriving DecidableEq, Repr

def NamelessDefine.message (e : NamelessDefine) : String :=
  "invalid define '" ++ e.argument ++ "': empty name"

/-- Reads `NAME` or `NAME=VALUE`. Blanks around the name do not count. -/
def readDefine (argument : String) : Except NamelessDefine (String × String) :=
  let (name, value) := (Text.splitFirst? '=' argument.toList).getD (argument.toList, [])
  let name := Text.trim name
  if name = [] then .error ⟨argument⟩ else .ok (String.ofList name, String.ofList value)

/-- Gives a name a value: in its place if it is in the list, else at the end. -/
def override (defines : List (String × String)) (name value : String) : List (String × String) :=
  match defines with
  | [] => [(name, value)]
  | (n, v) :: rest => if n = name then (n, value) :: rest else (n, v) :: override rest name value

/-- The defines that arguments leave, from those that there are. -/
def overrideAll (defines : List (String × String)) (arguments : List String) :
    Except NamelessDefine (List (String × String)) :=
  arguments.foldlM (fun defines argument => do
    let (name, value) ← readDefine argument
    return override defines name value) defines

/-- The defines of the settings in ascending order of their names, then the new ones. -/
def Settings.definesWith (s : Settings) (arguments : List String) :
    Except NamelessDefine (List (String × String)) :=
  overrideAll s.defines.pairs arguments

end ShaderBuild
