import ShaderBuild.Include.Loader
import ShaderBuild.Include.Pattern
import ShaderBuild.Text.Quoted

/-!
Generators make the text of includes under a directory of their own. Most are an ordered
table of patterns with what each produces.
-/

namespace ShaderBuild

/-- A source of generated includes. -/
structure Generator where
  /-- The directory that the generator answers for, as it was given. -/
  home : String
  answer : (name : String) → Traced (Option IncludeText)

/-- What to produce for the identifiers that a pattern accepts. An empty text declines. -/
structure Mapping where
  pattern : Pattern
  produce : (name : String) → Traced String

def generatorChannel : String := "kiln_include::generator"

namespace Generator

/-- The first non-empty text among the mappings whose pattern accepts the identifier. -/
def firstMatch (home name : String) : List Mapping → Traced (Option IncludeText)
  | [] => return none
  | m :: rest => do
    if m.pattern.accepts name then
      let contents ← m.produce name
      if contents = "" then firstMatch home name rest
      else
        Traced.log .debug generatorChannel "include generator matched"
          [("prefix", Text.quoted home), ("include", Text.quoted name)]
        return some ⟨⟨name⟩, contents⟩
    else firstMatch home name rest

def ofMappings (home : String) (mappings : List Mapping) : Generator :=
  ⟨home, fun name => firstMatch home name mappings⟩

end Generator

/-- The parts of a path between slashes. A trailing slash makes no part of its own. -/
def pathArguments (path : String) : List String :=
  let parts := Text.splitOn '/' path.toList
  (if parts.getLast? = some [] then parts.dropLast else parts).map String.ofList

end ShaderBuild
