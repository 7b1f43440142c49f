import ShaderBuild.CommandLine.Arguments
import ShaderBuild.CommandLine.Outcome

/-!
The preprocess command: puts out the expanded source, and the includes that it came from.
-/

namespace ShaderBuild.CommandLine

def dependencyLine (d : Dependency) : String :=
  let name := match d.kind with
    | .standard => "<" ++ d.identifier ++ ">"
    | .relative => "\"" ++ d.identifier ++ "\""
  "  " ++ name ++ " from " ++ d.dir.display ++ " [" ++ d.digest.hex ++ "]"

def dependencyLines (ds : List Dependency) : List String :=
  (toString ds.length ++ " dependencies:") :: ds.map dependencyLine

def preprocessFile (disk : Disk) (p : Project) (call : PreprocessCall) :
    Traced (Ending CommandError Preprocessed) := do
  let finder ← p.finder disk call.includeDirs
  match p.settings.definesWith call.defines with
  | .error e => return .error (.define e)
  | .ok defines =>
    match disk.readText call.file with
    | .error e => return .error (.source call.file e)
    | .ok source =>
      let result ← ShaderBuild.preprocess (finder.resolver disk.files) p.settings.compiler.depth
        defines
        source call.file
      return result.mapError .preprocess

def preprocess (disk : Disk) (globals : GlobalOptions)
    (call : PreprocessCall) : Traced Outcome := do
  match ← Project.find disk globals.config with
  | .error e => return .failed disk "" "" (.settings e)
  | .ok p =>
    match ← preprocessFile disk p call with
    | .panicked => return .panicked disk
    | .error e => return .failed disk "" "" e
    | .ok result =>
      let errors :=
        if globals.quiet then "" else Outcome.lines (dependencyLines result.dependencies)
      return ⟨disk, 0, result.code, errors⟩

end ShaderBuild.CommandLine
