import ShaderBuild.CommandLine.Arguments
import ShaderBuild.CommandLine.Outcome

/-!
The cache commands: a summary of a cache file, and its removal.
-/

namespace ShaderBuild.CommandLine

/-- The cache file that is named, or the project's. -/
def cachePathFor (disk : Disk) (globals : GlobalOptions) (path : Option Path) :
    Traced (Except CommandError Path) := do
  match path with
  | some path => return .ok path
  | none =>
    match ← Project.find disk globals.config with
    | .error e => return .error (.settings e)
    | .ok p => return .ok p.cachePath

def entryLine (index : Nat) (e : CacheEntry) : String :=
  "  [" ++ toString index ++ "] " ++ padRight 5 e.shader.stage.shortName ++ " " ++
    padRight 6 e.shader.contentType.name ++ " " ++ padLeft 8 (toString e.shader.code.length) ++
    " bytes  " ++ toString e.dependencies.length ++ " deps  " ++ e.shader.hint

def includeLine (d : Dependency) : String := "        " ++ d.digest.hex ++ " " ++ d.identifier

/-- The lines about entries, numbered from `index` on. -/
def entryLines (withIncludes : Bool) : (index : Nat) → List CacheEntry → List String
  | _, [] => []
  | index, e :: rest =>
    entryLine index e :: (if withIncludes then e.dependencies.map includeLine else []) ++
      entryLines withIncludes (index + 1) rest

def inspect (disk : Disk) (globals : GlobalOptions) (path : Option Path) : Traced Outcome := do
  match ← cachePathFor disk globals path with
  | .error e => return .failed disk "" "" e
  | .ok path =>
    match ← (Cache.load disk path : Traced (Except CacheError ShaderCache)) with
    | .error e => return .failed disk "" "" (.cache e)
    | .ok cache =>
      let first := path.display ++ ": " ++ toString cache.size ++ " entries in " ++
        toString cache.bucketCount ++ " buckets"
      let rest := if globals.quiet then [] else entryLines globals.verbose 0 cache.entries
      return ⟨disk, 0, Outcome.lines (first :: rest), ""⟩

def clear (disk : Disk) (globals : GlobalOptions) (path : Option Path) : Traced Outcome := do
  match ← cachePathFor disk globals path with
  | .error e => return .failed disk "" "" e
  | .ok path =>
    let say (s : String) : String := if globals.quiet then "" else Outcome.line s
    match disk.remove path with
    | .ok disk => return ⟨disk, 0, say ("removed " ++ path.display), ""⟩
    | .error .noEntry => return ⟨disk, 0, say ("no cache at " ++ path.display), ""⟩
    | .error e => return .failed disk "" "" (.removal path e)

end ShaderBuild.CommandLine
