import ShaderBuild.Files.Disk
import ShaderBuild.Include.Finder
import ShaderBuild.Project.Reading

/-!
Where a project is: at a place that is asked for, or at the nearest settings file on the
way from the working directory to the root.
-/

namespace ShaderBuild

structure Project where
  root : Path
  settings : Settings

namespace Path

/-- The path, its parent, the parent's parent, and so on. -/
def ancestors (p : Path) : List Path := go (p.bytes.length + 1) p
where
  go : (fuel : Nat) → Path → List Path
    | 0, _ => []
    | fuel + 1, p =>
      match p.parent? with
      | some parent => p :: go fuel parent
      | none => [p]

end Path

namespace Project

def settingsName : String := "kiln.toml"

/-- The path of the settings file in a directory. -/
def settingsIn (dir : Path) : Path := dir.join ⟨settingsName⟩

def channel : String := "kiln::pipeline"

/-- The nearest directory with a settings file, from `start` on upwards. -/
def findRoot? (disk : Disk) (start : Path) : Option Path :=
  start.ancestors.find? fun dir => disk.isFile (settingsIn dir)

def readSettings (disk : Disk) (file : Path) : Except SettingsError Settings :=
  match disk.readText file with
  | .error e => .error (.unreadable e)
  | .ok text => Settings.ofText text

/-- The project of a settings file or of a directory with one. -/
def ofConfig (disk : Disk) (config : Path) : Except SettingsError Project := do
  if disk.isDirectory config then
    return ⟨config, ← readSettings disk (settingsIn config)⟩
  else
    let root := match config.parent? with
      | some parent => if parent.bytes = [] then disk.workingPath else parent
      | none => disk.workingPath
    return ⟨root, ← readSettings disk config⟩

/-- The project that is asked for, or the one around the working directory, or none of either. -/
def find (disk : Disk) (config : Option String) : Traced (Except SettingsError Project) := do
  match config with
  | some config => return ofConfig disk ⟨config⟩
  | none =>
    let here := disk.workingPath
    match findRoot? disk here with
    | some root => return (readSettings disk (settingsIn root)).map (⟨root, ·⟩)
    | none =>
      Traced.log .debug channel "no kiln.toml found, using defaults" [("dir", here.display)]
      return .ok ⟨here, .standalone⟩

/-- The finder for a project. Directories given on the command line come before its own. -/
def finder (p : Project) (disk : Disk) (extraDirs : List Path) : Traced Finder := do
  let f ← if p.settings.includes.builtins then Finder.withBuiltins disk.files else pure Finder.new
  return (extraDirs ++ p.settings.searchDirs p.root).foldl Finder.addSearchDir f

def cachePath (p : Project) : Path := p.settings.cachePath p.root

end Project

end ShaderBuild
