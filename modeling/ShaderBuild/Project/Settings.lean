import ShaderBuild.Compile.Command
import ShaderBuild.Project.DefineTable

/-!
What a project can set, the values that hold where it does not, and the places in the
file tree that settings name.
-/

namespace ShaderBuild

structure ProjectInfo where
  name : String
  description : String
  deriving DecidableEq, Repr

structure IncludeSettings where
  /-- Directories to search, seen from the project's root. -/
  searchPaths : List String
  /-- Whether the generators that come with the program answer. -/
  builtins : Bool
  deriving DecidableEq, Repr

def IncludeSettings.usual : IncludeSettings := ⟨[], true⟩

structure CacheSettings where
  /-- The cache file, seen from the project's root. -/
  path : String
  enabled : Bool
  deriving DecidableEq, Repr

def CacheSettings.usual : CacheSettings := ⟨".kiln/shader_cache.bin", true⟩

structure CompilerSettings where
  command : CompilerCommand
  target : String
  debugInfo : Bool
  optimize : Bool
  /-- How deep includes may be nested. -/
  depth : Nat
  deriving DecidableEq, Repr

def CompilerSettings.usual : CompilerSettings where
  command :=
    ⟨"glslc", ["-fshader-stage=\x7bstage\x7d", "--target-env=\x7btarget\x7d", "-o", "-", "-"],
      ["-g"], ["-O"]⟩
  target := "vulkan1.3"
  debugInfo := false
  optimize := true
  depth := 64

structure Settings where
  project : ProjectInfo
  includes : IncludeSettings
  cache : CacheSettings
  compiler : CompilerSettings
  /-- Defines for every shader. -/
  defines : DefineTable

namespace Settings

/-- The settings where there is no project. -/
def standalone : Settings := ⟨⟨"kiln", ""⟩, .usual, .usual, .usual, .empty⟩

/-- The directories to search, in order. -/
def searchDirs (s : Settings) (root : Path) : List Path :=
  s.includes.searchPaths.map fun (dir : String) => root.join ⟨dir⟩

/-- The cache file, whether or not the cache is used. -/
def cachePath (s : Settings) (root : Path) : Path := root.join ⟨s.cache.path⟩

/-- The cache file, if the cache is used. -/
def cacheFile? (s : Settings) (root : Path) : Option Path :=
  if s.cache.enabled then some (s.cachePath root) else none

/-- The options to compile a stage with. -/
def compileOptions (s : Settings) (stage : Stage) (defines : List (String × String)) :
    CompileOptions :=
  ⟨stage, s.compiler.target, s.compiler.debugInfo, s.compiler.optimize, defines⟩

end Settings

end ShaderBuild
