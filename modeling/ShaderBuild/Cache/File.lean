import ShaderBuild.Cache.Image
import ShaderBuild.Files.Disk

/-!
Caches in files: loading, and saving by writing a new file in the place of the old one.
-/

namespace ShaderBuild

inductive CacheError where
  | io (path : Path) (e : SystemError)
  | decode (e : DecodeError)
  | internal (e : InternalError)
  deriving DecidableEq, Repr

def CacheError.message : CacheError → String
  | io path e => "cache I/O error at " ++ path.display ++ ": " ++ e.message
  | decode e => "failed to decode shader cache: " ++ e.message
  | internal e => e.text

namespace Cache

variable {fingerprint : ShaderKey → Hash128}

def fileChannel : String := "kiln_cache::persist"

def load (disk : Disk) (path : Path) : Traced (Except CacheError (Cache fingerprint)) := do
  match disk.read path with
  | .error e => return .error (.io path e)
  | .ok data =>
    match deserialize data with
    | .error e => return .error (.decode e)
    | .ok c =>
      Traced.log .debug fileChannel "loaded shader cache"
        [("path", path.display), ("entries", toString (size c))]
      return .ok c

/-- Loads a cache, or starts an empty one. That there is no file yet is nothing to report. -/
def loadOrEmpty (disk : Disk) (path : Path) : Traced (Cache fingerprint) := do
  match ← load disk path with
  | .ok c => return c
  | .error (.io _ .noEntry) => return empty
  | .error e =>
    Traced.log .warn fileChannel "discarding unusable shader cache"
      [("path", path.display), ("error", e.message)]
    return empty

/-- Saves a cache, creating the directories on the way. The old file stays if anything fails. -/
def save (c : Cache fingerprint) (disk : Disk) (path : Path) : Traced
    (Disk × Except CacheError Unit) := do
  let dir := path.parentDir
  match if dir.bytes = [] then .ok disk else disk.makeDirectories dir with
  | .error e => return (disk, .error (.io dir e))
  | .ok disk =>
    match c.serialize with
    | .error e => return (disk, .error (.internal e))
    | .ok data =>
      match disk.replace path data with
      | .error e => return (disk, .error (.io path e))
      | .ok disk =>
        Traced.log .debug fileChannel "saved shader cache"
          [("path", path.display), ("entries", toString c.size), ("bytes", toString data.length)]
        return (disk, .ok ())

end Cache

end ShaderBuild
