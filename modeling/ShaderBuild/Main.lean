import ShaderBuild.CommandLine.Run
import ShaderBuild.Toolbox

/-!
The program. It takes the files around the working directory in, runs the command on
them, and puts the files that changed back. Compilers are the programs of the toolbox.
-/

namespace ShaderBuild.Program

/-- The place that a path from the root names. -/
def placeOf (path : String) : Place :=
  (Text.splitOn Path.slash (Bytes.ofText path)).filter (· ≠ [])

def textOf (p : Place) : String := (Disk.pathOf p).display

def bytesOf (b : ByteArray) : Bytes := b.data.toList

/-- Adds the directories on the way to a place. -/
def addDirectories (disk : Disk) (p : Place) : Disk :=
  (List.range p.length).foldl (fun disk n =>
    let dir := p.take (n + 1)
    if (disk.entryAt? dir).isSome then disk else disk.put dir .directory) disk

/-- Takes in a file, or a directory with all that is in it. -/
partial def load (disk : Disk) (path : String) : IO Disk := do
  let p := placeOf path
  if p ≠ [] ∧ (disk.entryAt? p).isSome then return disk
  let real ← IO.FS.realPath path
  let target := placeOf real.toString
  if target ≠ p then
    let disk ← load disk real.toString
    return (addDirectories disk p.dropLast).put p (.link ⟨textOf target⟩)
  else if ← real.isDir then
    let mut disk := addDirectories disk p
    for entry in ← real.readDir do
      disk ← load disk (textOf (p ++ [Bytes.ofText entry.fileName]))
    return disk
  else
    let data ← IO.FS.readBinFile path
    return (addDirectories disk p.dropLast).put p (.file (bytesOf data))

/-- Takes in what is there; what cannot be read stays out. -/
def loadIfThere (disk : Disk) (path : String) : IO Disk := do
  try load disk path catch _ => return disk

/-- Paths from the root among the arguments, also attached to options. -/
def rootedArguments (arguments : List String) : List String :=
  arguments.filterMap fun a =>
    match a.toList.dropWhile (· ≠ '/') with
    | [] => none
    | rest => if rest.length = a.length ∨ a.toList.head? = some '-' then
      some (String.ofList rest) else none

/-- The rooted directories that the project's settings name. -/
def settingPaths (disk : Disk) (arguments : List String) : List String :=
  match CommandLine.Invocation.read arguments with
  | .error _ => []
  | .ok i =>
    match (Project.find disk i.globals.config).value with
    | .error _ => []
    | .ok p =>
      (p.root :: p.cachePath.parentDir :: p.settings.searchDirs p.root).filterMap fun dir =>
      if dir.isRooted then some dir.display else none

/-- The files that a run may look at. -/
def loadAll (here : String) (arguments : List String) : IO Disk := do
  let working := placeOf here
  let start : Disk := Disk.withWorking working
  let mut disk : Disk := { start with entries := start.entries.filter fun e => e.1 ≠ working }
  disk ← loadIfThere disk here
  for dir in Path.ancestors ⟨here⟩ do
    disk ← loadIfThere disk (Project.settingsIn dir).display
  for path in rootedArguments arguments do
    disk ← loadIfThere disk path
  for path in settingPaths disk arguments do
    disk ← loadIfThere disk path
  return disk

/-- Puts the entries that changed back. -/
def store (before after : Disk) : IO Unit := do
  for (p, entry) in after.entries do
    if before.entries.lookup p ≠ some entry then
      match entry with
      | .directory => IO.FS.createDirAll (textOf p)
      | .file data => IO.FS.writeBinFile (textOf p) ⟨data.toArray⟩
      | .link _ => pure ()
  for (p, entry) in before.entries do
    if entry ≠ .directory ∧ (after.entries.lookup p).isNone then IO.FS.removeFile (textOf p)

end ShaderBuild.Program

open ShaderBuild in
def main (arguments : List String) : IO UInt32 := do
  let here := (← IO.currentDir).toString
  let disk ← Program.loadAll here arguments
  let r := CommandLine.run ⟨disk, Toolbox.programs disk, ← IO.getEnv "KILN_LOG"⟩ arguments
  Program.store disk r.outcome.disk
  for record in r.records do
    IO.eprintln (CommandLine.recordLine record)
  IO.print r.outcome.output
  IO.eprint r.outcome.errors
  return r.outcome.code.toUInt32
