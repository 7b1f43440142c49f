import ShaderBuild.Files
import ShaderBuild.Trace

/-!
A file tree on disk with directories and symbolic links, and the operations on it that
the program uses. Paths are looked up from the root or from a working directory.
-/

namespace ShaderBuild

inductive DiskEntry where
  | file (data : Bytes)
  | directory
  | link (target : Path)
  deriving DecidableEq, Repr

/-- A place in the tree: the names on the way to it from the root. -/
abbrev Place := List Bytes

/-- Entries by place. The root itself is always a directory. -/
structure Disk where
  entries : List (Place × DiskEntry)
  working : Place
  deriving Repr

namespace Disk

def entryAt? (d : Disk) (p : Place) : Option DiskEntry :=
  if p = [] then some .directory else d.entries.lookup p

def put (d : Disk) (p : Place) (e : DiskEntry) : Disk :=
  { d with entries := d.entries.filter (fun x => x.1 ≠ p) ++ [(p, e)] }

def drop (d : Disk) (p : Place) : Disk := { d with entries := d.entries.filter fun x => x.1 ≠ p }

def pathOf (p : Place) : Path := ⟨Path.slash :: Text.join Path.slash p⟩

/-- The working directory's path from the root. -/
def workingPath (d : Disk) : Path := pathOf d.working

def maxLinks : Nat := 40
def maxName : Nat := 255
def maxPath : Nat := 4096

/-! ## Look-up -/

/-- Where a path leads. -/
inductive Target where
  | found (place : Place) (entry : DiskEntry)
  /-- A name that is free in a directory. A slash after it asks for a directory. -/
  | free (place : Place) (slash : Bool)
  deriving DecidableEq, Repr

/-- The parts of a path. A part that is empty stands for a slash at the end. -/
def parts (p : Path) : List Bytes :=
  let all := Text.splitOn Path.slash p.bytes
  all.dropLast.filter (· ≠ []) ++ (all.getLast?.toList)

/-- Follows parts from a directory. A link at the end is followed only if `follow` is set. -/
def walk (d : Disk) (follow : Bool) (links : Nat) (here : Place) (todo : List Bytes) :
    Except SystemError Target :=
  match todo with
  | [] => .ok (.found here .directory)
  | name :: rest =>
    if name = [] ∨ name = [Path.dot] then d.walk follow links here rest
    else if name = [Path.dot, Path.dot] then d.walk follow links here.dropLast rest
    else if maxName < name.length then .error .nameTooLong
    else
      let place := here ++ [name]
      match d.entryAt? place with
      | none =>
        if rest = [] then .ok (.free place false)
        else if rest = [[]] then .ok (.free place true)
        else .error .noEntry
      | some .directory => d.walk follow links place rest
      | some (.file data) =>
        if rest = [] then .ok (.found place (.file data)) else .error .notDirectory
      | some (.link target) =>
        if rest = [] ∧ !follow then .ok (.found place (.link target))
        else match links with
          | 0 => .error .linkLoop
          | links + 1 =>
            d.walk follow links (if target.isRooted then [] else here) (parts target ++ rest)
termination_by (links, todo.length)

def find (d : Disk) (follow : Bool) (p : Path) : Except SystemError Target :=
  if p.bytes.contains 0 then .error .zeroByte
  else if p.bytes = [] then .error .noEntry
  else if maxPath ≤ p.bytes.length then .error .nameTooLong
  else d.walk follow maxLinks (if p.isRooted then [] else d.working) (parts p)

/-- Where a path leads if its last part is not followed, whether slashes stand behind it or not. The
second value tells if any do. -/
def locate (d : Disk) (p : Path) : Except SystemError (Target × Bool) :=
  if p.bytes.contains 0 then .error .zeroByte
  else if p.bytes = [] then .error .noEntry
  else if maxPath ≤ p.bytes.length then .error .nameTooLong
  else
    let bare := ((parts p).reverse.dropWhile (· = [])).reverse
    (d.walk false maxLinks (if p.isRooted then [] else d.working) bare).map
      fun target => (target, (parts p).getLast? = some [])

def isFile (d : Disk) (p : Path) : Bool :=
  match d.find true p with
  | .ok (.found _ (.file _)) => true
  | _ => false

def isDirectory (d : Disk) (p : Path) : Bool :=
  match d.find true p with
  | .ok (.found _ .directory) => true
  | _ => false

/-- Makes a directory the working directory. -/
def enter (d : Disk) (p : Path) : Except SystemError Disk :=
  match d.find true p with
  | .error e => .error e
  | .ok (.found place .directory) => .ok { d with working := place }
  | .ok (.found _ _) => .error .notDirectory
  | .ok (.free _ _) => .error .noEntry

/-! ## Reading -/

def read (d : Disk) (p : Path) : Except SystemError Bytes :=
  match d.find true p with
  | .error e => .error e
  | .ok (.found _ (.file data)) => .ok data
  | .ok (.found _ .directory) => .error .isDirectory
  | .ok (.found _ (.link _)) => .error .linkLoop
  | .ok (.free _ _) => .error .noEntry

def readText (d : Disk) (p : Path) : Except SystemError String :=
  match d.read p with
  | .error e => .error e
  | .ok data =>
    match Bytes.text? data with
    | some s => .ok s
    | none => .error .notText

def canonical? (d : Disk) (p : Path) : Option Path :=
  match d.find true p with
  | .ok (.found place _) => some (pathOf place)
  | _ => none

def files (d : Disk) : Files where
  read p := (d.read p).mapError .system
  canonical? := d.canonical?

/-! ## Writing -/

/-- Writes a file, new or over an old one. -/
def write (d : Disk) (p : Path) (data : Bytes) : Except SystemError Disk :=
  match d.locate p, d.find true p with
  | .error e, _ => .error e
  | .ok (_, true), _ => .error .isDirectory
  | _, .error e => .error e
  | _, .ok (.found _ .directory) => .error .isDirectory
  | _, .ok (.found place _) => .ok (d.put place (.file data))
  | _, .ok (.free place slash) =>
    if slash then .error .isDirectory else .ok (d.put place (.file data))

def makeDirectory (d : Disk) (p : Path) : Except SystemError Disk :=
  match d.locate p with
  | .error e => .error e
  | .ok (.found _ _, _) => .error .alreadyExists
  | .ok (.free place _, _) => .ok (d.put place .directory)

/-- Creates a directory with all directories on the way to it. -/
def makeDirectories (d : Disk) (p : Path) : Except SystemError Disk :=
  go (p.bytes.length + 1) d p
where
  go : (fuel : Nat) → Disk → Path → Except SystemError Disk
    | 0, d, _ => .ok d
    | fuel + 1, d, p =>
      if p.components = [] then .ok d
      else match d.makeDirectory p with
        | .ok d => .ok d
        | .error .noEntry =>
          match p.parent? with
          | none => .error .noEntry
          | some parent =>
            match go fuel d parent with
            | .error e => .error e
            | .ok d =>
              match d.makeDirectory p with
              | .ok d => .ok d
              | .error e => if d.isDirectory p then .ok d else .error e
        | .error e => if d.isDirectory p then .ok d else .error e

/-- Removes a file or a link. -/
def remove (d : Disk) (p : Path) : Except SystemError Disk :=
  match d.locate p with
  | .error e => .error e
  | .ok (.free _ _, _) => .error .noEntry
  | .ok (.found _ .directory, _) => .error .isDirectory
  | .ok (.found place _, slash) => if slash then .error .notDirectory else .ok (d.drop place)

/-- Puts a finished file in the place of whatever file or link is at the path. -/
def replace (d : Disk) (p : Path) (data : Bytes) : Except SystemError Disk :=
  let last := (parts p).reverse.dropWhile (· = [])
  if p.bytes.contains 0 then .error .invalidArgument
  else if p.bytes ≠ [] ∧ (last = [] ∨ last.head? = some [Path.dot] ∨
      last.head? = some [Path.dot, Path.dot]) then
    .error .busy
  else match d.locate p with
    | .error e => .error e
    | .ok (_, true) => .error .notDirectory
    | .ok (.found _ .directory, _) => .error .isDirectory
    | .ok (.found place _, _) => .ok (d.put place (.file data))
    | .ok (.free place _, _) => .ok (d.put place (.file data))

/-- Makes a link at a path that is free. -/
def makeLink (d : Disk) (p target : Path) : Except SystemError Disk :=
  match d.locate p with
  | .error e => .error e
  | .ok (.found _ _, _) => .error .alreadyExists
  | .ok (.free place _, slash) =>
    if slash then .error .noEntry else .ok (d.put place (.link target))

/-! ## Changes by other programs -/

def change (d : Disk) : DiskChange → Except SystemError Disk
  | .makeDirectory p => d.makeDirectory p
  | .makeLink p target => d.makeLink p target

/-- The disk after changes that programs made. One that is not possible any more is left out. -/
def changedBy (d : Disk) (changes : List DiskChange) : Disk :=
  changes.foldl (fun d c => (d.change c).toOption.getD d) d

/-- An empty disk but for a working directory. -/
def withWorking (p : Place) : Disk :=
  ⟨(List.range p.length).map fun n => (p.take (n + 1), .directory), p⟩

/-- The files and links below a place, as paths from there in ascending order. -/
def below (d : Disk) (p : Place) : List String :=
  let names := d.entries.filterMap fun (place, entry) =>
    if entry ≠ .directory ∧ p.isPrefixOf place ∧ p.length < place.length then
      some (Path.display ⟨Text.join Path.slash (place.drop p.length)⟩)
    else none
  names.mergeSort fun a b => decide (a ≤ b)

end Disk

end ShaderBuild
