import ShaderBuild.Text.Lossy
import ShaderBuild.Text.Split

/-!
File paths as byte strings with `/` between their parts; they need not be texts. Two paths
name the same place when their components agree; the bytes of a path are kept as given.
-/

namespace ShaderBuild

structure Path where
  bytes : Bytes
  deriving DecidableEq, Repr, Inhabited

namespace Path

def slash : UInt8 := 0x2F

def dot : UInt8 := 0x2E

/-- The path as a text, if it is one. -/
def text? (p : Path) : Option String := Bytes.text? p.bytes

/-- The path as it is shown. -/
def display (p : Path) : String := Text.lossy p.bytes

inductive Component where
  | root
  /-- A `.` at the very start of a path that is not rooted. -/
  | here
  | up
  | name (s : Bytes)
  deriving DecidableEq, Repr

/-- A part of a path between slashes: a component, or a part that counts for nothing. -/
inductive Piece where
  | silent (s : Bytes)
  | part (c : Component)
  deriving DecidableEq, Repr

def Component.bytes : Component → Bytes
  | root => []
  | here => [dot]
  | up => [dot, dot]
  | name s => s

def Piece.bytes : Piece → Bytes
  | silent s => s
  | part c => c.bytes

def Piece.component? : Piece → Option Component
  | silent _ => none
  | part c => some c

def Piece.isSilent (p : Piece) : Bool := p.component?.isNone

/-- Empty parts and inner `.` parts are silent. -/
def Piece.ofBytes (s : Bytes) : Piece :=
  if s = [] ∨ s = [dot] then silent s
  else if s = [dot, dot] then part .up
  else part (.name s)

/-- The pieces of a path that is not rooted. Only its first part can be a `.` that counts. -/
def relativePieces : List Bytes → List Piece
  | [] => []
  | first :: rest =>
    (if first = [dot] then .part .here else Piece.ofBytes first) :: rest.map Piece.ofBytes

def piecesOf (b : Bytes) : List Piece :=
  if b.head? = some slash then
    .part .root :: (Text.splitOn slash b.tail).map Piece.ofBytes
  else relativePieces (Text.splitOn slash b)

def pieces (p : Path) : List Piece := piecesOf p.bytes

def ofPieces : List Piece → Path
  | [.part .root] => ⟨[slash]⟩
  | ps => ⟨Text.join slash (ps.map Piece.bytes)⟩

def components (p : Path) : List Component := p.pieces.filterMap Piece.component?

def ofComponents (cs : List Component) : Path := ofPieces (cs.map .part)

/-- Whether two paths have the same components. -/
def same (p q : Path) : Bool := p.components == q.components

def isRooted (p : Path) : Bool := p.bytes.head? == some slash

def empty : Path := ⟨[]⟩

/-- The path `q` seen from `p`: a rooted `q` stands for itself. -/
def join (p q : Path) : Path :=
  if q.isRooted then q
  else if p.bytes = [] ∨ p.bytes.getLast? = some slash then ⟨p.bytes ++ q.bytes⟩
  else ⟨p.bytes ++ slash :: q.bytes⟩

/-- The pieces from the end up to the last component, in reverse order. -/
def reversed (p : Path) : List Piece := p.pieces.reverse.dropWhile Piece.isSilent

/-- The path without its last component. The empty path and the root have no parent. -/
def parent? (p : Path) : Option Path :=
  match p.reversed with
  | [] => none
  | .part .root :: _ => none
  | _ :: rest => some (ofPieces (rest.dropWhile Piece.isSilent).reverse)

/-- The parent, or the empty path where there is none. -/
def parentDir (p : Path) : Path := p.parent?.getD empty

/-- The last component if it is a name. -/
def fileName? (p : Path) : Option Bytes :=
  match p.reversed with
  | .part (.name s) :: _ => some s
  | _ => none

/-- What follows the last dot of the file name, unless that dot starts the name. -/
def extension? (p : Path) : Option Bytes :=
  match p.fileName?.bind (Text.splitLast? dot) with
  | some (_ :: _, after) => some after
  | _ => none

/-- The path with `name` in place of its file name. -/
def withFileName (p : Path) (name : Bytes) : Path :=
  let base := if p.fileName?.isSome then p.parentDir else p
  base.join ⟨name⟩

/-! ## Lexical normal form -/

/-- One component after the components in `out`, which stand in reverse order. -/
def normalStep (out : List Component) : Component → List Component
  | .here => out
  | .up =>
    match out with
    | .name _ :: rest => rest
    | _ => .up :: out
  | c => c :: out

/-- Resolves `.` and `..` without looking at any file. -/
def normal (p : Path) : Path := ofComponents (p.components.foldl normalStep []).reverse

end Path

end ShaderBuild
