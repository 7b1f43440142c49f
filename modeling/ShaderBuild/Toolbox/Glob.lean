import ShaderBuild.Bytes

/-!
Patterns for whole texts in which a star stands for any text and a question mark for any byte.
-/

namespace ShaderBuild.Toolbox

inductive Glob where
  | anyText
  | anyByte
  | byte (x : UInt8)
  deriving DecidableEq, Repr

namespace Glob

def accepts : List Glob → Bytes → Bool
  | [], b => b.isEmpty
  | byte x :: gs, y :: b => x == y && accepts gs b
  | anyByte :: gs, _ :: b => accepts gs b
  | anyText :: gs, y :: b => accepts gs (y :: b) || accepts (anyText :: gs) b
  | anyText :: gs, [] => accepts gs []
  | _ :: _, [] => false
termination_by gs b => gs.length + b.length

def ofText (b : Bytes) : List Glob := b.map byte

/-- Reads one pattern up to a bar or a bracket. What is in quotes stands for itself. -/
def read? (quote : Option Char) : List Char → Option (List Glob × List Char)
  | [] => none
  | '\\' :: c :: rest =>
    if quote = some '\'' then (read? quote (c :: rest)).map fun (gs, rest) => (byte 92 :: gs, rest)
    else (read? quote rest).map fun (gs, rest) =>
      (ofText (Bytes.ofText (String.ofList [c])) ++ gs, rest)
  | c :: rest =>
    let more (gs : List Glob) : Option (List Glob × List Char) :=
      (read? quote rest).map fun (found, rest) => (gs ++ found, rest)
    let itself := ofText (Bytes.ofText (String.ofList [c]))
    if quote = some c then read? none rest
    else if quote.isSome then more itself
    else if c = '\'' ∨ c = '"' then read? (some c) rest
    else if c = ' ' ∨ c = '\t' then more []
    else if c = '|' ∨ c = ')' then some ([], c :: rest)
    else if c = '*' then more [anyText]
    else if c = '?' then more [anyByte]
    else more itself
termination_by cs => cs.length

/-- Reads the patterns in front of a closing bracket, and the bracket. -/
def readAll? : (fuel : Nat) → List Char → Option (List (List Glob) × List Char)
  | 0, _ => none
  | fuel + 1, cs =>
    match read? none cs with
    | some (g, '|' :: rest) => (readAll? fuel rest).map fun (gs, rest) => (g :: gs, rest)
    | some (g, _ :: rest) => some ([g], rest)
    | _ => none

end Glob

end ShaderBuild.Toolbox
