import Std.Data.HashMap
import ShaderBuild.Include.Pattern.Footprint
import ShaderBuild.Text.ByteRange

/-!
The states for one character of a set. The bytes of the characters are read one after the
other, and states that do the same are shared as far as a table of fixed size remembers them.
-/

namespace ShaderBuild.Regex

/-- The states laid out so far and, by slot of the table, the newest state there with what it
does. -/
structure Shared where
  footprint : Footprint
  table : Std.HashMap Nat (List Nat × Nat)

namespace Shared

def ofFootprint (f : Footprint) : Shared := ⟨f, ∅⟩

def mix (h : UInt64) (n : Nat) : UInt64 := (h ^^^ n.toUInt64) * 1099511628211

/-- The slot of what a state does, given by numbers. -/
def slot (size : Nat) (key : List Nat) : Nat := (key.foldl mix 14695981039346656037).toNat % size

/-- The state remembered for `key`. -/
def known? (place : Nat) (key : List Nat) (s : Shared) : Option Nat :=
  match s.table[place]? with
  | some (known, id) => if known = key then some id else none
  | none => none

/-- The state that does what `key` says: the remembered one or a new one with `extra` bytes. -/
def state (size : Nat) (key : List Nat) (extra : Nat) (s : Shared) : Option (Nat × Shared) :=
  let place := slot size key
  match s.known? place key with
  | some id => some (id, s)
  | none =>
    let ⟨footprint, table⟩ := s
    (footprint.add 1 extra).map fun f =>
      (footprint.states, ⟨f, table.insert place (key, footprint.states)⟩)

end Shared

/-! ## Forwards -/

/-- The bytes of a transition of a state that has several. -/
def transitionBytes : Nat := 8

def forwardSlots : Nat := 10000

/-- The state that reads one of the sequences, all of `depth` bytes or fewer, and then goes on to
`target`. -/
def readForward (target : Nat) :
    (depth : Nat) → List (List ByteRange) → Shared → Option (Nat × Shared)
  | 0, _, s => some (target, s)
  | depth + 1, sequences, s =>
    if sequences.all List.isEmpty then some (target, s)
    else do
      let groups := sequences.splitBy fun a b => a.head? == b.head?
      let (transitions, s) ← groups.foldlM (fun (transitions, s) group => do
        let (next, s) ← readForward target depth (group.map List.tail) s
        match group.head?.bind List.head? with
        | some (low, high) => return ([low, high, next] :: transitions, s)
        | none => return (transitions, s)) (([] : List (List Nat)), s)
      s.state forwardSlots transitions.reverse.flatten (transitionBytes * groups.length)

/-! ## Backwards -/

def backwardSlots : Nat := 1000

/-- The state that reads a sequence from its last byte to its first; `next` comes after it. -/
def readBackward : (next : Nat) → List ByteRange → Shared → Option (Nat × Shared)
  | next, [], s => some (next, s)
  | next, (low, high) :: rest, s => do
    let (next, s) ← s.state backwardSlots [next, low, high] 0
    readBackward next rest s

/-! ## Both -/

/-- A set of ASCII characters is one state. -/
def laySet (backwards : Bool) (set : CharSet) (f : Footprint) : Option Laid := do
  if set.isAscii then
    return .plain (← f.add 2 (transitionBytes * set.ranges.length))
  else if backwards then
    let f ← f.add 2 0
    let last := f.states - 1
    let s ← (ByteRange.sequences set).foldlM (fun s sequence => do
      let (_, s) ← readBackward last sequence s
      return { s with footprint := ← s.footprint.add 0 Laid.linkBytes }) (Shared.ofFootprint f)
    return .plain s.footprint
  else
    let target := f.states
    let f ← f.add 1 0
    let (_, s) ← readForward target 4 (ByteRange.sequences set) (.ofFootprint f)
    return .plain s.footprint

end ShaderBuild.Regex
