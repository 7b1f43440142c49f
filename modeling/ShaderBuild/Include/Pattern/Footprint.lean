import ShaderBuild.Include.Pattern

/-!
How much room the states of an automaton take: their number, and the bytes that transitions
and alternatives add to it. An automaton must fit into a fixed number of bytes.
-/

namespace ShaderBuild.Regex

structure Footprint where
  states : Nat
  /-- The bytes beside those of fixed size that each state takes. -/
  extra : Nat
  deriving DecidableEq, Repr

namespace Footprint

def none : Footprint := ⟨0, 0⟩

def bytes (f : Footprint) : Nat := 32 * f.states + f.extra

def maxBytes : Nat := 10485760

/-- Adds states and bytes as long as they fit. -/
def add (f : Footprint) (states extra : Nat) : Option Footprint :=
  let f := ⟨f.states + states, f.extra + extra⟩
  if f.bytes ≤ maxBytes then some f else .none

end Footprint

/-- The footprint after an expression has been laid out, and whether its last state is a fork. What
follows a fork is one more alternative of it. -/
structure Laid where
  footprint : Footprint
  fork : Bool

namespace Laid

/-- The bytes of an alternative or of a link back from a fork. -/
def linkBytes : Nat := 4

/-- Connects the last state with another one. -/
def link (l : Laid) : Option Footprint :=
  if l.fork then l.footprint.add 0 linkBytes else some l.footprint

def plain (f : Footprint) : Laid := ⟨f, false⟩

end Laid

/-! ## Repetition -/

/-- Copies one behind the other; no copy at all takes an empty state. -/
def layCopies (lay : Footprint → Option Laid) : Nat → Footprint → Option Laid
  | 0, f => (f.add 1 0).map Laid.plain
  | 1, f => lay f
  | n + 2, f => do
    let laid ← lay f
    let f ← laid.link
    layCopies lay (n + 1) f

/-- Copies that may each be the last: a fork before each leads past all that follow. -/
def layOptionalCopies (lay : Footprint → Option Laid) : Nat → Laid → Option Laid
  | 0, laid => some laid
  | n + 1, laid => do
    let f ← laid.link
    let f ← f.add 1 (2 * Laid.linkBytes)
    let laid ← lay f
    layOptionalCopies lay n laid

/-- A repetition of an expression, which is told by `takesText` to have no empty match. -/
def layTimes (lay : Footprint → Option Laid) (takesText : Bool) (least : Nat) (most : Option Nat)
    (f : Footprint) : Option Laid :=
  match least, most with
  | 0, some 1 => do
    let f ← f.add 1 0
    let f ← (← lay f).link
    return .plain (← f.add 1 (2 * Laid.linkBytes))
  | least, some most =>
    if least = most then layCopies lay least f
    else do
      let laid ← layCopies lay least f
      let f ← laid.footprint.add 1 0
      let laid ← layOptionalCopies lay (most - least) ⟨f, laid.fork⟩
      return .plain (← laid.link)
  | 0, none =>
    if takesText then do
      let f ← f.add 1 Laid.linkBytes
      return ⟨← (← lay f).link, true⟩
    else do
      let f ← (← lay f).link
      return .plain (← f.add 3 (4 * Laid.linkBytes))
  | least, none => do
    let f ← (← layCopies lay least f).link
    return ⟨← f.add 1 Laid.linkBytes, true⟩

end ShaderBuild.Regex
