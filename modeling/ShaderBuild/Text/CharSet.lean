/-!
Sets of characters as lists of ranges, and their algebra. The successor of the last code
point before the surrogates is the first one after them.
-/

namespace ShaderBuild

/-- Ranges of code points in ascending order, none of which overlaps or touches the next. -/
structure CharSet where
  ranges : List (Nat × Nat)
  deriving DecidableEq, Repr

namespace CharSet

def empty : CharSet := ⟨[]⟩

def ofRange (first last : Nat) : CharSet := ⟨[(first, last)]⟩

def ofChar (c : Char) : CharSet := ofRange c.toNat c.toNat

def maxCode : Nat := 0x10FFFF

/-- All characters. -/
def full : CharSet := ofRange 0 maxCode

/-! ## Membership -/

def within (n : Nat) : List (Nat × Nat) → Bool
  | [] => false
  | (first, last) :: rest => if n < first then false else n ≤ last || within n rest

def containsCode (s : CharSet) (n : Nat) : Bool := within n s.ranges

def contains (s : CharSet) (c : Char) : Bool := s.containsCode c.toNat

/-- The one character of a set that has no other. -/
def single? (s : CharSet) : Option Char :=
  match s.ranges with
  | [(first, last)] => if first = last then some (Char.ofNat first) else none
  | _ => none

def isAscii (s : CharSet) : Bool := s.ranges.all fun r => r.2 < 0x80

/-! ## Union -/

def insertRange (first last : Nat) : List (Nat × Nat) → List (Nat × Nat)
  | [] => [(first, last)]
  | (a, b) :: rest =>
    if last + 1 < a then (first, last) :: (a, b) :: rest
    else if b + 1 < first then (a, b) :: insertRange first last rest
    else insertRange (min first a) (max last b) rest

def insert (s : CharSet) (first last : Nat) : CharSet := ⟨insertRange first last s.ranges⟩

def union (s t : CharSet) : CharSet := t.ranges.foldl (fun acc r => acc.insert r.1 r.2) s

/-! ## Complement and difference -/

def after (n : Nat) : Nat := if n = 0xD7FF then 0xE000 else n + 1

def before (n : Nat) : Nat := if n = 0xE000 then 0xD7FF else n - 1

/-- What lies between the ranges and behind them. Two ranges that meet at the surrogates have their
two inner bounds between them. -/
def gapsAfter (last : Nat) : List (Nat × Nat) → List (Nat × Nat)
  | [] => if last < maxCode then [(after last, maxCode)] else []
  | (a, b) :: rest => (min (after last) (before a), max (after last) (before a)) :: gapsAfter b rest

def complement (s : CharSet) : CharSet :=
  match s.ranges with
  | [] => full
  | (a, b) :: rest => ⟨(if 0 < a then [(0, before a)] else []) ++ gapsAfter b rest⟩

def cutRange (first last : Nat) : List (Nat × Nat) → List (Nat × Nat)
  | [] => [(first, last)]
  | (a, b) :: rest =>
    if b < first then cutRange first last rest
    else if last < a then [(first, last)]
    else
      let left := if first < a then [(first, before a)] else []
      if b < last then left ++ cutRange (after b) last rest else left

def difference (s t : CharSet) : CharSet := ⟨s.ranges.flatMap fun r => cutRange r.1 r.2 t.ranges⟩

def keepRange (first last : Nat) : List (Nat × Nat) → List (Nat × Nat)
  | [] => []
  | (a, b) :: rest =>
    if b < first then keepRange first last rest
    else if last < a then []
    else (max first a, min last b) :: keepRange first last rest

def intersection (s t : CharSet) : CharSet := ⟨s.ranges.flatMap fun r => keepRange r.1 r.2 t.ranges⟩

def symmetricDifference (s t : CharSet) : CharSet := (s.union t).difference (s.intersection t)

end CharSet

end ShaderBuild
