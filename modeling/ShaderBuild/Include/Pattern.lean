import ShaderBuild.Text.WordCharacter

/-!
Regular expressions over characters and their search in a text. A position in a text is
the number of characters before it; sets of positions are lists in descending order.
-/

namespace ShaderBuild

/-- How a position stands to the words of a text. -/
inductive WordEdge where
  | boundary
  | noBoundary
  | wordStart
  | wordEnd
  | noneBefore
  | noneAfter
  deriving DecidableEq, Repr

/-- A condition on a position that takes up no text. -/
inductive Anchor where
  | textStart
  | textEnd
  | lineStart
  | lineEnd
  /-- The start of a line where a carriage return, a line feed or both together end a line. -/
  | returnLineStart
  | returnLineEnd
  | word (edge : WordEdge) (ascii : Bool)
  deriving DecidableEq, Repr

inductive Regex where
  | empty
  | literal (cs : List Char)
  /-- One character of the set, which may have been written for ASCII alone. -/
  | set (s : CharSet) (ascii : Bool)
  | anchor (a : Anchor)
  | group (index : Nat) (r : Regex)
  | seq (rs : List Regex)
  | either (rs : List Regex)
  /-- At least `least` times and, where there is a bound, at most `most` times. -/
  | times (r : Regex) (least : Nat) (most : Option Nat) (greedy : Bool)

namespace Anchor

def isWord (ascii : Bool) (c : Char) : Bool :=
  (!ascii || c.toNat < 0x80) && Text.wordCharacters.contains c

def wordAt (ascii : Bool) (text : Array Char) (i : Nat) : Bool :=
  (text[i]?.map (isWord ascii)).getD false

def wordBefore (ascii : Bool) (text : Array Char) : Nat → Bool
  | 0 => false
  | i + 1 => wordAt ascii text i

def before? (text : Array Char) : Nat → Option Char
  | 0 => none
  | i + 1 => text[i]?

def holds (text : Array Char) (i : Nat) : Anchor → Bool
  | textStart => i == 0
  | textEnd => i == text.size
  | lineStart => i == 0 || before? text i == some '\n'
  | lineEnd => i == text.size || text[i]? == some '\n'
  | returnLineStart =>
    i == 0 || before? text i == some '\n' || (before? text i == some '\r' && text[i]? != some '\n')
  | returnLineEnd =>
    i == text.size || text[i]? ==
      some '\r' || (text[i]? == some '\n' && before? text i != some '\r')
  | word edge ascii =>
    let earlier := wordBefore ascii text i
    let later := wordAt ascii text i
    match edge with
    | .boundary => earlier != later
    | .noBoundary => earlier == later
    | .wordStart => !earlier && later
    | .wordEnd => earlier && !later
    | .noneBefore => !earlier
    | .noneAfter => !later

end Anchor

namespace Regex

/-! ## Sets of positions -/

/-- The positions in either list. -/
def union : List Nat → List Nat → List Nat
  | [], ys => ys
  | xs, [] => xs
  | x :: xs, y :: ys =>
    if x = y then x :: union xs ys
    else if y < x then x :: union xs (y :: ys)
    else y :: union (x :: xs) ys
termination_by xs ys => xs.length + ys.length

/-- The positions in the first list that are not in the second. -/
def without : List Nat → List Nat → List Nat
  | [], _ => []
  | xs, [] => xs
  | x :: xs, y :: ys =>
    if x = y then without xs ys
    else if y < x then x :: without xs (y :: ys)
    else without (x :: xs) ys
termination_by xs ys => xs.length + ys.length

/-- The positions after exactly `n` steps. -/
def afterSteps (step : List Nat → List Nat) : (n : Nat) → List Nat → List Nat
  | 0, starts => starts
  | n + 1, starts =>
    let next := step starts
    if next = starts then starts else afterSteps step n next

/-- The positions found so far and those that at most `n` more steps lead to from the newest of
them. -/
def reach (step : List Nat → List Nat) : (n : Nat) → (found newest : List Nat) → List Nat
  | 0, found, _ => found
  | n + 1, found, newest =>
    match without (step newest) found with
    | [] => found
    | fresh => reach step n (union fresh found) fresh

/-! ## Search -/

def literalAt (text : Array Char) : (i : Nat) → List Char → Bool
  | _, [] => true
  | i, c :: cs => text[i]? == some c && literalAt text (i + 1) cs

mutual

/-- The positions where a match ends that starts at one of `starts`. More repetitions than the text
has positions lead to no others. -/
def ends (text : Array Char) : Regex → (starts : List Nat) → List Nat
  | empty, starts => starts
  | literal cs, starts =>
    let n := cs.length
    starts.filterMap fun i => if literalAt text i cs then some (i + n) else none
  | set s _, starts => starts.filterMap fun i =>
      match text[i]? with
      | some c => if s.contains c then some (i + 1) else none
      | none => none
  | anchor a, starts => starts.filter fun i => a.holds text i
  | group _ r, starts => ends text r starts
  | seq rs, starts => endsOfAll text rs starts
  | either rs, starts => endsOfAny text rs starts
  | times r least most _, starts =>
    let first := afterSteps (ends text r) least starts
    let extra := match most with
      | some m => m - least
      | none => text.size + 1
    reach (ends text r) extra first first

def endsOfAll (text : Array Char) : List Regex → (starts : List Nat) → List Nat
  | [], starts => starts
  | r :: rs, starts => endsOfAll text rs (ends text r starts)

def endsOfAny (text : Array Char) : List Regex → (starts : List Nat) → List Nat
  | [], _ => []
  | r :: rs, starts => union (ends text r starts) (endsOfAny text rs starts)

end

end Regex

/-- An expression searched for anywhere in a text. -/
structure Pattern where
  regex : Regex

namespace Pattern

/-- Whether the expression matches some part of the text. -/
def accepts (p : Pattern) (name : String) : Bool :=
  let text := name.toList.toArray
  !(p.regex.ends text (List.range (text.size + 1)).reverse).isEmpty

/-- The pattern for texts that match `r` from their first to their last character. -/
def whole (r : Regex) : Pattern := ⟨.seq [.anchor .textStart, r, .anchor .textEnd]⟩

/-- The pattern for exactly one text. -/
def exactly (s : String) : Pattern := whole (.literal s.toList)

end Pattern

end ShaderBuild
