import ShaderBuild.Include.Pattern.Escape

/-!
Character classes in brackets: characters, ranges, named classes, nested brackets and set
operations, which bind from left to right.
-/

namespace ShaderBuild.Regex

inductive SetOperation where
  | intersection
  | difference
  | symmetricDifference
  deriving DecidableEq, Repr

def SetOperation.apply : SetOperation → CharSet → CharSet → CharSet
  | intersection, s, t => s.intersection t
  | difference, s, t => s.difference t
  | symmetricDifference, s, t => s.symmetricDifference t

/-- The left side of a pending operation. -/
structure LeftSide where
  chars : CharSet
  depth : Nat
  operation : SetOperation

/-- An open bracket: what has been read since the last set operation, in how many items, and how
deep these nest. -/
structure Bracket where
  negated : Bool
  left : Option LeftSide
  items : CharSet
  count : Nat
  depth : Nat

namespace Bracket

/-- Expressions and classes may nest so deep. -/
def maxDepth : Nat := 250

def add (b : Bracket) (s : CharSet) (depth : Nat) : Bracket :=
  { b with items := b.items.union s, count := b.count + 1, depth := max b.depth depth }

/-- The set read so far and how deep it nests: several items nest one deeper than each of them, and
so do the two sides of an operation. -/
def value (flags : Flags) (b : Bracket) : CharSet × Nat :=
  let depth := if b.count ≤ 1 then b.depth else b.depth + 1
  let right := folded flags b.items
  match b.left with
  | some l => (folded flags (l.operation.apply l.chars right), max l.depth depth + 1)
  | none => (right, depth)

def operate (flags : Flags) (b : Bracket) (operation : SetOperation) : Bracket :=
  let (chars, depth) := b.value flags
  ⟨b.negated, some ⟨chars, depth, operation⟩, .empty, 0, 0⟩

/-- The set of a bracket that ends here. -/
def close? (flags : Flags) (b : Bracket) : Option (CharSet × Nat) :=
  let (chars, depth) := b.value flags
  (checked? flags (if b.negated then chars.complement else chars)).map (·, depth + 1)

end Bracket

/-! ## Parts -/

/-- Hyphens right after the opening stand for themselves. -/
def leadingHyphens (flags : Flags) (b : Bracket) (cs : List Char) : Bracket × List Char :=
  let (hyphens, rest) := spacedSpan flags (· == '-') cs
  (hyphens.foldl (fun b c => b.add (.ofChar c) 0) b, rest)

/-- Reads what follows an opening bracket: a caret that negates the class, and hyphens or else a
closing bracket that stand for themselves. -/
def openBracket (flags : Flags) (cs : List Char) : Bracket × List Char :=
  let (negated, rest) := match skip flags cs with
    | '^' :: rest => (true, skip flags rest)
    | rest => (false, rest)
  let (b, rest) := leadingHyphens flags ⟨negated, none, .empty, 0, 0⟩ rest
  match b.count, rest with
  | 0, ']' :: rest => (b.add (.ofChar ']') 0, rest)
  | _, rest => (b, rest)

/-- A class name between colons and brackets. -/
def bracketName? (flags : Flags) (rest : List Char) : Option (Option CharSet × List Char) :=
  match rest with
  | ':' :: body =>
    let (negated, body) := match body with
      | '^' :: body => (true, body)
      | body => (false, body)
    match body.dropWhile (· ≠ ':') with
    | ':' :: ']' :: after =>
      (namedClass? (String.ofList (body.takeWhile (· ≠ ':')))).map fun s =>
        let s := folded flags s
        (checked? flags (if negated then s.complement else s), after)
    | _ => none
  | _ => none

/-- One character or escape inside a class. -/
def classItem? (properties : Text.Properties) (flags : Flags) :
    List Char → Option (Escape × List Char)
  | '\\' :: rest =>
    match escape? properties flags rest with
    | some (.anchor _, _) => none
    | other => other
  | c :: rest => some (.char c false, rest)
  | [] => none

/-- The character after a hyphen, past blanks and, as far as their first character, comments. -/
def peekAfter (flags : Flags) (rest : List Char) : Option Char :=
  if !flags.verbose then rest.head?
  else
    match rest.dropWhile Text.isBlank with
    | [] => rest.head?
    | '#' :: comment => (comment.dropWhile Text.isBlank).head? <|> rest.head?
    | c :: _ => some c

/-- A character, an escape or a range of characters inside a class. -/
def classRange? (properties : Text.Properties) (flags : Flags) (cs : List Char) :
    Option (CharSet × List Char) := do
  let (first, rest) ← classItem? properties flags cs
  let single : Option (CharSet × List Char) := match first with
    | .char c _ => (checked? flags (.ofChar c)).map (·, rest)
    | .set s => some (s, rest)
    | .anchor _ => none
  match skip flags rest with
  | [] => none
  | '-' :: after =>
    if peekAfter flags after = some ']' ∨ peekAfter flags after = some '-' then single
    else
      let (last, rest) ← classItem? properties flags (skip flags after)
      match first, last with
      | .char c _, .char d _ =>
        if c ≤ d then (checked? flags (.ofRange c.toNat d.toNat)).map (·, rest) else none
      | _, _ => none
  | _ => single

/-! ## Whole classes -/

/-- Reads on in the innermost bracket `b` inside of the brackets `outer`. -/
def readBrackets? (properties : Text.Properties) (flags : Flags) :
    (fuel : Nat) → (b : Bracket) → (outer : List Bracket) → List Char →
      Option ((CharSet × Nat) × List Char)
  | 0, _, _, _ => none
  | fuel + 1, b, outer, cs =>
    match skip flags cs with
    | [] => none
    | ']' :: rest =>
      match b.close? flags, outer with
      | none, _ => none
      | some result, [] => some (result, rest)
      | some (chars, depth), around :: outer =>
        readBrackets? properties flags fuel (around.add chars depth) outer rest
    | '[' :: rest =>
      match bracketName? flags rest with
      | some (some s, rest) => readBrackets? properties flags fuel (b.add s 0) outer rest
      | some (none, _) => none
      | none =>
        if outer.length < Bracket.maxDepth then
          let (inner, rest) := openBracket flags rest
          readBrackets? properties flags fuel inner (b :: outer) rest
        else none
    | '&' :: '&' :: rest =>
      readBrackets? properties flags fuel (b.operate flags .intersection) outer rest
    | '-' :: '-' :: rest =>
      readBrackets? properties flags fuel (b.operate flags .difference) outer rest
    | '~' :: '~' :: rest =>
      readBrackets? properties flags fuel (b.operate flags .symmetricDifference) outer rest
    | cs =>
      match classRange? properties flags cs with
      | some (s, rest) => readBrackets? properties flags fuel (b.add s 0) outer rest
      | none => none

/-- The set in brackets, of which the first has been read, and how deep they nest. -/
def bracket? (properties : Text.Properties) (flags : Flags) (cs : List Char) :
    Option ((CharSet × Nat) × List Char) :=
  let (b, rest) := openBracket flags cs
  readBrackets? properties flags (cs.length + 1) b [] rest

end ShaderBuild.Regex
