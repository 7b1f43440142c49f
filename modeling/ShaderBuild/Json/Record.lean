import ShaderBuild.Json.Reader

/-!
Reading JSON arrays and records. A record is an object with named members or an array of
its members in order.
-/

namespace ShaderBuild.Json

/-! ## Values passed over -/

/-- What encloses a value that is passed over. -/
inductive Enclosing where
  | array
  | object
  deriving DecidableEq, Repr

/-- The name of a member and the colon after it. -/
def skipName (cs : List Char) : Except Fault (List Char) :=
  match dropBlanks cs with
  | [] => .error .endOfText
  | '"' :: rest =>
    match skipString rest with
    | .error e => .error e
    | .ok rest =>
      match dropBlanks rest with
      | [] => .error .endOfText
      | ':' :: rest => .ok rest
      | _ => .error .badText
  | _ => .error .badText

/-- Passes over a word, a string or a number. -/
def skipScalar : List Char → Except Fault (List Char)
  | [] => .error .endOfText
  | 'n' :: rest => (letters "ull".toList rest).map Prod.snd
  | 't' :: rest => (letters "rue".toList rest).map Prod.snd
  | 'f' :: rest => (letters "alse".toList rest).map Prod.snd
  | '"' :: rest => skipString rest
  | c :: rest => if c = '-' ∨ c.isDigit then skipNumber (c :: rest) else .error .badText

/-- Passes over what is left of the values around a place in the text, before a value or behind
one. -/
def skipFrom :
    (fuel : Nat) → (behind : Bool) → List Enclosing → List Char → Except Fault (List Char)
  | 0, _, _, _ => .error .endOfText
  | _, true, [], cs => .ok cs
  | fuel + 1, true, e :: around, cs =>
    match dropBlanks cs, e with
    | [], _ => .error .endOfText
    | ',' :: rest, .array => skipFrom fuel false (.array :: around) rest
    | ',' :: rest, .object =>
      match skipName rest with
      | .ok rest => skipFrom fuel false (.object :: around) rest
      | .error e => .error e
    | ']' :: rest, .array => skipFrom fuel true around rest
    | '\x7d' :: rest, .object => skipFrom fuel true around rest
    | _, _ => .error .badText
  | fuel + 1, false, around, cs =>
    match dropBlanks cs with
    | '[' :: rest =>
      match dropBlanks rest with
      | [] => .error .endOfText
      | ']' :: rest => skipFrom fuel true around rest
      | rest => skipFrom fuel false (.array :: around) rest
    | '\x7b' :: rest =>
      match dropBlanks rest with
      | [] => .error .endOfText
      | '\x7d' :: rest => skipFrom fuel true around rest
      | rest =>
        match skipName rest with
        | .ok rest => skipFrom fuel false (.object :: around) rest
        | .error e => .error e
    | cs =>
      match skipScalar cs with
      | .ok rest => skipFrom fuel true around rest
      | .error e => .error e

/-- Passes over a value, of whatever kind, in a text of at most `length` characters. -/
def skip (length : Nat) (cs : List Char) : Except Fault (List Char) :=
  skipFrom (2 * length + 2) false [] cs

/-! ## Arrays -/

/-- The items of an array from `first` on, up to its closing bracket. -/
def items {α : Type} (item : Reader α) : (fuel : Nat) → (first : Bool) → Reader (List α)
  | 0, _, _ => .error .endOfText
  | fuel + 1, first, cs =>
    let next (cs : List Char) : Except Fault (List α × List Char) :=
      match item cs with
      | .error e => .error e
      | .ok (a, rest) => (items item fuel false rest).map fun (as, rest) => (a :: as, rest)
    match dropBlanks cs with
    | [] => .error .endOfText
    | ']' :: rest => .ok ([], rest)
    | c :: rest =>
      if first then next (c :: rest)
      else if c = ',' then
        match dropBlanks rest with
        | [] => .error .endOfText
        | ']' :: _ => .error .badText
        | rest => next rest
      else .error .badText

/-- Reads an array. `fuel` is at least the number of characters in the text. -/
def readArray {α : Type} (fuel : Nat) (item : Reader α) : Reader (List α) := fun cs =>
  match dropBlanks cs with
  | '[' :: rest => items item fuel true rest
  | cs => .error (mismatch cs)

/-! ## Records -/

/-- What a record that has been read up to some point does with a member. -/
inductive Slot (σ : Type) where
  | unknown
  /-- The member was there before. -/
  | taken
  | value (read : Reader σ)

/-- A slot for a member that may be given once. -/
def Slot.once {σ α : Type} (old : Option α) (read : Reader α) (put : α → σ) : Slot σ :=
  if old.isSome then .taken else .value (put <$> read)

/-- The members of an object, up to its closing brace. `fuel` is more than the number of characters
in the text. -/
def members {σ : Type} (slot : String → σ → Slot σ) : (fuel : Nat) → (first : Bool) → σ → Reader σ
  | 0, _, _, _ => .error .endOfText
  | fuel + 1, first, s, cs =>
    let value (read : Reader σ) (cs : List Char) : Except Fault (σ × List Char) :=
      match dropBlanks cs with
      | [] => .error .endOfText
      | ':' :: rest =>
        match read rest with
        | .error e => .error e
        | .ok (s, rest) => members slot fuel false s rest
      | _ => .error .badText
    let member (cs : List Char) : Except Fault (σ × List Char) :=
      match stringRest [] cs with
      | .error e => .error e
      | .ok (name, rest) =>
        match slot (String.ofList name) s with
        | .taken => .error .badData
        | .unknown => value (fun cs => (skip fuel cs).map fun rest => (s, rest)) rest
        | .value read => value read rest
    match dropBlanks cs with
    | [] => .error .endOfText
    | '\x7d' :: rest => .ok (s, rest)
    | c :: rest =>
      if first then
        if c = '"' then member rest else .error .badText
      else if c = ',' then
        match dropBlanks rest with
        | [] => .error .endOfText
        | '"' :: rest => member rest
        | _ => .error .badText
      else .error .badText

/-- The next member of a record that is written as an array. -/
def element {α : Type} (first : Bool) (read : Reader α) : Reader α := fun cs =>
  match dropBlanks cs with
  | [] => .error .endOfText
  | ']' :: _ => .error .badData
  | c :: rest =>
    if first then read (c :: rest)
    else if c = ',' then
      match dropBlanks rest with
      | [] => .error .endOfText
      | ']' :: _ => .error .badText
      | rest => read rest
    else .error .badText

/-- The end of a record that is written as an array; there is nothing after its last member. -/
def endOfElements : Reader Unit := fun cs =>
  match dropBlanks cs with
  | [] => .error .endOfText
  | ']' :: rest => .ok ((), rest)
  | _ => .error .badText

/-- Reads a record from an object or from an array. -/
def readRecord {σ α : Type} (fuel : Nat) (slot : String → σ → Slot σ) (start : σ)
    (finish : σ → Option α) (elements : Reader α) : Reader α := fun cs =>
  match dropBlanks cs with
  | '\x7b' :: rest =>
    match members slot fuel true start rest with
    | .error e => .error e
    | .ok (s, rest) =>
      match finish s with
      | some a => .ok (a, rest)
      | none => .error .badData
  | '[' :: rest => (do let a ← elements; endOfElements; pure a : Reader α) rest
  | cs => .error (mismatch cs)

/-- The name of a member, which must be a string. -/
def memberName : Reader (List Char) := fun cs =>
  match dropBlanks cs with
  | [] => .error .endOfText
  | '"' :: rest => stringRest [] rest
  | _ => .error .badText

/-- Reads a value that is one of some names, alone or as the name of a member with the value
null. -/
def readName {α : Type} (ofName? : String → Option α) : Reader α := fun cs =>
  let name (s : List Char) (rest : List Char) : Except Fault (α × List Char) :=
    match ofName? (String.ofList s) with
    | some a => .ok (a, rest)
    | none => .error .badData
  match dropBlanks cs with
  | [] => .error .endOfText
  | '"' :: rest =>
    match stringRest [] rest with
    | .ok (s, rest) => name s rest
    | .error e => .error e
  | '\x7b' :: rest =>
    match memberName rest with
    | .error e => .error e
    | .ok (s, rest) =>
      match name s rest with
      | .error e => .error e
      | .ok (a, rest) =>
        match dropBlanks rest with
        | [] => .error .endOfText
        | ':' :: rest =>
          match dropBlanks rest with
          | 'n' :: rest =>
            match letters "ull".toList rest with
            | .error e => .error e
            | .ok ((), rest) =>
              match dropBlanks rest with
              | [] => .error .endOfText
              | '\x7d' :: rest => .ok (a, rest)
              | _ => .error .badText
          | rest => .error (mismatch rest)
        | _ => .error .badText
  | _ => .error .badText

/-- A whole number below 2^64. -/
def readWord : Reader Nat := fun cs =>
  match dropBlanks cs with
  | [] => .error .endOfText
  | c :: rest =>
    if c = '-' ∨ c.isDigit then
      match numberText (c :: rest) with
      | .ok (.natural n, rest) => .ok (n, rest)
      | .ok (.other, _) => .error .badData
      | .error e => .error e
    else .error (mismatch (c :: rest))

/-- Reads a text that holds one value and blanks. -/
def readText {α : Type} (read : Reader α) (text : List Char) : Except Fault α :=
  match read text with
  | .error e => .error e
  | .ok (a, rest) => if dropBlanks rest = [] then .ok a else .error .badText

end ShaderBuild.Json
