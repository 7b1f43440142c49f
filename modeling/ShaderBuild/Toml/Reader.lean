import ShaderBuild.Toml.Word

/-!
Reading the pieces of TOML text: blanks and comments, strings, keys and values.
-/

namespace ShaderBuild.Toml

/-- Reads something off the front of a text, if it is there. -/
def Reader (α : Type) := List Char → Option (α × List Char)

namespace Reader

instance : Monad Reader where
  pure a := fun cs => some (a, cs)
  bind r f := fun cs =>
    match r cs with
    | some (a, rest) => f a rest
    | none => none

def fail {α : Type} : Reader α := fun _ => none

/-- What comes next, without taking it. -/
def peek : Reader (List Char) := fun cs => some (cs, cs)

/-- The characters that must come next. -/
def exactly (expected : List Char) : Reader Unit := fun cs =>
  if expected.isPrefixOf cs then some ((), cs.drop expected.length) else none

def takeWhile (p : Char → Bool) : Reader (List Char) := fun cs =>
  some (cs.takeWhile p, cs.dropWhile p)

end Reader

open Reader

/-! ## Blanks, comments and the ends of lines -/

def isBlank (c : Char) : Bool := c == ' ' || c == '\t'

/-- Characters of comments. Control characters other than the tab are left out. -/
def isCommentChar (c : Char) : Bool := c == '\t' || (0x20 ≤ c.toNat && c.toNat ≠ 0x7F)

def blanks : Reader Unit := do
  let _ ← takeWhile isBlank

def newline : Reader Unit := fun cs =>
  match cs with
  | '\n' :: rest => some ((), rest)
  | '\r' :: '\n' :: rest => some ((), rest)
  | _ => none

/-- A comment, if there is one. -/
def comment : Reader Unit := fun cs =>
  match cs with
  | '#' :: rest => some ((), rest.dropWhile isCommentChar)
  | cs => some ((), cs)

/-- The end of a line: blanks, a comment, and a newline or the end of the text. -/
def lineEnd : Reader Unit := do
  blanks
  comment
  if (← peek) ≠ [] then newline

/-- Blanks, newlines and comments, as they may stand between the items of an array. -/
def gaps : (fuel : Nat) → Reader Unit
  | 0 => fail
  | fuel + 1 => do
    blanks
    match ← peek with
    | '#' :: _ =>
      comment
      newline
      gaps fuel
    | '\n' :: _ =>
      newline
      gaps fuel
    | '\r' :: _ =>
      newline
      gaps fuel
    | _ => return

/-! ## Strings -/

/-- The character with the code that `count` hexadecimal digits give. -/
def codePoint (count : Nat) : Reader Char := fun cs => do
  let digits := cs.take count
  if digits.length ≠ count then none
  let n ← digits.foldlM (fun n c => do return 16 * n + (← Hex.value? c)) 0
  if n.isValidChar then some (Char.ofNat n, cs.drop count) else none

/-- The character that the text after a backslash stands for. -/
def escape : Reader Char := fun cs =>
  match cs with
  | 'b' :: rest => some ('\x08', rest)
  | 't' :: rest => some ('\t', rest)
  | 'n' :: rest => some ('\n', rest)
  | 'f' :: rest => some ('\x0c', rest)
  | 'r' :: rest => some ('\r', rest)
  | '"' :: rest => some ('"', rest)
  | '\\' :: rest => some ('\\', rest)
  | 'u' :: rest => codePoint 4 rest
  | 'U' :: rest => codePoint 8 rest
  | _ => none

/-- The rest of a string in double quotes. `before` holds its characters so far in reverse. -/
def basicRest : (fuel : Nat) → (before : List Char) → Reader (List Char)
  | 0, _ => fail
  | fuel + 1, before => fun cs =>
    match cs with
    | '"' :: rest => some (before.reverse, rest)
    | '\\' :: rest =>
      match escape rest with
      | some (c, rest) => basicRest fuel (c :: before) rest
      | none => none
    | c :: rest => if isCommentChar c then basicRest fuel (c :: before) rest else none
    | [] => none

/-- The rest of a string in single quotes, where nothing is escaped. -/
def literalRest : Reader (List Char) := fun cs =>
  let inside := cs.takeWhile fun c => isCommentChar c && c ≠ '\''
  match cs.drop inside.length with
  | '\'' :: rest => some (inside, rest)
  | _ => none

/-- The number of quotes at the front of a text. -/
def countQuotes (quote : Char) (cs : List Char) : Nat := (cs.takeWhile (· == quote)).length

/-- At a backslash before the end of a line: what follows it and all blanks and newlines. -/
def joinedLine? (cs : List Char) : Option (List Char) :=
  match newline (cs.dropWhile isBlank) with
  | some ((), rest) => skip (rest.length + 1) rest
  | none => none
where
  skip : (fuel : Nat) → List Char → Option (List Char)
    | 0, _ => none
    | fuel + 1, cs =>
      let cs := cs.dropWhile isBlank
      match newline cs with
      | some ((), rest) => skip fuel rest
      | none => some cs

/-- The rest of a string in three quotes. Up to two quotes before the closing ones belong to it. -/
def longRest (quote : Char) (escapes : Bool) :
    (fuel : Nat) → (before : List Char) → Reader (List Char)
  | 0, _ => fail
  | fuel + 1, before => fun cs =>
    match cs with
    | [] => none
    | c :: rest =>
      if c = quote then
        let count := countQuotes quote cs
        if 3 ≤ count then
          let inside := min (count - 3) 2
          some ((List.replicate inside quote ++ before).reverse, cs.drop (inside + 3))
        else longRest quote escapes fuel (List.replicate count quote ++ before) (cs.drop count)
      else if c = '\\' ∧ escapes then
        match joinedLine? rest with
        | some rest => longRest quote escapes fuel before rest
        | none =>
          match escape rest with
          | some (e, rest) => longRest quote escapes fuel (e :: before) rest
          | none => none
      else match newline cs with
        | some ((), rest) => longRest quote escapes fuel ('\n' :: before) rest
        | none => if isCommentChar c then longRest quote escapes fuel (c :: before) rest else none

/-- A newline right after the opening quotes does not belong to a long string. -/
def dropNewline (cs : List Char) : List Char :=
  match newline cs with
  | some ((), rest) => rest
  | none => cs

/-- A string of one line. -/
def shortString : Reader (List Char) := fun cs =>
  match cs with
  | '"' :: rest => basicRest (rest.length + 1) [] rest
  | '\'' :: rest => literalRest rest
  | _ => none

/-- Any string. -/
def string : Reader (List Char) := fun cs =>
  match cs with
  | '"' :: '"' :: '"' :: rest => longRest '"' true (rest.length + 1) [] (dropNewline rest)
  | '\'' :: '\'' :: '\'' :: rest => longRest '\'' false (rest.length + 1) [] (dropNewline rest)
  | cs => shortString cs

/-! ## Keys -/

def isKeyChar (c : Char) : Bool := c.isAlphanum || c == '_' || c == '-'

def simpleKey : Reader String := fun cs =>
  match cs with
  | '"' :: _ => (shortString cs).map fun (s, rest) => (String.ofList s, rest)
  | '\'' :: _ => (shortString cs).map fun (s, rest) => (String.ofList s, rest)
  | cs =>
    let name := cs.takeWhile isKeyChar
    if name = [] then none else some (String.ofList name, cs.drop name.length)

/-- How deep keys and values may be nested. -/
def maxDepth : Nat := 79

/-- Keys with dots between them. -/
def key (fuel : Nat) : Reader (List String) := do
  let names ← go fuel
  if names.length ≤ maxDepth then return names else fail
where
  go : (fuel : Nat) → Reader (List String)
    | 0 => fail
    | fuel + 1 => do
      blanks
      let name ← simpleKey
      blanks
      match ← peek with
      | '.' :: _ =>
        exactly ['.']
        return name :: (← go fuel)
      | _ => return [name]

/-! ## Values -/

/-- A word, and a time after a date and a space. -/
def word : Reader Value := do
  let first ← takeWhile isWordChar
  match ← peek with
  | ' ' :: rest =>
    let second := rest.takeWhile isWordChar
    if Word.isDate first ∧ Word.isTimeWithOffset second then
      exactly (' ' :: second)
      return .dateTime (String.ofList (first ++ ' ' :: second))
    else ofWord first
  | _ => ofWord first
where
  ofWord (cs : List Char) : Reader Value :=
    match Value.ofWord? cs with
    | some v => pure v
    | none => fail

/-- The items of an array, after its opening bracket. -/
def items (value : Reader Value) : (fuel : Nat) → Reader (List Value)
  | 0 => fail
  | fuel + 1 => do
    gaps fuel
    match ← peek with
    | ']' :: _ =>
      exactly [']']
      return []
    | cs =>
      let v ← value
      gaps cs.length
      match ← peek with
      | ',' :: _ =>
        exactly [',']
        return v :: (← items value fuel)
      | _ =>
        exactly [']']
        return [v]

/-- The keys and values of a table on one line, after its opening brace. -/
def pairs (value : Reader Value) : (fuel : Nat) → Reader (List (List String × Value))
  | 0 => fail
  | fuel + 1 => do
    let path ← key fuel
    exactly ['=']
    blanks
    let v ← value
    blanks
    match ← peek with
    | ',' :: _ =>
      exactly [',']
      return (path, v) :: (← pairs value fuel)
    | _ =>
      exactly ['\x7d']
      return [(path, v)]

def pairsOrNone (value : Reader Value) (fuel : Nat) : Reader (List (List String × Value)) := do
  blanks
  match ← peek with
  | '\x7d' :: _ =>
    exactly ['\x7d']
    return []
  | _ => pairs value fuel

end ShaderBuild.Toml
