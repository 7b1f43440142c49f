/-!
Arithmetic inside scripts: sums and products of whole numbers and variables.
-/

namespace ShaderBuild.Toolbox.Arithmetic

/-- Reads a value off the front of an expression. -/
abbrev Reading := List Char → Option (Int × List Char)

def skipBlanks (cs : List Char) : List Char := cs.dropWhile Char.isWhitespace

def isNameChar (c : Char) : Bool := c.isAlphanum || c == '_'

mutual

/-- A number, a variable, an expression in brackets, or one of these after a sign. -/
def atom (lookup : String → Int) : (fuel : Nat) → Reading
  | 0, _ => none
  | fuel + 1, cs =>
    match skipBlanks cs with
    | '-' :: rest => (atom lookup fuel rest).map fun (n, rest) => (-n, rest)
    | '+' :: rest => atom lookup fuel rest
    | '(' :: rest =>
      match sum lookup fuel rest with
      | some (n, rest) =>
        match skipBlanks rest with
        | ')' :: rest => some (n, rest)
        | _ => none
      | none => none
    | '$' :: rest => atom lookup fuel rest
    | c :: rest =>
      let word := (c :: rest).takeWhile isNameChar
      let rest := (c :: rest).drop word.length
      if word = [] then none
      else match (String.ofList word).toNat? with
        | some n => some (n, rest)
        | none => some (lookup (String.ofList word), rest)
    | [] => none

/-- What follows a first factor. -/
def factors (lookup : String → Int) : (fuel : Nat) → Int → Reading
  | 0, _, _ => none
  | fuel + 1, n, cs =>
    let apply (f : Int → Int → Option Int) (rest : List Char) : Option (Int × List Char) := do
      let (m, rest) ← atom lookup fuel rest
      factors lookup fuel (← f n m) rest
    match skipBlanks cs with
    | '*' :: rest => apply (fun n m => some (n * m)) rest
    | '/' :: rest => apply (fun n m => if m = 0 then none else some (n.tdiv m)) rest
    | '%' :: rest => apply (fun n m => if m = 0 then none else some (n.tmod m)) rest
    | cs => some (n, cs)

/-- What follows a first term. -/
def terms (lookup : String → Int) : (fuel : Nat) → Int → Reading
  | 0, _, _ => none
  | fuel + 1, n, cs =>
    let apply (f : Int → Int → Int) (rest : List Char) : Option (Int × List Char) := do
      let (m, rest) ← atom lookup fuel rest
      let (m, rest) ← factors lookup fuel m rest
      terms lookup fuel (f n m) rest
    match skipBlanks cs with
    | '+' :: rest => apply (· + ·) rest
    | '-' :: rest => apply (· - ·) rest
    | cs => some (n, cs)

def sum (lookup : String → Int) : (fuel : Nat) → Reading
  | 0, _ => none
  | fuel + 1, cs => do
    let (n, rest) ← atom lookup fuel cs
    let (n, rest) ← factors lookup fuel n rest
    terms lookup fuel n rest

end

/-- The value of a whole expression. -/
def value? (lookup : String → Int) (cs : List Char) : Option Int :=
  match sum lookup (3 * cs.length + 3) cs with
  | some (n, rest) => if skipBlanks rest = [] then some n else none
  | none => none

end ShaderBuild.Toolbox.Arithmetic
