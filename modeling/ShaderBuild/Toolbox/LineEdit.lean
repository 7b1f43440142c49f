import ShaderBuild.Include.Pattern
import ShaderBuild.Toolbox.Tool

/-!
Line by line: putting a text in the place of what an expression matches, and picking out the
lines that it matches. Of all matches the leftmost counts, and of these the longest.
-/

namespace ShaderBuild.Toolbox.LineEdit

/-! ## Expressions -/

/-- A set of characters after its opening bracket, with single characters and ranges. -/
def members? (found : List (Char × Char)) : List Char → Option (List (Char × Char) × List Char)
  | [] => none
  | ']' :: rest => if found = [] then members? [(']', ']')] rest else some (found, rest)
  | first :: '-' :: last :: rest =>
    if last = ']' then some ((first, first) :: ('-', '-') :: found, rest)
    else members? ((first, last) :: found) rest
  | c :: rest => members? ((c, c) :: found) rest

def setOf (members : List (Char × Char)) : CharSet :=
  members.foldl (fun s (a, b) => if a ≤ b then s.insert a.toNat b.toNat else s) .empty

def one (s : CharSet) : Regex := .set s false

/-- One thing that can be repeated. -/
def atom? : List Char → Option (Regex × List Char)
  | [] => none
  | '.' :: rest => some (one .full, rest)
  | '[' :: '^' :: rest => (members? [] rest).map fun (ms, rest) => (one (setOf ms).complement, rest)
  | '[' :: rest => (members? [] rest).map fun (ms, rest) => (one (setOf ms), rest)
  | '\\' :: c :: rest =>
    if "(){}|123456789".toList.contains c then none
    else some (.literal [if c = 'n' then '\n' else if c = 't' then '\t' else c], rest)
  | c :: rest => some (.literal [c], rest)

def repeated (r : Regex) : List Char → Regex × List Char
  | '*' :: rest => (.times r 0 none true, rest)
  | '\\' :: '+' :: rest => (.times r 1 none true, rest)
  | '\\' :: '?' :: rest => (.times r 0 (some 1) true, rest)
  | rest => (r, rest)

def items? : (fuel : Nat) → List Char → Option (List Regex)
  | 0, _ => none
  | _, [] => some []
  | _, ['$'] => some [.anchor .textEnd]
  | fuel + 1, cs => do
    let (r, rest) ← atom? cs
    let (r, rest) := repeated r rest
    return r :: (← items? fuel rest)

/-- Reads an expression. -/
def regex? : List Char → Option Regex
  | '^' :: cs => (items? (cs.length + 1) cs).map fun rs => .seq (.anchor .textStart :: rs)
  | cs => (items? (cs.length + 1) cs).map .seq

/-! ## Replacing -/

/-- Where the first match from a position on starts and ends. -/
def firstMatch? (r : Regex) (text : List Char) (start : Nat) : Option (Nat × Nat) :=
  let chars := text.toArray
  ((List.range (text.length + 1)).drop start).findSome? fun i =>
    match r.ends chars [i] with
    | [] => none
    | e :: more => some (i, more.foldl max e)

/-- A replacement with the matched text in its places. -/
def filled (matched : List Char) : List Char → List Char
  | '\\' :: 'n' :: rest => '\n' :: filled matched rest
  | '\\' :: c :: rest => c :: filled matched rest
  | '&' :: rest => matched ++ filled matched rest
  | c :: rest => c :: filled matched rest
  | [] => []

/-- Replaces matches from a position on, all of them or the first. A match of nothing right after
another match does not count. -/
def replaceFrom (r : Regex) (replacement : List Char) (all : Bool) (text : List Char) :
    (fuel start : Nat) → (afterMatch : Bool) → List Char
  | 0, start, _ => text.drop start
  | fuel + 1, start, afterMatch =>
    match firstMatch? r text start with
    | none => text.drop start
    | some (i, e) =>
      let before := (text.drop start).take (i - start)
      if i = e then
        let put := if afterMatch ∧ i = start then [] else filled [] replacement
        let next := (text.drop i).take 1
        if !all ∨ next = [] then before ++ put ++ text.drop i
        else before ++ put ++ next ++ replaceFrom r replacement all text fuel (i + 1) false
      else
        let put := before ++ filled ((text.drop i).take (e - i)) replacement
        if all then put ++ replaceFrom r replacement all text fuel e true else put ++ text.drop e

/-- A text up to a character that ends it. A backslash takes the next character along. -/
def upTo? (mark : Char) : List Char → Option (List Char × List Char)
  | [] => none
  | '\\' :: c :: rest =>
    (upTo? mark rest).map fun (cs, rest) => ((if c = mark then [c] else ['\\', c]) ++ cs, rest)
  | c :: rest =>
    if c = mark then some ([], rest) else (upTo? mark rest).map fun (cs, rest) => (c :: cs, rest)

structure Replacement where
  regex : Regex
  text : List Char
  all : Bool

/-- Reads an order to replace, such as `s/a/b/g`. -/
def Replacement.read? : List Char → Option Replacement
  | 's' :: mark :: rest => do
    let (pattern, rest) ← upTo? mark rest
    let (text, flags) ← upTo? mark rest
    if flags = [] ∨ flags = ['g'] then return ⟨← regex? pattern, text, flags = ['g']⟩ else none
  | _ => none

/-- Applies a function to the text of each line. -/
def mapLines (f : List Char → List Char) (input : Bytes) : Bytes :=
  (linesOf input).flatMap fun line =>
    let ended := line.getLast? = some newlineByte
    match Bytes.text? (if ended then line.dropLast else line) with
    | some s => Bytes.ofText (String.ofList (f s.toList)) ++ (if ended then [newlineByte] else [])
    | none => line

def edit : Tool := fun args input =>
  let order := match args with
    | [a] => some a
    | [option, a] => if option = Bytes.ofText "-e" then some a else none
    | _ => none
  match (order.bind Bytes.text?).bind fun s => Replacement.read? s.toList with
  | some r =>
    let replaced (line : List Char) : List Char :=
      replaceFrom r.regex r.text r.all line (line.length + 1) 0 false
    .ok (mapLines replaced input) []
  | none => .failed 1 "sed: unsupported operand\n" input

/-! ## Picking out lines -/

def isMatched (r : Regex) (line : Bytes) : Bool :=
  match Bytes.text? (if line.getLast? = some newlineByte then line.dropLast else line) with
  | some s => (firstMatch? r s.toList 0).isSome
  | none => false

def search : Tool := fun args input =>
  let (options, pattern) := (args.dropLast, args.getLast?.bind Bytes.text?)
  match pattern.bind fun s => regex? s.toList with
  | some r =>
    let inverted := options.contains (Bytes.ofText "-v")
    let found := (linesOf input).filter fun line => isMatched r line != inverted
    let ended := found.flatMap fun line =>
      if line.getLast? = some newlineByte then line else line ++ [newlineByte]
    let output :=
      if options.contains (Bytes.ofText "-q") then []
      else if options.contains (Bytes.ofText "-c") then ofNat found.length ++ [newlineByte]
      else ended
    ⟨if found = [] then 1 else 0, output, [], []⟩
  | none => .failed 2 "grep: unsupported operand\n" input

end ShaderBuild.Toolbox.LineEdit
