import ShaderBuild.Include.Pattern.Reader
import ShaderBuild.Text.Category
import ShaderBuild.Text.Alphanumeric
import ShaderBuild.Text.Blank
import ShaderBuild.Text.Split
import ShaderBuild.Text.Utf8
import ShaderBuild.Trace

/-!
The text form of a directive for log records: a target, then in brackets the name of a span
and in braces a field with a value, then a level after an equals sign. All parts may be left
out, and a lone word is a level if there is one of that name.
-/

namespace ShaderBuild.CommandLine

structure LogDirective where
  target : Option String
  span : Option String
  /-- The name of a field and the value it must have. -/
  field : Option (String × Option String)
  level : Option Level
  deriving DecidableEq, Repr

namespace LogDirective

/-! ## Levels -/

/-- A level by name in either case or by number. -/
def level? (cs : List Char) : Option (Option Level) :=
  let digits := match cs with
    | '+' :: rest => rest
    | rest => rest
  if digits ≠ [] ∧ digits.all Char.isDigit then
    match digits.dropWhile (· == '0') with
    | [] => some none
    | ['1'] => some (some .error)
    | ['2'] => some (some .warn)
    | ['3'] => some (some .info)
    | ['4'] => some (some .debug)
    | ['5'] => some (some .trace)
    | _ => none
  else
    match String.ofList (cs.map Char.toLower) with
    | "" => some (some .error)
    | "error" => some (some .error)
    | "warn" => some (some .warn)
    | "info" => some (some .info)
    | "debug" => some (some .debug)
    | "trace" => some (some .trace)
    | "off" => some none
    | _ => none

/-- The level after an equals sign; nothing there means every level. -/
def levelAfter? (cs : List Char) : Option (Option Level) :=
  if cs = [] then some (some .trace) else level? cs

/-! ## Values of fields -/

/-- What may follow the digits of a number: an exponent. -/
def isExponent : List Char → Bool
  | [] => true
  | e :: rest =>
    let digits := match rest with
      | '+' :: digits => digits
      | '-' :: digits => digits
      | digits => digits
    (e == 'e' || e == 'E') && !digits.isEmpty && digits.all Char.isDigit

def isNumber (cs : List Char) : Bool :=
  let size := match cs with
    | '+' :: rest => rest
    | '-' :: rest => rest
    | rest => rest
  let whole := size.takeWhile Char.isDigit
  let name := String.ofList (size.map Char.toLower)
  name == "inf" || name == "infinity" || name == "nan" ||
    match size.dropWhile Char.isDigit with
    | '.' :: rest =>
      !(whole ++ rest.takeWhile Char.isDigit).isEmpty && isExponent (rest.dropWhile Char.isDigit)
    | rest => !whole.isEmpty && isExponent rest

mutual

/-- Whether the expression asks for word boundaries of Unicode. -/
def asksWords : Regex → Bool
  | .anchor (.word _ ascii) => !ascii
  | .group _ r => asksWords r
  | .times r _ _ _ => asksWords r
  | .seq rs => anyAsksWords rs
  | .either rs => anyAsksWords rs
  | _ => false

def anyAsksWords : List Regex → Bool
  | [] => false
  | r :: rs => asksWords r || anyAsksWords rs

end

/-- A value is a number or else an expression without word boundaries. -/
def isValue (cs : List Char) : Bool :=
  isNumber cs ||
    match Regex.read? Text.categories cs with
    | some r => !asksWords r
    | none => false

/-- A field's name and, after an equals sign, its value. -/
def field? (cs : List Char) : Option (String × Option String) :=
  match Text.splitOn '=' cs with
  | name :: value :: _ =>
    if isValue value then some (String.ofList name, some (String.ofList value)) else none
  | name :: [] => if name = [] then none else some (String.ofList name, none)
  | [] => none

/-! ## Reading -/

def dropBytes? : Nat → List Char → Option (List Char)
  | 0, cs => some cs
  | _, [] => none
  | n, c :: rest => if c.utf8Size ≤ n then dropBytes? (n - c.utf8Size) rest else none

def takeBytes? : Nat → List Char → Option (List Char)
  | 0, _ => some []
  | _, [] => none
  | n, c :: rest => if c.utf8Size ≤ n then (takeBytes? (n - c.utf8Size) rest).map (c :: ·) else none

/-- The part of a text between two byte positions. -/
def slice? (cs : List Char) (start stop : Nat) : Option (List Char) :=
  (dropBytes? start cs).bind (takeBytes? (stop - start))

/-- Which part is being read, and the byte position where it starts. -/
inductive Part where
  | start
  | word (first : Nat)
  | span (first : Nat)
  | field (first : Nat)
  | fields
  | target
  | level (first : Nat)

/-- Reads on by the character at byte position `i`. Positions count from the first character that is
no blank, but what stands between two of them is taken from the text with its blanks. -/
def step? (text : List Char) (i : Nat) (c : Char) (d : LogDirective) :
    Part → Option (LogDirective × Part)
  | .start =>
    if c = '[' then some (d, .span (i + 1))
    else if c == '-' || c == ':' || c == '_' || Text.isAlphanumeric c then some (d, .word i)
    else none
  | .word first =>
    if c = '=' then do
      return ({ d with target := some (String.ofList (← slice? text first i)) }, .level (i + 1))
    else if c = '[' then do
      return ({ d with target := some (String.ofList (← slice? text first i)) }, .span (i + 1))
    else some (d, .word first)
  | .span first =>
    if c = ']' then do
      return ({ d with span := some (String.ofList (← slice? text first i)) }, .target)
    else if c = '\x7b' then do
      let name ← slice? text first i
      return ({ d with span := if name = [] then none else some (String.ofList name) },
        .field (i + 1))
    else some (d, .span first)
  | .field first =>
    if c = '\x7d' then do
      let written ← slice? text first i
      if written = [] then none
      else return ({ d with field := some (← field? written) }, .fields)
    else some (d, .field first)
  | .fields => if c = ']' then some (d, .target) else none
  | .target => if c = '=' then some (d, .level (i + 1)) else none
  | .level first => some (d, .level first)

def steps? (text : List Char) :
    (i : Nat) → List Char → LogDirective × Part → Option (LogDirective × Part)
  | _, [], s => some s
  | i, c :: rest, (d, part) =>
    match step? text i c d part with
    | some s => steps? text (i + c.utf8Size) rest s
    | none => none

/-- A directive as it stands at the end of the text. -/
def finish? (text : List Char) (d : LogDirective) : Part → Option LogDirective
  | .word first => do
    let word ← dropBytes? first text
    match level? word with
    | some level => return { d with level }
    | none => return { d with target := some (String.ofList word) }
  | .level first => do
    let word ← dropBytes? first text
    return { d with level := ← levelAfter? word }
  | .target => some d
  | _ => none

def read? (text : List Char) : Option LogDirective := do
  let (d, part) ← steps? text 0 (Text.trim text) (⟨none, none, none, some .trace⟩, .start)
  finish? text d part

end LogDirective

end ShaderBuild.CommandLine
