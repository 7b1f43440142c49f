import ShaderBuild.Text.Decimal
import ShaderBuild.Text.Hex
import ShaderBuild.Text.Split
import ShaderBuild.Toml.Value

/-!
Values that are written as one word: numbers, booleans, dates and times.
-/

namespace ShaderBuild.Toml

/-- Characters that a word may have. -/
def isWordChar (c : Char) : Bool :=
  c.isAlphanum || c == '+' || c == '-' || c == '.' || c == '_' || c == ':'

namespace Word

/-- Whether all characters are decimal digits, and there is at least one. -/
def areDigits (cs : List Char) : Bool := cs ≠ [] && cs.all Char.isDigit

/-- Takes the sign off a word: whether it is negative, and the rest. -/
def splitSign : List Char → Bool × List Char
  | '-' :: rest => (true, rest)
  | '+' :: rest => (false, rest)
  | rest => (false, rest)

/-! ## Digits -/

/-- Digits with single underscores between them, as a number. -/
def digits? (base : Nat) (cs : List Char) : Option Nat := do
  let groups := Text.splitOn '_' cs
  if groups.contains [] then none
  groups.flatten.foldlM (fun n c => do
    let d ← Hex.value? c
    if d < base then some (base * n + d) else none) 0

/-- A decimal number without needless zeros in front. -/
def decimal? (cs : List Char) : Option Nat :=
  if cs.head? = some '0' ∧ cs.length ≠ 1 then none else digits? 10 cs

/-! ## Integers -/

def maxInteger : Int := 0x7FFFFFFFFFFFFFFF
def minInteger : Int := -0x8000000000000000

def ofRange (n : Int) : Option Value :=
  if minInteger ≤ n ∧ n ≤ maxInteger then some (.integer n) else none

def integer? (cs : List Char) : Option Value :=
  match cs with
  | '0' :: 'x' :: rest => do ofRange (← digits? 16 rest)
  | '0' :: 'o' :: rest => do ofRange (← digits? 8 rest)
  | '0' :: 'b' :: rest => do ofRange (← digits? 2 rest)
  | cs => do
    let (negative, cs) := splitSign cs
    let n ← decimal? cs
    ofRange (if negative then -n else n)

/-! ## Numbers with a fraction or an exponent -/

/-- The exponent after its letter. -/
def exponent? (cs : List Char) : Option Int := do
  let (negative, cs) := splitSign cs
  let n ← digits? 10 cs
  return if negative then -n else n

def isExponentMark (c : Char) : Bool := c == 'e' || c == 'E'

/-- A number with a fraction, an exponent or both. It must not be infinite unless it is negative. -/
def decimalFloat? (cs : List Char) : Option Value := do
  let (negative, cs) := splitSign cs
  let significant := cs.takeWhile (!isExponentMark ·)
  let exponent ← match cs.dropWhile (!isExponentMark ·) with
    | [] => some 0
    | _ :: rest => exponent? rest
  let (significand, places) ← match Text.splitFirst? '.' significant with
    | none =>
      if significant.length = cs.length then none else do some (← decimal? significant, 0)
    | some (whole, part) => do
      let wholeValue ← decimal? whole
      let partValue ← digits? 10 part
      let places := part.countP (· ≠ '_')
      some (wholeValue * Nat.pow 10 places + partValue, places)
  if !negative ∧ Decimal.isInfinite significand (exponent - places) then none
  return .float

def isNamedFloat (cs : List Char) : Bool :=
  let name := (splitSign cs).2
  name == "inf".toList || name == "nan".toList

/-! ## Dates and times -/

def number? (low high : Nat) (cs : List Char) : Option Nat :=
  if areDigits cs then
    match digits? 10 cs with
    | some n => if low ≤ n ∧ n ≤ high then some n else none
    | none => none
  else none

def daysInMonth (year month : Nat) : Nat :=
  if month = 2 then
    if year % 4 = 0 ∧ (year % 100 ≠ 0 ∨ year % 400 = 0) then 29 else 28
  else if month = 4 ∨ month = 6 ∨ month = 9 ∨ month = 11 then 30
  else 31

/-- Four digits of the year, two of the month and two of the day. -/
def isDate (cs : List Char) : Bool :=
  match Text.splitOn '-' cs with
  | [y, m, d] =>
    y.length = 4 && m.length = 2 && d.length = 2 &&
      match number? 0 9999 y, number? 1 12 m with
      | some year, some month => (number? 1 (daysInMonth year month) d).isSome
      | _, _ => false
  | _ => false

def isClock (maxHour maxMinute : Nat) (hour minute : List Char) : Bool :=
  hour.length = 2 && minute.length = 2 && (number? 0 maxHour hour).isSome &&
    (number? 0 maxMinute minute).isSome

/-- Hour, minute and second, and perhaps a fraction of the second. -/
def isTime (cs : List Char) : Bool :=
  match Text.splitOn ':' cs with
  | [hour, minute, second] =>
    let whole := second.takeWhile (· != '.')
    let part := second.dropWhile (· != '.')
    isClock 23 59 hour minute && whole.length = 2 && (number? 0 60 whole).isSome &&
      (part = [] || areDigits (part.drop 1))
  | _ => false

/-- The distance from universal time: the letter Z, or a sign with hour and minute. -/
def isOffset (cs : List Char) : Bool :=
  match cs with
  | [c] => c == 'Z' || c == 'z'
  | c :: rest =>
    (c == '+' || c == '-') &&
      match Text.splitOn ':' rest with
      | [hour, minute] => isClock 23 59 hour minute
      | _ => false
  | [] => false

def isOffsetMark (c : Char) : Bool := c == 'Z' || c == 'z' || c == '+' || c == '-'

/-- A time that may be followed by an offset. -/
def isTimeWithOffset (cs : List Char) : Bool :=
  let time := cs.takeWhile (!isOffsetMark ·)
  let offset := cs.dropWhile (!isOffsetMark ·)
  isTime time && (offset = [] || isOffset offset)

/-- A date, a time, or a date and a time with the letter T between them. -/
def isDateTime (cs : List Char) : Bool :=
  isDate cs || isTime cs ||
    (isDate (cs.take 10) &&
      match cs.drop 10 with
      | c :: rest => (c == 'T' || c == 't') && isTimeWithOffset rest
      | [] => false)

end Word

/-- The value of a word. -/
def Value.ofWord? (cs : List Char) : Option Value :=
  if cs = "true".toList then some (.boolean true)
  else if cs = "false".toList then some (.boolean false)
  else if Word.isNamedFloat cs then some .float
  else if Word.isDateTime cs then some (.dateTime (String.ofList cs))
  else (Word.decimalFloat? cs).or (Word.integer? cs)

end ShaderBuild.Toml
