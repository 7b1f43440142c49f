import ShaderBuild.Text.Decimal
import ShaderBuild.Text.Hex
import ShaderBuild.Text.Utf8

/-!
Reading JSON text straight into typed values. The first problem met in the text decides
the outcome: text that ends too early, text that is not JSON, or JSON that is not the
data asked for. Members that are not known are passed over, checked only as text.
-/

namespace ShaderBuild.Json

inductive Fault where
  | endOfText
  | badText
  | badData
  deriving DecidableEq, Repr

/-- Reads a value off the front of a text. -/
def Reader (α : Type) := List Char → Except Fault (α × List Char)

namespace Reader

instance : Monad Reader where
  pure a := fun cs => .ok (a, cs)
  bind r f := fun cs =>
    match r cs with
    | .ok (a, rest) => f a rest
    | .error e => .error e

def fail {α : Type} (e : Fault) : Reader α := fun _ => .error e

end Reader

def isBlank (c : Char) : Bool := c == ' ' || c == '\n' || c == '\t' || c == '\r'

def dropBlanks (cs : List Char) : List Char := cs.dropWhile isBlank

/-- The letters that must come next. -/
def letters : List Char → Reader Unit
  | [], cs => .ok ((), cs)
  | _ :: _, [] => .error .endOfText
  | e :: expected, c :: rest => if c = e then letters expected rest else .error .badText

/-! ## Strings -/

def hexValue? (digits : List Char) : Option Nat :=
  digits.foldlM (fun n c => (Hex.value? c).map (16 * n + ·)) 0

/-- Four hexadecimal digits. The text must have four bytes left before their form counts. -/
def fourDigits (cs : List Char) : Except Fault (Nat × List Char) :=
  if Text.byteLength (cs.take 4) < 4 then .error .endOfText
  else match hexValue? (cs.take 4), cs.drop 4 with
    | some n, rest => if (cs.take 4).length < 4 then .error .badText else .ok (n, rest)
    | none, _ => .error .badText

/-- The second half of a pair of escapes for a character beyond the first 65536. -/
def secondHalf (high : Nat) : List Char → Except Fault (Char × List Char)
  | [] => .error .endOfText
  | ['\\'] => .error .endOfText
  | '\\' :: 'u' :: rest =>
    match fourDigits rest with
    | .error e => .error e
    | .ok (low, rest) =>
      if 0xDC00 ≤ low ∧ low ≤ 0xDFFF then
        .ok (Char.ofNat (0x10000 + (high - 0xD800) * 0x400 + (low - 0xDC00)), rest)
      else .error .badText
  | _ => .error .badText

/-- The character that the text after a backslash stands for. -/
def escape : List Char → Except Fault (Char × List Char)
  | [] => .error .endOfText
  | 'u' :: rest =>
    match fourDigits rest with
    | .error e => .error e
    | .ok (n, rest) =>
      if 0xDC00 ≤ n ∧ n ≤ 0xDFFF then .error .badText
      else if 0xD800 ≤ n ∧ n ≤ 0xDBFF then secondHalf n rest
      else .ok (Char.ofNat n, rest)
  | c :: rest =>
    match c with
    | '"' => .ok ('"', rest)
    | '\\' => .ok ('\\', rest)
    | '/' => .ok ('/', rest)
    | 'b' => .ok ('\x08', rest)
    | 'f' => .ok ('\x0c', rest)
    | 'n' => .ok ('\n', rest)
    | 'r' => .ok ('\r', rest)
    | 't' => .ok ('\t', rest)
    | _ => .error .badText

theorem length_of_fourDigits {cs rest : List Char} {n : Nat} (h : fourDigits cs = .ok (n, rest)) :
    rest.length ≤ cs.length := by
  unfold fourDigits at h
  split at h
  · simp at h
  · split at h
    · split at h
      · simp at h
      · simp only [Except.ok.injEq, Prod.mk.injEq] at h
        simp [← h.2]
    · simp at h

theorem length_of_secondHalf {cs rest : List Char} {high : Nat} {c : Char}
    (h : secondHalf high cs = .ok (c, rest)) : rest.length ≤ cs.length := by
  unfold secondHalf at h
  split at h
  · simp at h
  · simp at h
  · rename_i after
    split at h
    · simp at h
    · rename_i low tail hd
      have := length_of_fourDigits hd
      split at h
      · simp only [Except.ok.injEq, Prod.mk.injEq] at h
        simp only [List.length_cons, ← h.2]
        omega
      · simp at h
  · simp at h

theorem length_of_escape {cs rest : List Char} {c : Char} (h : escape cs = .ok (c, rest)) :
    rest.length < cs.length := by
  unfold escape at h
  split at h
  · simp at h
  · rename_i after
    split at h
    · simp at h
    · rename_i n tail hd
      have hl := length_of_fourDigits hd
      split at h
      · simp at h
      · split at h
        · have := length_of_secondHalf h
          simp only [List.length_cons]
          omega
        · simp only [Except.ok.injEq, Prod.mk.injEq] at h
          simp only [List.length_cons, ← h.2]
          omega
  · split at h <;> simp_all

/-- The rest of a string, up to its closing quote. `before` holds its characters so far in
reverse. -/
def stringRest (before : List Char) : List Char → Except Fault (List Char × List Char)
  | [] => .error .endOfText
  | '"' :: rest => .ok (before.reverse, rest)
  | '\\' :: rest =>
    match _h : escape rest with
    | .ok (c, after) => stringRest (c :: before) after
    | .error e => .error e
  | c :: rest => if c.toNat < 0x20 then .error .badText else stringRest (c :: before) rest
termination_by cs => cs.length
decreasing_by
  · have := length_of_escape _h
    simp only [List.length_cons]
    omega
  · simp

/-- Passes over a string without asking what its escapes stand for. -/
def skipString : List Char → Except Fault (List Char)
  | [] => .error .endOfText
  | '"' :: rest => .ok rest
  | ['\\'] => .error .endOfText
  | '\\' :: 'u' :: rest =>
    match _h : fourDigits rest with
    | .ok (_, after) => skipString after
    | .error e => .error e
  | '\\' :: c :: rest => if "\"\\/bfnrt".toList.contains c then skipString rest else .error .badText
  | c :: rest => if c.toNat < 0x20 then .error .badText else skipString rest
termination_by cs => cs.length
decreasing_by
  · have := length_of_fourDigits _h
    simp only [List.length_cons]
    omega
  all_goals simp only [List.length_cons]; omega

/-! ## Numbers -/

/-- A number as it was written. -/
inductive Number where
  /-- A whole number below 2^64 without a sign. -/
  | natural (n : Nat)
  | other
  deriving DecidableEq, Repr

def maxWord : Nat := 0xFFFFFFFFFFFFFFFF

/-- Takes digits into `n` as long as it stays below 2^64. -/
def takeDigits (n : Nat) : List Char → Nat × List Char
  | [] => (n, [])
  | c :: rest =>
    if c.isDigit ∧ 10 * n + (c.toNat - '0'.toNat) ≤ maxWord then
      takeDigits (10 * n + (c.toNat - '0'.toNat)) rest
    else (n, c :: rest)

/-- A decimal number must stay finite when its digits and its power of ten are multiplied as
doubles. -/
def finite (significand : Nat) (exponent : Int) (cs : List Char) :
    Except Fault (Number × List Char) :=
  if significand ≠ 0 ∧ (308 < exponent ∨ Decimal.productIsInfinite significand exponent.toNat) then
    .error .badText
  else .ok (.other, cs)

def maxExponent : Nat := 0x7FFFFFFF

/-- The exponent part, after its letter. -/
def exponentPart (significand : Nat) (start : Int) (cs : List Char) :
    Except Fault (Number × List Char) :=
  let (positive, cs) := match cs with
    | '+' :: rest => (true, rest)
    | '-' :: rest => (false, rest)
    | rest => (true, rest)
  match cs with
  | [] => .error .endOfText
  | c :: _ =>
    if c.isDigit then
      let n := (cs.takeWhile Char.isDigit).foldl
        (fun n c => min (10 * n + (c.toNat - '0'.toNat)) (maxExponent + 1)) 0
      let rest := cs.dropWhile Char.isDigit
      if maxExponent < n then
        if significand ≠ 0 ∧ positive then .error .badText else .ok (.other, rest)
      else finite significand (if positive then start + n else start - n) rest
    else .error .badText

/-- What may follow the digits of a fraction or of a long whole number. -/
def afterDigits (significand : Nat) (exponent : Int) (cs : List Char) :
    Except Fault (Number × List Char) :=
  match cs with
  | 'e' :: rest => exponentPart significand exponent rest
  | 'E' :: rest => exponentPart significand exponent rest
  | _ => finite significand exponent cs

/-- The fraction, after its point. -/
def fractionPart (significand : Nat) (start : Int) (cs : List Char) :
    Except Fault (Number × List Char) :=
  match cs with
  | [] => .error .endOfText
  | c :: _ =>
    if c.isDigit then
      let (n, rest) := takeDigits significand cs
      afterDigits n (start - (cs.length - rest.length)) (rest.dropWhile Char.isDigit)
    else .error .badText

/-- A number without its sign. -/
def unsigned (cs : List Char) : Except Fault (Number × List Char) :=
  match cs with
  | [] => .error .endOfText
  | c :: rest =>
    if ¬c.isDigit then .error .badText
    else if c = '0' ∧ (rest.head?.map Char.isDigit).getD false then .error .badText
    else
      let (n, after) := takeDigits 0 cs
      let extra := after.takeWhile Char.isDigit
      let after := after.dropWhile Char.isDigit
      match after with
      | '.' :: rest => fractionPart n extra.length rest
      | 'e' :: rest => exponentPart n extra.length rest
      | 'E' :: rest => exponentPart n extra.length rest
      | _ => if extra = [] then .ok (.natural n, after) else finite n extra.length after

/-- A number with its sign. With a sign it is not natural, and neither is minus zero. -/
def numberText : List Char → Except Fault (Number × List Char)
  | '-' :: rest =>
    match unsigned rest with
    | .ok (_, after) => .ok (.other, after)
    | .error e => .error e
  | cs => unsigned cs

/-- Passes over a number without asking for its size. -/
def skipNumber (cs : List Char) : Except Fault (List Char) :=
  let cs := match cs with
    | '-' :: rest => rest
    | rest => rest
  let digits := cs.takeWhile Char.isDigit
  let isShort := digits.head? ≠ some '0' ∨ digits.length = 1
  if digits = [] ∨ ¬isShort then .error .badText
  else
    match cs.dropWhile Char.isDigit with
    | '.' :: rest =>
      if (rest.head?.map Char.isDigit).getD false then skipExponent (rest.dropWhile Char.isDigit)
      else .error .badText
    | rest => skipExponent rest
where
  skipExponent (cs : List Char) : Except Fault (List Char) :=
    let skipDigits (cs : List Char) : Except Fault (List Char) :=
      if (cs.head?.map Char.isDigit).getD false then .ok (cs.dropWhile Char.isDigit)
      else .error .badText
    let skipSign (cs : List Char) : Except Fault (List Char) :=
      match cs with
      | '+' :: rest => skipDigits rest
      | '-' :: rest => skipDigits rest
      | rest => skipDigits rest
    match cs with
    | 'e' :: rest => skipSign rest
    | 'E' :: rest => skipSign rest
    | rest => .ok rest

/-! ## Values -/

/-- The fault of a value that is not of the kind asked for. A word, a number or a string is read to
its end first. -/
def mismatch (cs : List Char) : Fault :=
  let outcome {α : Type} (r : Except Fault α) : Fault :=
    match r with
    | .ok _ => .badData
    | .error e => e
  match cs with
  | [] => .endOfText
  | 'n' :: rest => outcome (letters "ull".toList rest)
  | 't' :: rest => outcome (letters "rue".toList rest)
  | 'f' :: rest => outcome (letters "alse".toList rest)
  | '"' :: rest => outcome (stringRest [] rest)
  | '[' :: _ => .badData
  | '\x7b' :: _ => .badData
  | c :: _ => if c = '-' ∨ c.isDigit then outcome (numberText cs) else .badText

def readString : Reader String := fun cs =>
  match dropBlanks cs with
  | '"' :: rest => (stringRest [] rest).map fun (s, rest) => (String.ofList s, rest)
  | cs => .error (mismatch cs)

def readBool : Reader Bool := fun cs =>
  match dropBlanks cs with
  | 't' :: rest => (letters "rue".toList rest).map fun (_, rest) => (true, rest)
  | 'f' :: rest => (letters "alse".toList rest).map fun (_, rest) => (false, rest)
  | cs => .error (mismatch cs)

end ShaderBuild.Json
