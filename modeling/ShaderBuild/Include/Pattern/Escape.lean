import ShaderBuild.Include.Pattern.Normal
import ShaderBuild.Text.Blank
import ShaderBuild.Text.CaseVariant
import ShaderBuild.Text.Hex
import ShaderBuild.Text.Property

/-!
The escapes of the text form of regular expressions, the flags that change what the text
means, and the classes of characters that have a name.
-/

namespace ShaderBuild.Regex

structure Flags where
  ignoreCase : Bool := false
  multiLine : Bool := false
  dotAll : Bool := false
  carriage : Bool := false
  unicode : Bool := true
  verbose : Bool := false
  swapGreed : Bool := false
  deriving DecidableEq, Repr, Inhabited

/-! ## Blanks and comments -/

def skipFrom : (inComment : Bool) → List Char → List Char
  | _, [] => []
  | true, c :: rest => skipFrom (c ≠ '\n') rest
  | false, c :: rest =>
    if Text.isBlank c then skipFrom false rest
    else if c = '#' then skipFrom true rest
    else c :: rest

theorem length_skipFrom_le (inComment : Bool) (cs : List Char) :
    (skipFrom inComment cs).length ≤ cs.length := by
  induction cs generalizing inComment with
  | nil => simp [skipFrom]
  | cons c rest ih =>
    cases inComment with
    | true => exact Nat.le_succ_of_le (ih _)
    | false =>
      unfold skipFrom
      split
      · exact Nat.le_succ_of_le (ih _)
      · split
        · exact Nat.le_succ_of_le (ih _)
        · exact Nat.le_refl _

/-- In verbose text, blanks and comments count for nothing. -/
def skip (flags : Flags) (cs : List Char) : List Char :=
  if flags.verbose then skipFrom false cs else cs

theorem length_skip_le (flags : Flags) (cs : List Char) : (skip flags cs).length ≤ cs.length := by
  unfold skip
  split
  · exact length_skipFrom_le _ _
  · exact Nat.le_refl _

/-! ## Numbers -/

/-- The leading characters that `p` holds for, and the rest. What is skipped between them and behind
them belongs to neither. -/
def spacedSpan (flags : Flags) (p : Char → Bool) (cs : List Char) : List Char × List Char :=
  match cs with
  | [] => ([], [])
  | c :: rest =>
    if p c then
      let (found, rest) := spacedSpan flags p (skip flags rest)
      (c :: found, rest)
    else ([], c :: rest)
termination_by cs.length
decreasing_by exact Nat.lt_succ_of_le (length_skip_le flags rest)

def hexNumber? (digits : List Char) : Option Nat :=
  digits.foldlM (fun n c => (Hex.value? c).map (16 * n + ·)) 0

def scalar? (n : Nat) : Option Char :=
  if h : n.isValidChar then some (Char.ofNatAux n h) else none

/-- Exactly `n` hexadecimal digits. -/
def hexDigits? (flags : Flags) : (n : Nat) → List Char → Option (List Char × List Char)
  | 0, cs => some ([], cs)
  | _ + 1, [] => none
  | n + 1, c :: rest =>
    if (Hex.value? c).isSome then
      (hexDigits? flags n (skip flags rest)).map fun (digits, rest) => (c :: digits, rest)
    else none

/-! ## Classes with a name -/

def asciiDigits : CharSet := .ofRange 0x30 0x39

def asciiBlanks : CharSet := ⟨[(0x9, 0xD), (0x20, 0x20)]⟩

def asciiWord : CharSet := ⟨[(0x30, 0x39), (0x41, 0x5A), (0x5F, 0x5F), (0x61, 0x7A)]⟩

/-- Without Unicode a set must stay inside ASCII. -/
def checked? (flags : Flags) (s : CharSet) : Option CharSet :=
  if flags.unicode || s.isAscii then some s else none

/-- The classes written with a letter: digits, white space, word characters and their complements.
Without Unicode there are no complements. -/
def letterClass? (flags : Flags) (c : Char) : Option (Option CharSet) :=
  let positive (unicode ascii : CharSet) := some (some (if flags.unicode then unicode else ascii))
  let negative (unicode : CharSet) := some (if flags.unicode then some unicode.complement else none)
  match c with
  | 'd' => positive Text.decimals asciiDigits
  | 's' => positive Text.blanks asciiBlanks
  | 'w' => positive Text.wordCharacters asciiWord
  | 'D' => negative Text.decimals
  | 'S' => negative Text.blanks
  | 'W' => negative Text.wordCharacters
  | _ => none

/-- The classes with a name between colons. -/
def namedClass? (name : String) : Option CharSet :=
  match name with
  | "alnum" => some ⟨[(0x30, 0x39), (0x41, 0x5A), (0x61, 0x7A)]⟩
  | "alpha" => some ⟨[(0x41, 0x5A), (0x61, 0x7A)]⟩
  | "ascii" => some (.ofRange 0 0x7F)
  | "blank" => some ⟨[(0x9, 0x9), (0x20, 0x20)]⟩
  | "cntrl" => some ⟨[(0, 0x1F), (0x7F, 0x7F)]⟩
  | "digit" => some asciiDigits
  | "graph" => some (.ofRange 0x21 0x7E)
  | "lower" => some (.ofRange 0x61 0x7A)
  | "print" => some (.ofRange 0x20 0x7E)
  | "punct" => some ⟨[(0x21, 0x2F), (0x3A, 0x40), (0x5B, 0x60), (0x7B, 0x7E)]⟩
  | "space" => some asciiBlanks
  | "upper" => some (.ofRange 0x41 0x5A)
  | "word" => some asciiWord
  | "xdigit" => some ⟨[(0x30, 0x39), (0x41, 0x46), (0x61, 0x66)]⟩
  | _ => none

/-! ## Case -/

def asciiFolded (s : CharSet) : CharSet :=
  (List.range 26).foldl (fun acc k =>
    let acc := if s.containsCode (0x41 + k) then acc.insert (0x61 + k) (0x61 + k) else acc
    if s.containsCode (0x61 + k) then acc.insert (0x41 + k) (0x41 + k) else acc) s

/-- The set closed under change of case if the flags ask for it. -/
def folded (flags : Flags) (s : CharSet) : CharSet :=
  if !flags.ignoreCase then s
  else if flags.unicode then Text.closedUnderCase s
  else asciiFolded s

/-- A literal character; in text that ignores case, one with other cases is a set. -/
def ofChar (flags : Flags) (c : Char) : Regex :=
  if !flags.ignoreCase then literal [c]
  else if flags.unicode then
    ofSet ((Text.caseVariants c).foldl (fun s d => s.insert d.toNat d.toNat) (.ofChar c)) false
  else ofSet (asciiFolded (.ofChar c)) true

/-! ## Escapes -/

/-- What an escape stands for. A character written as a byte has two hexadecimal digits without
braces. -/
inductive Escape where
  | char (c : Char) (asByte : Bool)
  | set (s : CharSet)
  | anchor (a : Anchor)

/-- A code point in hexadecimal, in braces or with a fixed number of digits. -/
def hexEscape? (flags : Flags) (digits : Nat) (cs : List Char) : Option (Escape × List Char) := do
  match skip flags cs with
  | '{' :: body =>
    let (found, after) := spacedSpan flags (fun c => (Hex.value? c).isSome) (skip flags body)
    match after with
    | '}' :: rest =>
      if found = [] then none
      else return (.char (← (hexNumber? found).bind scalar?) false, skip flags rest)
    | _ => none
  | body =>
    let (found, rest) ← hexDigits? flags digits body
    return (.char (← (hexNumber? found).bind scalar?) (digits = 2), rest)

/-- The kinds of word boundary that are named in braces. Digits in braces are a repetition
instead. -/
def boundary? (flags : Flags) (rest : List Char) : Option (WordEdge × List Char) :=
  let isName (c : Char) : Bool := c.isAlpha || c == '-'
  match rest with
  | '{' :: body =>
    match spacedSpan flags isName (skip flags body) with
    | ([], []) => none
    | ([], _) => some (.boundary, rest)
    | (name, '}' :: after) =>
      match String.ofList name with
      | "start" => some (.wordStart, after)
      | "end" => some (.wordEnd, after)
      | "start-half" => some (.noneBefore, after)
      | "end-half" => some (.noneAfter, after)
      | _ => none
    | _ => none
  | _ => some (.boundary, rest)

/-! ## Unicode properties -/

/-- The texts around the first `sign` of a text. -/
def cutAt? (sign : List Char) : List Char → Option (List Char × List Char)
  | [] => none
  | c :: rest =>
    if sign.isPrefixOf (c :: rest) then some ([], (c :: rest).drop sign.length)
    else (cutAt? sign rest).map fun (before, after) => (c :: before, after)

/-- What the text between braces asks for. -/
structure PropertyTerm where
  property : Text.Property
  negated : Bool

/-- The signs between a name and a value come in this order, wherever they stand. -/
def PropertyTerm.ofText (text : List Char) : PropertyTerm :=
  let valued (cut : List Char × List Char) (negated : Bool) : PropertyTerm :=
    ⟨.valued (String.ofList cut.1) (String.ofList cut.2), negated⟩
  match cutAt? ['!', '='] text with
  | some cut => valued cut true
  | none =>
    match cutAt? [':'] text <|> cutAt? ['='] text with
    | some cut => valued cut false
    | none => ⟨.named (String.ofList text), false⟩

/-- Reads a property, which is one character or stands in braces. -/
def property? (flags : Flags) (cs : List Char) : Option (PropertyTerm × List Char) :=
  match skip flags cs with
  | [] => none
  | '\\' :: _ => none
  | '{' :: body =>
    match spacedSpan flags (· ≠ '}') (skip flags body) with
    | (text, '}' :: rest) => some (.ofText text, rest)
    | _ => none
  | c :: rest => some (⟨.named (String.singleton c), false⟩, rest)

/-- The characters that a property is about. Without Unicode there are no properties. -/
def propertyClass? (properties : Text.Properties) (flags : Flags) (negated : Bool)
    (term : PropertyTerm) : Option CharSet :=
  if flags.unicode then
    (properties.find? term.property).map fun s =>
      if negated != term.negated then (folded flags s).complement else folded flags s
  else none

/-- Reads the property behind its letter. -/
def propertyEscape? (properties : Text.Properties) (flags : Flags) (negated : Bool)
    (cs : List Char) : Option (Escape × List Char) := do
  let (term, rest) ← property? flags cs
  return (.set (← propertyClass? properties flags negated term), rest)

/-! ## All escapes -/

/-- Reads what follows a backslash. -/
def escape? (properties : Text.Properties) (flags : Flags) : List Char → Option (Escape × List Char)
  | [] => none
  | c :: rest =>
    let char (c : Char) : Option (Escape × List Char) := some (.char c false, rest)
    let edge (e : WordEdge) (rest : List Char) : Escape × List Char :=
      (.anchor (.word e !flags.unicode), rest)
    match letterClass? flags c with
    | some s => s.map (.set ·, rest)
    | none =>
      match c with
      | 'x' => hexEscape? flags 2 rest
      | 'u' => hexEscape? flags 4 rest
      | 'U' => hexEscape? flags 8 rest
      | 'p' => propertyEscape? properties flags false rest
      | 'P' => propertyEscape? properties flags true rest
      | 'a' => char '\x07'
      | 'f' => char '\x0c'
      | 't' => char '\t'
      | 'n' => char '\n'
      | 'r' => char '\r'
      | 'v' => char '\x0b'
      | 'A' => some (.anchor .textStart, rest)
      | 'z' => some (.anchor .textEnd, rest)
      | 'B' => some (edge .noBoundary rest)
      | 'b' => (boundary? flags rest).map fun (e, rest) => edge e rest
      | '<' => some (edge .wordStart rest)
      | '>' => some (edge .wordEnd rest)
      | _ => if c.toNat < 0x80 && !c.isAlphanum then char c else none

end ShaderBuild.Regex
