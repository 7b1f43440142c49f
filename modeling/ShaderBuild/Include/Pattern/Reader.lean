import ShaderBuild.Include.Pattern.Bracket
import ShaderBuild.Include.Pattern.Size
import ShaderBuild.Text.Alphanumeric

/-!
Reading the text form of a regular expression: literals, escapes, character classes,
groups, flags, anchors and repetition. Look-around and back references are not part of the
form. What is known of Unicode properties is a parameter. Expressions that nest too deep or
need too large an automaton are refused.
-/

namespace ShaderBuild.Regex

/-! ## Repetition counts -/

def maxCount : Nat := 0xFFFFFFFF

def isDigit (c : Char) : Bool := '0' ≤ c && c ≤ '9'

/-- A repetition count, with blanks allowed around it. -/
def count? (flags : Flags) (cs : List Char) : Option (Nat × List Char) :=
  let (digits, rest) := spacedSpan flags isDigit (cs.dropWhile Text.isBlank)
  let n := digits.foldl (fun n c => 10 * n + (c.toNat - '0'.toNat)) 0
  if digits = [] ∨ maxCount < n then none else some (n, rest.dropWhile Text.isBlank)

/-- The bounds of a repetition whose opening brace has been read. -/
def counts? (flags : Flags) (cs : List Char) : Option ((Nat × Option Nat) × List Char) := do
  let (least, rest) ← count? flags (skip flags cs)
  match rest with
  | '}' :: rest => return ((least, some least), rest)
  | ',' :: rest =>
    match skip flags rest with
    | '}' :: rest => return ((least, none), rest)
    | rest =>
      let (most, rest) ← count? flags rest
      match rest with
      | '}' :: rest => if least ≤ most then return ((least, some most), rest) else none
      | _ => none
  | _ => none

/-! ## Flags and names of groups -/

def setFlag? (flags : Flags) (on : Bool) : Char → Option Flags
  | 'i' => some { flags with ignoreCase := on }
  | 'm' => some { flags with multiLine := on }
  | 's' => some { flags with dotAll := on }
  | 'R' => some { flags with carriage := on }
  | 'u' => some { flags with unicode := on }
  | 'x' => some { flags with verbose := on }
  | 'U' => some { flags with swapGreed := on }
  | _ => none

/-- Reads flags up to a colon or a closing parenthesis. No flag may be given twice, and a hyphen
turns off what follows it. -/
def flags? (seen : List Char) (on : Bool) (flags : Flags) : List Char → Option (Flags × List Char)
  | [] => none
  | ':' :: rest => if seen.getLast? = some '-' then none else some (flags, ':' :: rest)
  | ')' :: rest => if seen.getLast? = some '-' ∨ seen = [] then none else some (flags, ')' :: rest)
  | '-' :: rest => if on then flags? (seen ++ ['-']) false flags rest else none
  | c :: rest =>
    if seen.contains c then none
    else match setFlag? flags on c with
      | some flags => flags? (seen ++ [c]) on flags rest
      | none => none

/-- The name of a group up to the angle bracket that closes it. -/
def groupName? (cs : List Char) : Option (List Char × List Char) :=
  let isFirst (c : Char) : Bool := c == '_' || Text.isAlphabetic c
  let isLater (c : Char) : Bool :=
    c == '_' || c == '.' || c == '[' || c == ']' || Text.isAlphanumeric c
  match cs.takeWhile (· ≠ '>'), cs.dropWhile (· ≠ '>') with
  | first :: later, '>' :: rest =>
    if isFirst first && later.all isLater then some (first :: later, rest) else none
  | _, _ => none

/-! ## Open groups -/

/-- What a part of the text has been read to, and how deep it nests. A change of flags counts as a
part but cannot be repeated. -/
structure Item where
  regex : Regex
  depth : Nat
  repeatable : Bool

namespace Item

def flagChange : Item := ⟨empty, 0, false⟩

def leaf (r : Regex) : Item := ⟨r, 0, true⟩

/-- Several parts nest one deeper than each of them. -/
def depthOf (items : List Item) : Nat :=
  let depth := items.foldl (fun n item => max n item.depth) 0
  if items.length ≤ 1 then depth else depth + 1

end Item

/-- A group that is open: the flags around it, its number if it has one, and in reverse order its
finished alternatives and the items of the last one. -/
structure Level where
  flags : Flags
  index : Option Nat
  done : List Item
  items : List Item

namespace Level

def ofGroup (flags : Flags) (index : Option Nat) : Level := ⟨flags, index, [], []⟩

def push (l : Level) (item : Item) : Level := { l with items := item :: l.items }

def sequence (l : Level) : Item :=
  ⟨Regex.sequence (l.items.reverse.map Item.regex), Item.depthOf l.items, true⟩

def nextAlternative (l : Level) : Level := { l with done := l.sequence :: l.done, items := [] }

def content (l : Level) : Item :=
  match l.done with
  | [] => l.sequence
  | done =>
    let all := l.sequence :: done
    ⟨alternatives (all.reverse.map Item.regex), Item.depthOf all, true⟩

/-- The group as one part of what is around it. -/
def close (l : Level) : Item :=
  let inner := l.content
  let regex := match l.index with
    | some index => group index inner.regex
    | none => inner.regex
  ⟨regex, inner.depth + 1, true⟩

end Level

/-- The innermost open group and those around it, the flags in force, the number of groups that have
one and the names so far. -/
structure Progress where
  flags : Flags
  groups : Nat
  names : List (List Char)
  level : Level
  outer : List Level

namespace Progress

def start : Progress := ⟨{}, 0, [], .ofGroup {} none, []⟩

def push (p : Progress) (item : Item) : Progress := { p with level := p.level.push item }

def pushLeaf (p : Progress) (r : Regex) : Progress := p.push (.leaf r)

/-- Opens a group; `flags` hold inside of it. Groups that nest too deep are refused here already. -/
def openGroup? (p : Progress) (index : Option Nat) (flags : Flags) : Option Progress :=
  if p.outer.length < Bracket.maxDepth then
    some { p with flags, level := .ofGroup p.flags index, outer := p.level :: p.outer }
  else none

def openNumbered? (p : Progress) : Option Progress :=
  { p with groups := p.groups + 1 }.openGroup? (some (p.groups + 1)) p.flags

def openNamed? (p : Progress) (name : List Char) : Option Progress :=
  if p.names.contains name then none else { p with names := name :: p.names }.openNumbered?

def closeGroup? (p : Progress) : Option Progress :=
  match p.outer with
  | [] => none
  | around :: outer =>
    some { p with flags := p.level.flags, level := around.push p.level.close, outer }

/-- Applies a repetition to the last item. -/
def repeatLast? (p : Progress) (least : Nat) (most : Option Nat) (lazy : Bool) : Option Progress :=
  match p.level.items with
  | item :: items =>
    if item.repeatable && item.depth < Bracket.maxDepth then
      let regex := repetition item.regex least most (lazy == p.flags.swapGreed)
      some { p with level := { p.level with items := ⟨regex, item.depth + 1, true⟩ :: items } }
    else none
  | [] => none

/-- A repetition given by one character. A question mark right after it turns the preference
around. -/
def repeatPlain? (p : Progress) (least : Nat) (most : Option Nat) :
    List Char → Option (Progress × List Char)
  | '?' :: rest => (p.repeatLast? least most true).map (·, rest)
  | rest => (p.repeatLast? least most false).map (·, rest)

/-- A repetition given by counts; blanks may stand before the question mark. -/
def repeatCounted? (p : Progress) (cs : List Char) : Option (Progress × List Char) := do
  let ((least, most), rest) ← counts? p.flags cs
  match skip p.flags rest with
  | '?' :: rest => return (← p.repeatLast? least most true, rest)
  | rest => return (← p.repeatLast? least most false, rest)

/-- What follows an opening parenthesis. -/
def group? (p : Progress) (cs : List Char) : Option (Progress × List Char) :=
  let named (text : List Char) := do
    let (name, rest) ← groupName? text
    return (← p.openNamed? name, rest)
  match skip p.flags cs with
  | '?' :: 'P' :: '<' :: rest => named rest
  | '?' :: '<' :: rest => named rest
  | '?' :: rest => do
    match ← flags? [] true p.flags rest with
    | (inner, ':' :: rest) => return (← p.openGroup? none inner, rest)
    | (inner, _ :: rest) => return ({ p with flags := inner }.push .flagChange, rest)
    | _ => none
  | rest => p.openNumbered?.map (·, rest)

/-- Any character but a line feed, unless the flags say otherwise. -/
def dot? (flags : Flags) : Option Regex :=
  if !flags.unicode then none
  else if flags.dotAll then some (ofSet .full false)
  else if flags.carriage then some (ofSet (CharSet.complement ⟨[(0xA, 0xA), (0xD, 0xD)]⟩) false)
  else some (ofSet (CharSet.complement (.ofChar '\n')) false)

def lineAnchor (flags : Flags) (text line returnLine : Anchor) : Regex :=
  anchor (if !flags.multiLine then text else if flags.carriage then returnLine else line)

def escaped? (properties : Text.Properties) (p : Progress) (cs : List Char) :
    Option (Progress × List Char) := do
  match ← escape? properties p.flags cs with
  | (.char c asByte, rest) =>
    if asByte && !p.flags.unicode && 0x80 ≤ c.toNat then none
    else return (p.pushLeaf (ofChar p.flags c), rest)
  | (.set s, rest) => return (p.pushLeaf (ofSet s !p.flags.unicode), rest)
  | (.anchor a, rest) => return (p.pushLeaf (anchor a), rest)

/-- Reads the next part of the text, which is not empty. -/
def step? (properties : Text.Properties) (p : Progress) (c : Char) (rest : List Char) :
    Option (Progress × List Char) :=
  match c with
  | '(' => p.group? rest
  | ')' => p.closeGroup?.map (·, rest)
  | '|' => some ({ p with level := p.level.nextAlternative }, rest)
  | '*' => p.repeatPlain? 0 none rest
  | '+' => p.repeatPlain? 1 none rest
  | '?' => p.repeatPlain? 0 (some 1) rest
  | '{' => p.repeatCounted? rest
  | '[' => do
    let ((chars, depth), rest) ← bracket? properties p.flags rest
    return (p.push ⟨ofSet chars !p.flags.unicode, depth, true⟩, rest)
  | '.' => (dot? p.flags).map fun r => (p.pushLeaf r, rest)
  | '^' => some (p.pushLeaf (lineAnchor p.flags .textStart .lineStart .returnLineStart), rest)
  | '$' => some (p.pushLeaf (lineAnchor p.flags .textEnd .lineEnd .returnLineEnd), rest)
  | '\\' => p.escaped? properties rest
  | c => some (p.pushLeaf (ofChar p.flags c), rest)

/-- Reads to the end of the text; all groups must be closed there. -/
def run? (properties : Text.Properties) : (fuel : Nat) → Progress → List Char → Option Item
  | 0, _, _ => none
  | fuel + 1, p, cs =>
    match skip p.flags cs with
    | [] => if p.outer.isEmpty then some p.level.content else none
    | c :: rest =>
      match p.step? properties c rest with
      | some (p, rest) => run? properties fuel p rest
      | none => none

end Progress

/-- Reads an expression of any size. -/
def read? (properties : Text.Properties) (text : List Char) : Option Regex := do
  let item ← Progress.start.run? properties (text.length + 1) text
  if item.depth ≤ Bracket.maxDepth then some item.regex else none

/-- Reads an expression whose automata must fit. -/
def ofText? (properties : Text.Properties) (text : List Char) : Option Regex :=
  (read? properties text).filter fits

end ShaderBuild.Regex

namespace ShaderBuild.Pattern

/-- Reads `text` between the anchors of a whole match. The anchors are added to the text itself, so
parentheses in it may rearrange them. -/
def compile? (properties : Text.Properties) (text : String) : Option Pattern :=
  (Regex.ofText? properties ("^(?:".toList ++ text.toList ++ ")$".toList)).map fun r => ⟨r⟩

end ShaderBuild.Pattern
