import ShaderBuild.Text.Blank
import ShaderBuild.Text.Split

/-!
What a line of source text asks for. Only includes and `#pragma once` are directives here;
every other line is plain text.
-/

namespace ShaderBuild

/-- How an include is written: in angle brackets or in quotes. -/
inductive IncludeKind where
  | standard
  | relative
  deriving DecidableEq, Repr, Inhabited

namespace IncludeKind

def opening : IncludeKind → Char
  | standard => '<'
  | relative => '"'

def closing : IncludeKind → Char
  | standard => '>'
  | relative => '"'

end IncludeKind

namespace Text

def dropPrefix? (word cs : List Char) : Option (List Char) :=
  if word.isPrefixOf cs then some (cs.drop word.length) else none

end Text

/-- The text after the number sign of a directive, with the blanks on both sides of the sign
dropped. -/
def directiveBody? (line : List Char) : Option (List Char) :=
  match Text.trimStart line with
  | '#' :: rest => some (Text.trimStart rest)
  | _ => none

/-- A line read as an include. -/
inductive IncludeLine where
  | other
  | malformed
  | request (kind : IncludeKind) (identifier : List Char)
  deriving DecidableEq, Repr

namespace IncludeLine

/-- The operand up to its closing delimiter, which must be there and not come first. -/
def ofOperand (kind : IncludeKind) (operand : List Char) : IncludeLine :=
  match Text.splitFirst? kind.closing operand with
  | some (c :: identifier, _) => request kind (c :: identifier)
  | _ => malformed

/-- Whether the text after the word `include` leaves it a word of its own. -/
def endsWord : List Char → Bool
  | [] => true
  | c :: _ => Text.isBlank c || c == '<' || c == '"'

def ofLine (line : List Char) : IncludeLine :=
  match (directiveBody? line).bind (Text.dropPrefix? "include".toList) with
  | none => other
  | some rest =>
    if endsWord rest then
      match Text.trimStart rest with
      | '<' :: operand => ofOperand .standard operand
      | '"' :: operand => ofOperand .relative operand
      | _ => malformed
    else other

end IncludeLine

/-- Whether a line keeps its file from being expanded more than once. -/
def isPragmaOnce (line : List Char) : Bool :=
  match (directiveBody? line).bind (Text.dropPrefix? "pragma".toList) with
  | some rest => Text.trim rest == "once".toList
  | none => false

/-- Whether a line starts with the word that gives the language version. -/
def isVersion (line : List Char) : Bool :=
  match directiveBody? line with
  | some body => "version".toList.isPrefixOf body
  | none => false

def hasPragmaOnce (cs : List Char) : Bool := (Text.lines cs).any isPragmaOnce

end ShaderBuild
