import ShaderBuild.Source.Directive
import ShaderBuild.Text.Utf8

/-!
Placing `#define` lines in expanded source text: after the line that gives the language
version, or at the top.
-/

namespace ShaderBuild

/-- A macro name with its value; an empty value means none. -/
abbrev Define := String × String

namespace Define

def line (d : Define) : List Char :=
  "#define ".toList ++ d.1.toList ++ (if d.2 = "" then [] else ' ' :: d.2.toList) ++ ['\n']

def block (defines : List Define) : List Char := defines.flatMap line

/-- The byte offset after the first version line, when every line is taken to end in one byte. -/
def versionEnd? (start : Nat) : List (List Char) → Option Nat
  | [] => none
  | line :: rest =>
    let stop := start + Text.byteLength line + 1
    if isVersion line then some stop else versionEnd? stop rest

/-- Splits a text at a byte offset, which must not be inside a character. -/
def splitAtByte? (before : List Char) : (offset : Nat) → List Char → Option (List Char × List Char)
  | 0, cs => some (before.reverse, cs)
  | _ + 1, [] => none
  | offset + 1, c :: cs =>
    if c.utf8Size ≤ offset + 1 then splitAtByte? (c :: before) (offset + 1 - c.utf8Size) cs
    else none

/-- Adds the lines of the defines to `code`. There is no result if the place for them, counted in
bytes, is inside a character. -/
def inject? (code : List Char) (defines : List Define) : Option (List Char) :=
  if defines = [] then some code
  else match versionEnd? 0 (Text.lines code) with
    | none => some (block defines ++ code)
    | some stop =>
      match splitAtByte? [] (min stop (Text.byteLength code)) code with
      | some (before, after) =>
        some (before ++ (if before.getLast? = some '\n' then [] else ['\n']) ++
          block defines ++ after)
      | none => none

end Define

end ShaderBuild
