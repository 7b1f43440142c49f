/-!
Writing compact JSON.
-/

namespace ShaderBuild.Json

def hexDigit (n : Nat) : Char := if n < 10 then Char.ofNat (0x30 + n) else Char.ofNat (0x57 + n)

/-- Quotes, backslashes and control characters are escaped, and nothing else. -/
def escapeChar (c : Char) : List Char :=
  match c with
  | '"' => ['\\', '"']
  | '\\' => ['\\', '\\']
  | '\x08' => ['\\', 'b']
  | '\x09' => ['\\', 't']
  | '\x0a' => ['\\', 'n']
  | '\x0c' => ['\\', 'f']
  | '\x0d' => ['\\', 'r']
  | c =>
    if c.toNat < 0x20 then ['\\', 'u', '0', '0', hexDigit (c.toNat / 16), hexDigit (c.toNat % 16)]
    else [c]

def string (s : String) : List Char := '"' :: s.toList.flatMap escapeChar ++ ['"']

def number (n : Nat) : List Char := Nat.toDigits 10 n

def bool (b : Bool) : List Char := if b then "true".toList else "false".toList

def commas : List (List Char) → List Char
  | [] => []
  | [item] => item
  | item :: rest => item ++ ',' :: commas rest

def array (items : List (List Char)) : List Char := '[' :: commas items ++ [']']

/-- An object with its members in the given order. -/
def object (members : List (String × List Char)) : List Char :=
  '\x7b' :: commas (members.map fun (name, value) => string name ++ ':' :: value) ++ ['\x7d']

end ShaderBuild.Json
