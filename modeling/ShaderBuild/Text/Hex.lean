import ShaderBuild.Bytes

/-!
Bytes as hexadecimal text, two digits a byte. Writing uses lower case, reading
takes either case.
-/

namespace ShaderBuild.Hex

def digit (n : Nat) : Char :=
  if n < 10 then Char.ofNat ('0'.toNat + n) else Char.ofNat ('a'.toNat + (n - 10))

def value? (c : Char) : Option Nat :=
  if '0' ≤ c ∧ c ≤ '9' then some (c.toNat - '0'.toNat)
  else if 'a' ≤ c ∧ c ≤ 'f' then some (c.toNat - 'a'.toNat + 10)
  else if 'A' ≤ c ∧ c ≤ 'F' then some (c.toNat - 'A'.toNat + 10)
  else none

def encodeByte (b : UInt8) : List Char := [digit (b.toNat / 16), digit (b.toNat % 16)]

def encode (b : Bytes) : List Char := b.flatMap encodeByte

/-- The bytes of an even number of digits. -/
def decode? : List Char → Option Bytes
  | [] => some []
  | [_] => none
  | c :: d :: rest =>
    match value? c, value? d, decode? rest with
    | some high, some low, some b => some ((16 * high + low).toUInt8 :: b)
    | _, _, _ => none

end ShaderBuild.Hex
