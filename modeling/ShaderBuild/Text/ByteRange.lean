import ShaderBuild.Text.CharSet

/-!
The encodings of a range of characters as sequences of byte ranges: each sequence stands
for all texts with one byte from each of its ranges.
-/

namespace ShaderBuild

abbrev ByteRange := Nat × Nat

namespace ByteRange

/-- Cuts a range of code points behind `last`, if that falls inside it. -/
def cutAfter (last : Nat) (r : Nat × Nat) : List (Nat × Nat) :=
  if r.1 ≤ last ∧ last < r.2 then [(r.1, last), (last + 1, r.2)] else [r]

/-- Leaves out the surrogates, which are no characters. -/
def dropSurrogates (r : Nat × Nat) : List (Nat × Nat) :=
  if r.1 < 0xE000 ∧ 0xD7FF < r.2 then
    [(r.1, 0xD7FF), (0xE000, r.2)].filter fun r => r.1 ≤ r.2
  else [r]

/-- Cuts a range into parts of which each lies in one block of `size` code points or consists of
whole blocks. -/
def align (size : Nat) (r : Nat × Nat) : List (Nat × Nat) :=
  if r.1 / size = r.2 / size then [r]
  else
    let start := if r.1 % size = 0 then
      [r] else [(r.1, (r.1 / size + 1) * size - 1), ((r.1 / size + 1) * size, r.2)]
    start.flatMap fun r =>
      if r.1 / size = r.2 / size ∨ r.2 % size = size - 1 then [r]
      else [(r.1, r.2 / size * size - 1), (r.2 / size * size, r.2)]

/-- The bytes of a code point. -/
def encode (n : Nat) : List Nat :=
  if n < 0x80 then [n]
  else if n < 0x800 then [0xC0 + n / 64, 0x80 + n % 64]
  else if n < 0x10000 then [0xE0 + n / 4096, 0x80 + n / 64 % 64, 0x80 + n % 64]
  else [0xF0 + n / 262144, 0x80 + n / 4096 % 64, 0x80 + n / 64 % 64, 0x80 + n % 64]

/-- The sequences for one range of code points, in ascending order. -/
def sequencesOf (r : Nat × Nat) : List (List ByteRange) :=
  let parts := (dropSurrogates r).flatMap (cutAfter 0x7F)
    |>.flatMap (cutAfter 0x7FF) |>.flatMap (cutAfter 0xFFFF)
  parts.flatMap fun r =>
    if r.2 < 0x80 then [[r]]
    else
      ((align 64 r).flatMap (align 4096)).flatMap (align 262144)
        |>.map fun r => (encode r.1).zip (encode r.2)

def sequences (s : CharSet) : List (List ByteRange) := s.ranges.flatMap sequencesOf

end ByteRange

end ShaderBuild
