import ShaderBuild.Bytes

/-!
Text as UTF-8: how many bytes it takes, and where a byte string stops being UTF-8.
-/

namespace ShaderBuild

/-- The number of bytes that a text takes. -/
def Text.byteLength : List Char → Nat
  | [] => 0
  | c :: rest => c.utf8Size + Text.byteLength rest

/-- The first fault in bytes that are not UTF-8: how many bytes before it are valid, and how many
bytes are wrong. There is no such number where the text ends inside a character. -/
structure Utf8Fault where
  valid : Nat
  wrong : Option Nat
  deriving DecidableEq, Repr

namespace Utf8Fault

def message (f : Utf8Fault) : String :=
  match f.wrong with
  | some n => "invalid utf-8 sequence of " ++ toString n ++ " bytes from index " ++ toString f.valid
  | none => "incomplete utf-8 byte sequence from index " ++ toString f.valid

/-- The bytes that may follow the first byte of a character, as lowest and highest value each; the
first byte is wrong by itself if there is no answer. -/
def following (first : UInt8) : Option (List (UInt8 × UInt8)) :=
  let any : UInt8 × UInt8 := (0x80, 0xBF)
  if first < 0x80 then some []
  else if first < 0xC2 then none
  else if first < 0xE0 then some [any]
  else if first = 0xE0 then some [(0xA0, 0xBF), any]
  else if first = 0xED then some [(0x80, 0x9F), any]
  else if first < 0xF0 then some [any, any]
  else if first = 0xF0 then some [(0x90, 0xBF), any, any]
  else if first < 0xF4 then some [any, any, any]
  else if first = 0xF4 then some [(0x80, 0x8F), any, any]
  else none

/-- Takes the bytes of one character after its first. On failure, the number of bytes that are
wrong. -/
def takeFollowing : (taken : Nat) → List (UInt8 × UInt8) → Bytes → Except (Option Nat) (Nat × Bytes)
  | taken, [], rest => .ok (taken, rest)
  | _, _ :: _, [] => .error none
  | taken, (low, high) :: ranges, b :: rest =>
    if low ≤ b ∧ b ≤ high then takeFollowing (taken + 1) ranges rest else .error (some taken)

def scan : (fuel : Nat) → (valid : Nat) → Bytes → Option Utf8Fault
  | 0, _, _ => none
  | _, _, [] => none
  | fuel + 1, valid, b :: rest =>
    match following b with
    | none => some ⟨valid, some 1⟩
    | some ranges =>
      match takeFollowing 1 ranges rest with
      | .error wrong => some ⟨valid, wrong⟩
      | .ok (taken, rest) => scan fuel (valid + taken) rest

/-- The first fault, if there is one. -/
def first? (b : Bytes) : Option Utf8Fault := scan (b.length + 1) 0 b

end Utf8Fault

end ShaderBuild
