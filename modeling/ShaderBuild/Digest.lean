import ShaderBuild.Hash.Blake3
import ShaderBuild.Text.Hex

/-!
Content digests: the 32-byte BLAKE3 hash of a text or a byte string, with its
hexadecimal form.
-/

namespace ShaderBuild

structure Digest where
  bytes : Bytes
  length_bytes : bytes.length = 32
  deriving DecidableEq, Repr

namespace Digest

def ofBytes (data : Bytes) : Digest := ⟨Blake3.hash data, Blake3.length_hash data⟩

def ofText (s : String) : Digest := ofBytes (Bytes.ofText s)

/-- The digest of no bytes at all. -/
def empty : Digest := ofBytes []

instance : Inhabited Digest := ⟨empty⟩

/-- The 64 digits of the digest, in lower case. -/
def hex (d : Digest) : String := String.ofList (Hex.encode d.bytes)

/-- The first two bytes, as shown in debugging output. -/
def summary (d : Digest) : String :=
  "ContentHash(" ++ String.ofList (Hex.encode (d.bytes.take 2)) ++ "..)"

/-- A text that is not the form of a digest. -/
structure Malformed where
  input : String
  deriving DecidableEq, Repr

def Malformed.message (e : Malformed) : String :=
  "invalid content hash '" ++ e.input ++ "': expected 64 hex characters"

/-- Reads 64 hexadecimal digits of either case. -/
def ofHex (s : String) : Except Malformed Digest :=
  match Hex.decode? s.toList with
  | some b => if h : b.length = 32 then .ok ⟨b, h⟩ else .error ⟨s⟩
  | none => .error ⟨s⟩

/-- Digests are ordered byte by byte. -/
def le (a b : Digest) : Bool := decide (a.bytes ≤ b.bytes)

end Digest

/-- A broken rule inside the program itself, as opposed to a fault in what it was given. -/
structure InternalError where
  message : String
  deriving DecidableEq, Repr

def InternalError.text (e : InternalError) : String := "internal error: " ++ e.message

end ShaderBuild
