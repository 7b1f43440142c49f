import ShaderBuild.Cache.MetadataReader
import ShaderBuild.Text.Utf8

/-!
The stored form of a cache: the length of the metadata in eight bytes, the metadata as
JSON text, and the code of all entries in order. Reading accepts nothing that could make
it look outside the bytes it was given.
-/

namespace ShaderBuild

/-- Why bytes are not the stored form of a cache. -/
inductive DecodeError where
  | tooShort (length : Nat)
  | metadataOutOfBounds (declared available : Nat)
  | notText (fault : Utf8Fault)
  | badMetadata (fault : Json.Fault)
  | lengthMismatch (entries ranges : Nat)
  | codeOutOfBounds (index offset size region : Nat)
  | codeOverlap (index offset previousEnd : Nat)
  deriving DecidableEq, Repr

namespace DecodeError

def message : DecodeError → String
  | tooShort length =>
    "truncated cache blob: " ++ toString length ++ " bytes, expected at least 8"
  | metadataOutOfBounds declared available =>
    "metadata length " ++ toString declared ++ " exceeds the " ++ toString available ++
      " bytes available"
  | notText fault => "cache metadata is not valid UTF-8: " ++ fault.message
  | badMetadata _ => "invalid cache metadata:"
  | lengthMismatch entries ranges =>
    toString entries ++ " entries but " ++ toString ranges ++ " shader creation params"
  | codeOutOfBounds index offset size region =>
    "code range of entry " ++ toString index ++ " (" ++ toString offset ++ "+" ++ toString size ++
      ") exceeds the " ++ toString region ++ "-byte code region"
  | codeOverlap index offset previousEnd =>
    "code range of entry " ++ toString index ++ " at offset " ++ toString offset ++
      " overlaps the previous range ending at " ++ toString previousEnd

end DecodeError

namespace Cache

variable {fingerprint : ShaderKey → Hash128}

/-- The number of bytes that hold the length of the metadata. -/
def lengthBytes : Nat := 8

/-- One more than the largest number that a stored length or offset can be. -/
def wordLimit : Nat := 0x10000000000000000

/-- The metadata as JSON text, if there is one. -/
def metadataText? (c : Cache fingerprint) : Option String :=
  (Metadata.ofEntries c.entries).json?.map String.ofList

def region (c : Cache fingerprint) : Bytes := c.entries.flatMap fun e => e.shader.code

/-- The metadata in front of the code, with their length. -/
def preamble (metadataText : String) : Bytes :=
  let metadata := Bytes.ofText metadataText
  Bytes.littleEndian lengthBytes metadata.length ++ metadata

/-- Metadata without a text: a directory that an include is asked for from has none. -/
def notEncodable : InternalError :=
  ⟨"cache metadata encoding failed: path contains invalid UTF-8 characters"⟩

def serialize (c : Cache fingerprint) : Except InternalError Bytes :=
  match c.metadataText? with
  | some text => .ok (preamble text ++ c.region)
  | none => .error notEncodable

/-- Takes the code of the entries from `index` on out of the region. Every range must lie in the
region, and must not start before the one before it ends. -/
def takeEntries (region : Bytes) : (index previousEnd : Nat) → List EntryRecord → List CodeRange →
    Except DecodeError (List CacheEntry)
  | index, previousEnd, e :: entries, r :: ranges =>
    let stop := r.offset + r.size
    if wordLimit ≤ stop ∨ region.length < stop then
      .error (.codeOutOfBounds index r.offset r.size region.length)
    else if r.offset < previousEnd then .error (.codeOverlap index r.offset previousEnd)
    else
      let code := (region.drop r.offset).take r.size
      (takeEntries region (index + 1) stop entries ranges).map
        (⟨e.key, e.dependencies, ⟨r.stage, r.contentType, r.hint, code⟩⟩ :: ·)
  | _, _, _, _ => .ok []

def entriesOf (m : Metadata) (region : Bytes) : Except DecodeError (List CacheEntry) :=
  if m.entries.length ≠ m.ranges.length then
    .error (.lengthMismatch m.entries.length m.ranges.length)
  else takeEntries region 0 0 m.entries m.ranges

def deserialize (b : Bytes) : Except DecodeError (Cache fingerprint) :=
  if b.length < lengthBytes then .error (.tooShort b.length)
  else
    let declared := Bytes.toNat (b.take lengthBytes)
    let rest := b.drop lengthBytes
    if rest.length < declared then .error (.metadataOutOfBounds declared rest.length)
    else
      let text := rest.take declared
      match Bytes.text? text with
      | none => .error (.notText ((Utf8Fault.first? text).getD ⟨0, none⟩))
      | some text =>
        match Metadata.ofText text with
        | .error fault => .error (.badMetadata fault)
        | .ok m => (entriesOf m (rest.drop declared)).map ofList

end Cache

end ShaderBuild
