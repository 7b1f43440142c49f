/-!
Byte strings: integers in little-endian order and text in UTF-8.
-/

namespace ShaderBuild

abbrev Bytes := List UInt8

namespace Bytes

/-- The `count` low bytes of `value`, least significant first. -/
def littleEndian : (count value : Nat) → Bytes
  | 0, _ => []
  | count + 1, value => value.toUInt8 :: littleEndian count (value / 256)

/-- The number whose base-256 digits are the bytes, least significant first. -/
def toNat : Bytes → Nat
  | [] => 0
  | b :: rest => b.toNat + 256 * toNat rest

@[simp] theorem length_littleEndian (count value : Nat) :
    (littleEndian count value).length = count := by
  induction count generalizing value with
  | zero => rfl
  | succ count ih => simp [littleEndian, ih]

/-- The UTF-8 form of a text. -/
def ofText (s : String) : Bytes := s.toByteArray.data.toList

/-- A text stands for its UTF-8 form. -/
instance : Coe String Bytes := ⟨ofText⟩

/-- The text that the bytes encode, if they are valid UTF-8. -/
def text? (b : Bytes) : Option String := String.fromUTF8? ⟨b.toArray⟩

@[simp] theorem text?_ofText (s : String) : text? (ofText s) = some s := by
  have h : (⟨s.toByteArray.data.toList.toArray⟩ : ByteArray) = s.toByteArray := rfl
  rw [text?, ofText, h, String.fromUTF8?, dif_pos s.isValidUTF8]
  rfl

theorem ofText_injective {s t : String} (h : ofText s = ofText t) : s = t :=
  Option.some.inj (by rw [← text?_ofText s, h, text?_ofText])

theorem ofText_of_text? {b : Bytes} {s : String} (h : text? b = some s) : ofText s = b := by
  unfold text? String.fromUTF8? at h
  split at h
  · cases h
    rfl
  · simp at h

theorem ofText_ofList (cs : List Char) :
    ofText (String.ofList cs) = cs.flatMap String.utf8EncodeChar := by
  simp [ofText, List.utf8Encode]

end Bytes

end ShaderBuild
