import Mathlib.Data.String.Basic
import ShaderBuild.Proofs.MetadataText

/-!
Digests as text. Main statement: `hex_faithful`. The 64 digits of a digest are read back as the
digest, no other texts are read than 64 hexadecimal digits, and texts are ordered as the digests
are.
-/

namespace ShaderBuild

namespace Hex

/-! ## Digits -/

/-- The digits that are read, of either case. -/
def digits : List Char := "0123456789abcdefABCDEF".toList

theorem lt_of_mem_digits {c : Char} (h : c ∈ digits) : c.toNat < 128 := by
  have hall : digits.all (fun d => d.toNat < 128) = true := by decide +kernel
  exact of_decide_eq_true (List.all_eq_true.1 hall c h)

/-- Among the first 128 characters, those have a value that are digits, and written again they are
in lower case. -/
theorem value?_ofNat {n : Nat} (h : n < 128) :
    (Char.ofNat n ∉ digits ∧ value? (Char.ofNat n) = none) ∨
      Char.ofNat n ∈ digits ∧ ∃ m < 16, value? (Char.ofNat n) = some m ∧
        digit m = (Char.ofNat n).toLower := by
  have hall : ∀ k < 128, (Char.ofNat k ∉ digits ∧ value? (Char.ofNat k) = none) ∨
      Char.ofNat k ∈ digits ∧ ∃ m < 16, value? (Char.ofNat k) = some m ∧
        digit m = (Char.ofNat k).toLower := by
    decide +kernel
  exact hall n h

theorem value?_eq_none_of_le {c : Char} (h : 128 ≤ c.toNat) : value? c = none := by
  have hlarge : ∀ d : Char, d.toNat < 128 → ¬c ≤ d := by
    intro d hd hle
    have hle : c.toNat ≤ d.toNat := hle
    omega
  rw [value?, if_neg fun hc => hlarge '9' (by decide) hc.2,
    if_neg fun hc => hlarge 'f' (by decide) hc.2, if_neg fun hc => hlarge 'F' (by decide) hc.2]

theorem value?_cases (c : Char) :
    (c ∉ digits ∧ value? c = none) ∨ c ∈ digits ∧ ∃ m < 16, value? c = some m ∧
      digit m = c.toLower := by
  by_cases h : c.toNat < 128
  · have hcases := value?_ofNat h
    rwa [Char.ofNat_toNat] at hcases
  · left
    exact ⟨fun hmem => h (lt_of_mem_digits hmem), value?_eq_none_of_le (Nat.not_lt.1 h)⟩

theorem digit_of_value? {c : Char} {m : Nat} (h : value? c = some m) :
    c ∈ digits ∧ m < 16 ∧ digit m = c.toLower := by
  rcases value?_cases c with ⟨-, hnone⟩ | ⟨hmem, n, hn, hsome, hdigit⟩
  · rw [h] at hnone
    cases hnone
  · rw [h] at hsome
    cases hsome
    exact ⟨hmem, hn, hdigit⟩

theorem exists_value_of_mem_digits {c : Char} (h : c ∈ digits) : ∃ m, value? c = some m := by
  rcases value?_cases c with ⟨hnot, -⟩ | ⟨-, m, -, hm, -⟩
  · exact absurd h hnot
  · exact ⟨m, hm⟩

theorem digit_lt_digit_iff {m n : Nat} (hm : m < 16) (hn : n < 16) : digit m < digit n ↔ m < n := by
  have hall : ∀ i < 16, ∀ j < 16, digit i < digit j ↔ i < j := by decide
  exact hall m hm n hn

theorem digit_inj {m n : Nat} (hm : m < 16) (hn : n < 16) : digit m = digit n ↔ m = n := by
  have hall : ∀ i < 16, ∀ j < 16, digit i = digit j ↔ i = j := by decide
  exact hall m hm n hn

/-! ## Bytes -/

theorem length_encode (b : Bytes) : (encode b).length = 2 * b.length := by
  induction b with
  | nil => rfl
  | cons x b ih =>
    rw [encode, List.flatMap_cons, ← encode, List.length_append, ih, List.length_cons]
    simp only [encodeByte, List.length_cons, List.length_nil]
    omega

theorem encodeByte_toUInt8 {high low : Nat} (hhigh : high < 16) (hlow : low < 16) :
    encodeByte (16 * high + low).toUInt8 = [digit high, digit low] := by
  have hsmall : 16 * high + low < 256 := by omega
  have hbyte : (16 * high + low).toUInt8.toNat = 16 * high + low := UInt8.toNat_ofNat_of_lt' hsmall
  have hdiv : (16 * high + low) / 16 = high := by omega
  have hmod : (16 * high + low) % 16 = low := by omega
  rw [encodeByte, hbyte, hdiv, hmod]

/-- What is read consists of digits, and is written again in lower case. -/
theorem encode_of_decode? {cs : List Char} {b : Bytes} (h : decode? cs = some b) :
    (∀ c ∈ cs, c ∈ digits) ∧ encode b = cs.map Char.toLower := by
  fun_induction decode? cs generalizing b with
  | case1 =>
    cases h
    exact ⟨by simp, rfl⟩
  | case2 c => cases h
  | case3 c d rest high low b' hrest hd hc ih =>
    cases h
    obtain ⟨hcmem, hhigh, hcdigit⟩ := digit_of_value? hc
    obtain ⟨hdmem, hlow, hddigit⟩ := digit_of_value? hd
    obtain ⟨hmem, hencode⟩ := ih hrest
    refine ⟨by simpa [hcmem, hdmem] using hmem, ?_⟩
    rw [encode, List.flatMap_cons, ← encode, hencode, encodeByte_toUInt8 hhigh hlow,
      hcdigit, hddigit]
    rfl
  | case4 => cases h

/-- An even number of digits is read. -/
theorem exists_decode {cs : List Char} {n : Nat} (hlength : cs.length = 2 * n)
    (h : ∀ c ∈ cs, c ∈ digits) :
    ∃ b, decode? cs = some b ∧ b.length = n := by
  induction n generalizing cs with
  | zero =>
    obtain rfl := List.length_eq_zero_iff.1 hlength
    exact ⟨[], rfl, rfl⟩
  | succ n ih =>
    obtain ⟨c, d, rest, rfl⟩ : ∃ c d rest, cs = c :: d :: rest := by
      match cs, hlength with
      | c :: d :: rest, _ => exact ⟨c, d, rest, rfl⟩
      | [_], hlength =>
        simp only [List.length_singleton] at hlength
        omega
    obtain ⟨high, hhigh⟩ := exists_value_of_mem_digits (h c (by simp))
    obtain ⟨low, hlow⟩ := exists_value_of_mem_digits (h d (by simp))
    have hrest : rest.length = 2 * n := by
      simp only [List.length_cons] at hlength
      omega
    obtain ⟨b, hb, hn⟩ := ih hrest fun e he => h e (by simp [he])
    exact ⟨(16 * high + low).toUInt8 :: b, by simp [decode?, hhigh, hlow, hb], by simp [hn]⟩

/-- Bytes are ordered as their digits are: of two bytes the smaller has the smaller digits, and
every byte has two. -/
theorem encode_lt_encode_iff {a b : Bytes} : encode a < encode b ↔ a < b := by
  induction a generalizing b with
  | nil =>
    cases b with
    | nil => simp [encode]
    | cons y b => simp [encode, encodeByte]
  | cons x a ih =>
    cases b with
    | nil => simp [encode, encodeByte]
    | cons y b =>
      have hx := x.toNat_lt
      have hy := y.toNat_lt
      have hencode : ∀ (z : UInt8) (c : Bytes),
          encode (z :: c) = digit (z.toNat / 16) :: digit (z.toNat % 16) :: encode c :=
            fun _ _ => rfl
      rw [hencode, hencode, List.cons_lt_cons_iff, List.cons_lt_cons_iff, List.cons_lt_cons_iff, ih,
        digit_lt_digit_iff (by omega) (by omega), digit_lt_digit_iff (by omega) (by omega),
        digit_inj (by omega) (by omega), digit_inj (by omega) (by omega), UInt8.lt_iff_toNat_lt,
          ← UInt8.toNat_inj]
      -- The first digit that differs decides, and what stands behind the byte if both do not.
      by_cases hrest : a < b
      · simp only [hrest, and_true]
        omega
      · simp only [hrest, and_false, or_false]
        omega

end Hex

namespace Digest

/-- The form that the text of a digest has: 64 hexadecimal digits of either case. -/
structure IsForm (s : String) : Prop where
  length_eq : s.length = 64
  digits : ∀ c ∈ s.toList, c ∈ Hex.digits

/-- The order of digests, strictly. -/
def Before (a b : Digest) : Prop := a.le b = true ∧ a ≠ b

theorem before_iff {a b : Digest} : a.Before b ↔ a.bytes < b.bytes := by
  have hne : a ≠ b ↔ a.bytes ≠ b.bytes := by
    rw [ne_eq, ne_eq, Digest.mk.injEq]
  rw [Before, le, decide_eq_true_iff, hne, List.le_iff_lt_or_eq]
  constructor
  · rintro ⟨h | h, hne⟩
    · exact h
    · exact absurd h hne
  · intro h
    exact ⟨.inl h, fun heq => List.lt_irrefl _ (heq ▸ h)⟩

/-- What is read as a digest has the form of one, and is the text of the digest but for the case of
letters. -/
theorem isForm_of_ofHex {s : String} {d : Digest} (h : ofHex s = .ok d) :
    IsForm s ∧ d.hex = s.toLower := by
  unfold ofHex at h
  split at h
  · rename_i b hb
    split at h
    · rename_i hlength
      cases h
      obtain ⟨hdigits, hencode⟩ := Hex.encode_of_decode? hb
      have hlengths := congrArg List.length hencode
      rw [Hex.length_encode, hlength, List.length_map, String.length_toList] at hlengths
      refine ⟨⟨hlengths.symm, hdigits⟩, ?_⟩
      rw [hex, hencode, ← String.toList_map, String.ofList_toList]
      rfl
    · cases h
  · cases h

theorem exists_of_isForm {s : String} (h : IsForm s) : ∃ d, ofHex s = .ok d := by
  have hlength : s.toList.length = 2 * 32 := by rw [String.length_toList, h.length_eq]
  obtain ⟨b, hb, hthirtyTwo⟩ := Hex.exists_decode hlength h.digits
  refine ⟨⟨b, hthirtyTwo⟩, ?_⟩
  unfold ofHex
  split
  · rename_i b' hb'
    rw [hb] at hb'
    cases hb'
    rw [dif_pos hthirtyTwo]
  · rename_i hnone
    rw [hb] at hnone
    cases hnone

/-- A text that is not read is what the error names. -/
theorem ofHex_cases (s : String) : (∃ d, ofHex s = .ok d) ∨ ofHex s = .error ⟨s⟩ := by
  unfold ofHex
  split
  · split
    · exact .inl ⟨_, rfl⟩
    · exact .inr rfl
  · exact .inr rfl

/-- A digest is read back from its text. A text is read if and only if it has the form of a digest,
and is then the text of the digest but for the case of letters; the error names any other text.
Digests are ordered as their texts. -/
theorem hex_faithful :
    (∀ d : Digest, ofHex d.hex = .ok d) ∧
    (∀ s : String, (IsForm s ∧ ∃ d, ofHex s = .ok d ∧ d.hex = s.toLower) ∨
      (¬IsForm s ∧ ofHex s = .error ⟨s⟩)) ∧
    ∀ a b : Digest, a.Before b ↔ a.hex < b.hex := by
  refine ⟨ofHex_hex, fun s => ?_, fun a b => ?_⟩
  · by_cases hform : IsForm s
    · obtain ⟨d, hd⟩ := exists_of_isForm hform
      exact .inl ⟨hform, d, hd, (isForm_of_ofHex hd).2⟩
    · rcases ofHex_cases s with ⟨d, hd⟩ | herror
      · exact absurd (isForm_of_ofHex hd).1 hform
      · exact .inr ⟨hform, herror⟩
  · rw [before_iff, String.lt_iff_toList_lt, hex, hex, String.toList_ofList, String.toList_ofList,
      Hex.encode_lt_encode_iff]

end Digest

end ShaderBuild
