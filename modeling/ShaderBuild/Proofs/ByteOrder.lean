import ShaderBuild.Bytes

/-!
The order of texts and the order of their bytes. Main statement: `ofText_lt_ofText_iff`, by which
texts are ordered as their UTF-8 forms are, byte by byte.
-/

namespace ShaderBuild.Bytes

theorem cons_ofNat_lt_iff {m n : Nat} (hm : m < 256) (hn : n < 256) {x y : Bytes} :
    UInt8.ofNat m :: x < UInt8.ofNat n :: y ↔ m < n ∨ m = n ∧ x < y := by
  rw [List.cons_lt_cons_iff, UInt8.lt_iff_toNat_lt, ← UInt8.toNat_inj, UInt8.toNat_ofNat_of_lt' hm,
    UInt8.toNat_ofNat_of_lt' hn]

theorem last_digit_of_lt {m n : Nat} (h : m < n) :
    m / 64 < n / 64 ∨ m / 64 = n / 64 ∧ m % 64 < n % 64 := by
  omega

/-- The digits of the smaller number to the base of 64 are the smaller ones, four at most for a
character. -/
theorem digits_of_lt {m n : Nat} (h : m < n) (hn : n < 0x110000) :
    m / 262144 % 8 < n / 262144 % 8 ∨ m / 262144 % 8 = n / 262144 % 8 ∧
      (m / 4096 % 64 < n / 4096 % 64 ∨ m / 4096 % 64 = n / 4096 % 64 ∧
        (m / 64 % 64 < n / 64 % 64 ∨ m / 64 % 64 = n / 64 % 64 ∧ m % 64 < n % 64)) := by
  rcases last_digit_of_lt h with h | ⟨heq, h⟩
  · rcases last_digit_of_lt h with h | ⟨heq, h⟩
    · rcases last_digit_of_lt h with h | ⟨heq, h⟩ <;> omega
    · omega
  · omega

/-- Of two characters the smaller has the smaller bytes, and neither's are the start of the other's.
So whatever stands behind them has no say. -/
theorem utf8EncodeChar_append_lt {c d : Char} (h : c < d) (x y : Bytes) :
    String.utf8EncodeChar c ++ x < String.utf8EncodeChar d ++ y := by
  have hlt : c.val.toNat < d.val.toNat := h
  have hvalid := d.valid
  simp only [UInt32.isValidChar, Nat.isValidChar] at hvalid
  generalize hm : c.val.toNat = m at hlt
  generalize hn : d.val.toNat = n at hlt hvalid
  have hdigits := digits_of_lt hlt (by omega)
  unfold String.utf8EncodeChar
  -- The first bytes decide unless both characters take the same number of bytes.
  simp only [hm, hn]
  repeat' split
  all_goals
    first
    | omega
    | simp (disch := omega) only [List.cons_append, List.nil_append, cons_ofNat_lt_iff]
      omega

theorem ofText_lt_ofText {s t : String} (h : s < t) : ofText s < ofText t := by
  rw [← String.ofList_toList (s := s), ← String.ofList_toList (s := t), ofText_ofList,
    ofText_ofList]
  have hlist : List.Lex (· < ·) s.toList t.toList := h
  generalize s.toList = cs at hlist
  generalize t.toList = ds at hlist
  induction hlist with
  | @nil d ds =>
    obtain ⟨x, xs, hx⟩ := List.exists_cons_of_ne_nil (String.utf8EncodeChar_ne_nil (c := d))
    rw [List.flatMap_cons, hx]
    exact List.nil_lt_cons x _
  | @cons c cs ds _ ih =>
    rw [List.flatMap_cons, List.flatMap_cons]
    exact List.append_left_lt ih
  | rel hcd =>
    rw [List.flatMap_cons, List.flatMap_cons]
    exact utf8EncodeChar_append_lt hcd _ _

theorem ofText_lt_ofText_iff {s t : String} : ofText s < ofText t ↔ s < t := by
  refine ⟨fun h => Classical.byContradiction fun hst => ?_, ofText_lt_ofText⟩
  by_cases hts : t < s
  · exact List.lt_asymm (ofText_lt_ofText hts) h
  · obtain rfl := String.le_antisymm (String.not_lt.1 hts) (String.not_lt.1 hst)
    exact List.lt_irrefl _ h

end ShaderBuild.Bytes
