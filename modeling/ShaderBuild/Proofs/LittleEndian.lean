import Mathlib
import ShaderBuild.Bytes

/-!
Numbers as bytes in little-endian order. A number that fits into the bytes is read back from them.
-/

namespace ShaderBuild.Bytes

theorem toNat_littleEndian {count value : Nat} (h : value < 256 ^ count) :
    (littleEndian count value).toNat = value := by
  induction count generalizing value with
  | zero => simp at h; simp [littleEndian, toNat, h]
  | succ count ih =>
    have hq : value / 256 < 256 ^ count := by
      rw [Nat.pow_succ] at h
      omega
    have hr : value.toUInt8.toNat = value % 256 := by simp
    simp only [littleEndian, toNat, ih hq, hr]
    omega

end ShaderBuild.Bytes
