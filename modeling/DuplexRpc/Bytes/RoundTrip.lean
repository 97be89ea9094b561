import DuplexRpc.Bytes.BigEndian
import Mathlib.Algebra.Group.Nat.Defs

/-!
A number that fits into its bytes is read back from them.
-/

namespace DuplexRpc.Bytes

/-- A number that fits is read back from its bytes. -/
theorem ofBigEndian_bigEndian {width n : Nat} (h : n < 256 ^ width) :
    ofBigEndian (bigEndian width n) = n := by
  induction width generalizing n with
  | zero => simp_all [bigEndian, ofBigEndian]
  | succ width ih =>
    have hn : n / 256 < 256 ^ width := by
      rw [Nat.pow_succ] at h
      omega
    rw [bigEndian, ofBigEndian_append, ih hn, UInt8.toNat_ofNat']
    omega

end DuplexRpc.Bytes
