import DuplexRpc.Bytes.RoundTrip
import DuplexRpc.MessagePack.Head
import DuplexRpc.Proofs.Value

/-! Heads that were written are read back, whatever follows them. -/

namespace DuplexRpc.MessagePack

open Bytes Text

variable {n width : Nat} {marker : UInt8} {f : Nat → Head}

/-! ### Numbers behind markers -/

theorem readNat_bigEndian (h : n < 256 ^ width) (rest : List UInt8) :
    readNat width (bigEndian width n ++ rest) = .ok (n, rest) := by
  have front := splitExact_append (bigEndian width n) rest
  rw [bigEndian_length] at front
  rw [readNat, front]
  simp only [ofBigEndian_bigEndian h]

/-- A marker above 0xBF and below 0xE0 tells what follows it. -/
theorem readHead_marker (low : 0xC0 ≤ marker.toNat) (high : marker.toNat < 0xE0)
    (rest : List UInt8) : readHead (marker :: rest) = readMarked marker rest := by
  rw [readHead, if_neg (by omega), if_neg (by omega), if_neg (by omega), if_neg (by omega),
    if_pos high]

/-- A number behind its marker is read as what the marker makes of it. -/
theorem readHead_marked (low : 0xC0 ≤ marker.toNat) (high : marker.toNat < 0xE0)
    (kind : ∀ bytes, readMarked marker bytes = readNatAs width f bytes) (small : n < 256 ^ width)
    (rest : List UInt8) : readHead (marked marker width n ++ rest) = .ok (f n, rest) := by
  rw [marked, List.cons_append, readHead_marker low high, kind, readNatAs, readNat_bigEndian small]

/-- A length behind its marker is followed by what it announces. -/
theorem readHead_length {next : Nat → Reader Head} (low : 0xC0 ≤ marker.toNat)
    (high : marker.toNat < 0xE0)
    (kind : ∀ bytes, readMarked marker bytes = readLength width next bytes) (small : n < 256 ^ width)
    (rest : List UInt8) : readHead (marked marker width n ++ rest) = next n rest := by
  rw [marked, List.cons_append, readHead_marker low high, kind, readLength, readNat_bigEndian small]

/-! ### Integers -/

theorem toNat_ofNat_of_lt (h : n < 256) : (UInt8.ofNat n).toNat = n := by
  rw [UInt8.toNat_ofNat', Nat.mod_eq_of_lt h]

theorem signed_eq (bits : Nat) {i : Int} (low : -(1 <<< (bits - 1) : Nat) ≤ i) (negative : i < 0)
    (wide : 0 < bits) : signed bits (((1 <<< bits : Nat) : Int) + i).toNat = .int i := by
  have double : 1 <<< bits = 2 * (1 <<< (bits - 1)) := by
    obtain ⟨k, rfl⟩ : ∃ k, bits = k + 1 := ⟨bits - 1, by omega⟩
    rw [Nat.add_sub_cancel, Nat.shiftLeft_eq, Nat.shiftLeft_eq, Nat.pow_succ]
    omega
  rw [signed, if_neg (by omega)]
  congr 1
  omega

theorem readHead_writeInt_natural (small : n < 0x10000000000000000) (rest : List UInt8) :
    readHead (writeInt n ++ rest) = .ok (.int n, rest) := by
  rw [writeInt, if_pos (Int.natCast_nonneg n), Int.toNat_natCast]
  simp only
  by_cases tiny : n < 128
  · rw [if_pos tiny, List.singleton_append, readHead,
      toNat_ofNat_of_lt (Nat.lt_trans tiny (by decide)), if_pos tiny]
  rw [if_neg tiny]
  by_cases one : n < 0x100
  · rw [if_pos one, readHead_marked (by decide) (by decide) (fun _ => rfl) one]
  rw [if_neg one]
  by_cases two : n < 0x10000
  · rw [if_pos two, readHead_marked (by decide) (by decide) (fun _ => rfl) two]
  rw [if_neg two]
  by_cases four : n < 0x100000000
  · rw [if_pos four, readHead_marked (by decide) (by decide) (fun _ => rfl) four]
  · rw [if_neg four, readHead_marked (by decide) (by decide) (fun _ => rfl) small]

theorem readHead_writeInt_negative {i : Int} (negative : i < 0) (low : -0x8000000000000000 ≤ i)
    (rest : List UInt8) : readHead (writeInt i ++ rest) = .ok (.int i, rest) := by
  rw [writeInt, if_neg (by omega)]
  by_cases tiny : -32 ≤ i
  · have byte : (UInt8.ofNat (256 + i).toNat).toNat = (256 + i).toNat := toNat_ofNat_of_lt (by omega)
    have same : ((256 + i).toNat : Int) - 256 = i := by omega
    rw [if_pos tiny, List.singleton_append, readHead, byte, if_neg (by omega), if_neg (by omega),
      if_neg (by omega), if_neg (by omega), if_neg (by omega), same]
  rw [if_neg tiny]
  by_cases one : -0x80 ≤ i
  · have small : (0x100 + i).toNat < 256 ^ 1 := by omega
    have same : signed 8 (0x100 + i).toNat = .int i := signed_eq 8 one negative (by decide)
    rw [if_pos one, readHead_marked (by decide) (by decide) (fun _ => rfl) small, same]
  rw [if_neg one]
  by_cases two : -0x8000 ≤ i
  · have small : (0x10000 + i).toNat < 256 ^ 2 := by omega
    have same : signed 16 (0x10000 + i).toNat = .int i := signed_eq 16 two negative (by decide)
    rw [if_pos two, readHead_marked (by decide) (by decide) (fun _ => rfl) small, same]
  rw [if_neg two]
  by_cases four : -0x80000000 ≤ i
  · have small : (0x100000000 + i).toNat < 256 ^ 4 := by omega
    have same : signed 32 (0x100000000 + i).toNat = .int i := signed_eq 32 four negative (by decide)
    rw [if_pos four, readHead_marked (by decide) (by decide) (fun _ => rfl) small, same]
  · have small : (0x10000000000000000 + i).toNat < 256 ^ 8 := by omega
    have same : signed 64 (0x10000000000000000 + i).toNat = .int i := signed_eq 64 low negative (by decide)
    rw [if_neg four, readHead_marked (by decide) (by decide) (fun _ => rfl) small, same]

theorem readHead_writeInt {i : Int} (h : WireRange i) (rest : List UInt8) :
    readHead (writeInt i ++ rest) = .ok (.int i, rest) := by
  by_cases negative : i < 0
  · exact readHead_writeInt_negative negative h.1 rest
  · obtain ⟨n, rfl⟩ := Int.eq_ofNat_of_zero_le (Int.not_lt.mp negative)
    exact readHead_writeInt_natural (Int.ofNat_lt.mp h.2) rest

theorem readHead_writeDouble (x : Double) (rest : List UInt8) :
    readHead (writeDouble x ++ rest) = .ok (.float x, rest) := by
  have small : x.bits.toNat < 256 ^ 8 := x.bits.toNat_lt
  rw [writeDouble, readHead_marked (by decide) (by decide) (fun _ => rfl) small,
    UInt64.ofNat_toNat]

/-! ### Texts, arrays and maps -/

theorem readText_utf8 (s : String) (rest : List UInt8) :
    readText (utf8 s).length (utf8 s ++ rest) = .ok (.text s, rest) := by
  rw [readText, readContent, splitExact_append]
  simp only [ofUtf8_utf8]

theorem readHead_writeText {s : String} (short : Value.isShortText s = true) (rest : List UInt8) :
    readHead (writeText s ++ rest) = .ok (.text s, rest) := by
  have short : (utf8 s).length < 0x100000000 := of_decide_eq_true short
  rw [writeText, List.append_assoc]
  by_cases tiny : (utf8 s).length < 32
  · have byte : (UInt8.ofNat (0xA0 + (utf8 s).length)).toNat = 0xA0 + (utf8 s).length :=
      toNat_ofNat_of_lt (by omega)
    rw [if_pos tiny, List.singleton_append, readHead, byte, if_neg (by omega), if_neg (by omega),
      if_neg (by omega), if_pos (by omega), Nat.add_sub_cancel_left, readText_utf8]
  rw [if_neg tiny]
  by_cases one : (utf8 s).length < 0x100
  · rw [if_pos one, readHead_length (by decide) (by decide) (fun _ => rfl) one, readText_utf8]
  rw [if_neg one]
  by_cases two : (utf8 s).length < 0x10000
  · rw [if_pos two, readHead_length (by decide) (by decide) (fun _ => rfl) two, readText_utf8]
  · rw [if_neg two, readHead_length (by decide) (by decide) (fun _ => rfl) short, readText_utf8]

theorem readHead_writeArrayHead (short : n < lengthLimit) (rest : List UInt8) :
    readHead (writeArrayHead n ++ rest) = .ok (.array n, rest) := by
  rw [writeArrayHead]
  by_cases tiny : n < 16
  · have byte : (UInt8.ofNat (0x90 + n)).toNat = 0x90 + n := toNat_ofNat_of_lt (by omega)
    rw [if_pos tiny, List.singleton_append, readHead, byte, if_neg (by omega), if_neg (by omega),
      if_pos (by omega), Nat.add_sub_cancel_left]
  rw [if_neg tiny]
  by_cases two : n < 0x10000
  · rw [if_pos two, readHead_marked (by decide) (by decide) (fun _ => rfl) two]
  · rw [if_neg two, readHead_marked (by decide) (by decide) (fun _ => rfl) short]

theorem readHead_writeMapHead (short : n < lengthLimit) (rest : List UInt8) :
    readHead (writeMapHead n ++ rest) = .ok (.map n, rest) := by
  rw [writeMapHead]
  by_cases tiny : n < 16
  · have byte : (UInt8.ofNat (0x80 + n)).toNat = 0x80 + n := toNat_ofNat_of_lt (by omega)
    rw [if_pos tiny, List.singleton_append, readHead, byte, if_neg (by omega), if_pos (by omega),
      Nat.add_sub_cancel_left]
  rw [if_neg tiny]
  by_cases two : n < 0x10000
  · rw [if_pos two, readHead_marked (by decide) (by decide) (fun _ => rfl) two]
  · rw [if_neg two, readHead_marked (by decide) (by decide) (fun _ => rfl) short]

end DuplexRpc.MessagePack
