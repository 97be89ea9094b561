/-!
Numbers as bytes, the most significant byte first, and bytes taken from the front.
-/

namespace DuplexRpc.Bytes

/-- The lowest `width` bytes of a number. -/
def bigEndian : (width : Nat) → Nat → List UInt8
  | 0, _ => []
  | width + 1, n => bigEndian width (n / 256) ++ [UInt8.ofNat n]

def ofBigEndian (bytes : List UInt8) : Nat :=
  bytes.foldl (fun n b => n * 256 + b.toNat) 0

/-- The first `n` bytes and the rest, none where there are fewer. -/
def splitExact : (n : Nat) → List UInt8 → Option (List UInt8 × List UInt8)
  | 0, bytes => some ([], bytes)
  | _ + 1, [] => none
  | n + 1, b :: bytes =>
    match splitExact n bytes with
    | some (front, rest) => some (b :: front, rest)
    | none => none

theorem bigEndian_length (width n : Nat) : (bigEndian width n).length = width := by
  induction width generalizing n with
  | zero => rfl
  | succ width ih => simp [bigEndian, ih]

theorem ofBigEndian_append (front : List UInt8) (b : UInt8) :
    ofBigEndian (front ++ [b]) = ofBigEndian front * 256 + b.toNat := by
  simp [ofBigEndian]

theorem splitExact_append (front rest : List UInt8) :
    splitExact front.length (front ++ rest) = some (front, rest) := by
  induction front with
  | nil => rfl
  | cons b front ih => simp [splitExact, ih]

end DuplexRpc.Bytes
