import DuplexRpc.Json.Syntax
import DuplexRpc.Text.Utf8

/-!
Reading strings, from after the quote that opens them. The bytes of a string are gathered with its
escapes replaced, and then read as UTF-8.
-/

namespace DuplexRpc.Json

open Text

/-- The byte that a one-letter escape stands for. -/
def simpleEscape? (b : UInt8) : Option UInt8 :=
  if b = ascii '"' then some b
  else if b = ascii '\\' then some b
  else if b = ascii '/' then some b
  else if b = ascii 'b' then some 0x08
  else if b = ascii 'f' then some 0x0C
  else if b = ascii 'n' then some 0x0A
  else if b = ascii 'r' then some 0x0D
  else if b = ascii 't' then some 0x09
  else none

/-- Reads the four digits of a code unit. -/
def readCodeUnit : Reader Nat
  | a :: b :: c :: d :: bytes =>
    match hexDigitValue? a, hexDigitValue? b, hexDigitValue? c, hexDigitValue? d with
    | some a, some b, some c, some d => .ok (((a * 16 + b) * 16 + c) * 16 + d, bytes)
    | _, _, _, _ => faultAt .invalidEscape bytes
  | _ => faultAt .endInString []

/-- The UTF-8 bytes of a code point. -/
def codePointBytes (n : Nat) : List UInt8 :=
  String.utf8EncodeChar (Char.ofNat n)

/-- Reads the second half of a surrogate pair, its escape mark included. -/
def readLowSurrogate (high : Nat) : Reader (List UInt8)
  | [] => faultAt .endInString []
  | b :: bytes =>
    if b = ascii '\\' then
      match bytes with
      | [] => faultAt .endInString []
      | b :: bytes =>
        if b = ascii 'u' then
          match readCodeUnit bytes with
          | .error e => .error e
          | .ok (low, rest) =>
            if 0xDC00 ≤ low ∧ low ≤ 0xDFFF then
              .ok (codePointBytes ((high - 0xD800) * 1024 + (low - 0xDC00) + 0x10000), rest)
            else faultAt .loneSurrogate rest
        else faultAt .endOfEscape bytes
    else faultAt .endOfEscape bytes

def readEscape : Reader (List UInt8)
  | [] => faultAt .endInString []
  | b :: bytes =>
    match simpleEscape? b with
    | some x => .ok ([x], bytes)
    | none =>
      if b = ascii 'u' then
        match readCodeUnit bytes with
        | .error e => .error e
        | .ok (unit, rest) =>
          if 0xDC00 ≤ unit ∧ unit ≤ 0xDFFF then faultAt .loneSurrogate rest
          else if 0xD800 ≤ unit ∧ unit ≤ 0xDBFF then readLowSurrogate unit rest
          else .ok (codePointBytes unit, rest)
      else faultAt .invalidEscape bytes

theorem readCodeUnit_length {bytes rest : List UInt8} {n : Nat}
    (h : readCodeUnit bytes = .ok (n, rest)) : rest.length < bytes.length := by
  unfold readCodeUnit at h
  split at h
  · split at h
    · simp only [Except.ok.injEq, Prod.mk.injEq] at h
      obtain ⟨-, rfl⟩ := h
      simp only [List.length_cons]
      omega
    · simp [faultAt] at h
  · simp [faultAt] at h

theorem readLowSurrogate_length {high : Nat} {bytes rest x : List UInt8}
    (h : readLowSurrogate high bytes = .ok (x, rest)) : rest.length < bytes.length := by
  unfold readLowSurrogate at h
  split at h
  · simp [faultAt] at h
  · split at h
    · split at h
      · simp [faultAt] at h
      · split at h
        · split at h
          · simp at h
          · rename_i hu
            have := readCodeUnit_length hu
            split at h
            · simp only [Except.ok.injEq, Prod.mk.injEq] at h
              obtain ⟨-, rfl⟩ := h
              simp only [List.length_cons]
              omega
            · simp [faultAt] at h
        · simp [faultAt] at h
    · simp [faultAt] at h

theorem readEscape_length {bytes rest x : List UInt8}
    (h : readEscape bytes = .ok (x, rest)) : rest.length < bytes.length := by
  unfold readEscape at h
  split at h
  · simp [faultAt] at h
  · split at h
    · simp only [Except.ok.injEq, Prod.mk.injEq] at h
      obtain ⟨-, rfl⟩ := h
      simp
    · split at h
      · split at h
        · simp at h
        · rename_i hu
          have hlen := readCodeUnit_length hu
          split at h
          · simp [faultAt] at h
          · split at h
            · have := readLowSurrogate_length h
              simp only [List.length_cons]
              omega
            · simp only [Except.ok.injEq, Prod.mk.injEq] at h
              obtain ⟨-, rfl⟩ := h
              simp only [List.length_cons]
              omega
      · simp [faultAt] at h

/-- Gathers the bytes of a string up to its closing quote; `acc` holds those before, last first. -/
def readStringBytes (acc : List UInt8) : Reader (List UInt8)
  | [] => faultAt .endInString []
  | b :: bytes =>
    if b = ascii '"' then .ok (acc.reverse, bytes)
    else if b = ascii '\\' then
      match _h : readEscape bytes with
      | .error e => .error e
      | .ok (x, rest) => readStringBytes (x.reverse ++ acc) rest
    else if b < 0x20 then faultAt .controlCharacter bytes
    else readStringBytes (b :: acc) bytes
termination_by bytes => bytes.length
decreasing_by
  · have := readEscape_length ‹_›
    simp only [List.length_cons]
    omega
  · simp

/-- How many of the bytes of a string are UTF-8, up to the first that is not. Escapes are ASCII, so
they can be counted as they stand. -/
def goodBytes (written : List UInt8) : Nat :=
  match ofUtf8 written with
  | .ok _ => written.length
  | .error fault => fault.start

/-- Reads a string after its opening quote. The first byte that no text can hold is at fault. -/
def readString : Reader String := fun bytes =>
  match readStringBytes [] bytes with
  | .error e => .error e
  | .ok (raw, rest) =>
    match ofUtf8 raw with
    | .ok s => .ok (s, rest)
    | .error _ =>
      let written := bytes.take (bytes.length - (rest.length + 1))
      faultOn .invalidCodePoint (bytes.drop (goodBytes written))

end DuplexRpc.Json
