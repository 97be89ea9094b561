import DuplexRpc.Bytes.BigEndian
import DuplexRpc.MessagePack.Fault

/-!
Heads: what stands before the items of an array or a map, or a whole item of any other kind. Every
head is written in its shortest form; a reader takes all forms.
-/

namespace DuplexRpc.MessagePack

open Bytes Text

/-- The front of an item. -/
inductive Head where
  | null
  | bool (b : Bool)
  | int (i : Int)
  | float (x : Double)
  | text (s : String)
  | bytes (content : List UInt8)
  | array (length : Nat)
  | map (length : Nat)
  | extension
deriving DecidableEq, Repr

/-- A marker and a number of `width` bytes. -/
def marked (marker : UInt8) (width n : Nat) : List UInt8 :=
  marker :: bigEndian width n

/-- An integer in the shortest form that holds it. -/
def writeInt (i : Int) : List UInt8 :=
  if 0 ≤ i then
    let n := i.toNat
    if n < 128 then [UInt8.ofNat n]
    else if n < 0x100 then marked 0xCC 1 n
    else if n < 0x10000 then marked 0xCD 2 n
    else if n < 0x100000000 then marked 0xCE 4 n
    else marked 0xCF 8 n
  else if -32 ≤ i then [UInt8.ofNat (256 + i).toNat]
  else if -0x80 ≤ i then marked 0xD0 1 (0x100 + i).toNat
  else if -0x8000 ≤ i then marked 0xD1 2 (0x10000 + i).toNat
  else if -0x80000000 ≤ i then marked 0xD2 4 (0x100000000 + i).toNat
  else marked 0xD3 8 (0x10000000000000000 + i).toNat

def writeDouble (x : Double) : List UInt8 :=
  marked 0xCB 8 x.bits.toNat

def writeText (s : String) : List UInt8 :=
  let content := utf8 s
  let n := content.length
  (if n < 32 then [UInt8.ofNat (0xA0 + n)]
    else if n < 0x100 then marked 0xD9 1 n
    else if n < 0x10000 then marked 0xDA 2 n
    else marked 0xDB 4 n) ++ content

def writeArrayHead (n : Nat) : List UInt8 :=
  if n < 16 then [UInt8.ofNat (0x90 + n)]
  else if n < 0x10000 then marked 0xDC 2 n
  else marked 0xDD 4 n

def writeMapHead (n : Nat) : List UInt8 :=
  if n < 16 then [UInt8.ofNat (0x80 + n)]
  else if n < 0x10000 then marked 0xDE 2 n
  else marked 0xDF 4 n

/-- Reads a number of `width` bytes. -/
def readNat (width : Nat) : Reader Nat := fun bytes =>
  match splitExact width bytes with
  | some (front, rest) => .ok (ofBigEndian front, rest)
  | none => .error .endInNumber

/-- Reads a number of `width` bytes as what `f` makes of it. -/
def readNatAs (width : Nat) (f : Nat → Head) : Reader Head := fun bytes =>
  match readNat width bytes with
  | .error e => .error e
  | .ok (n, rest) => .ok (f n, rest)

/-- A number of `bits` bits in two's complement. -/
def signed (bits n : Nat) : Head :=
  .int (if n < 1 <<< (bits - 1) then n else (n : Int) - (1 <<< bits : Nat))

def readContent (length : Nat) : Reader (List UInt8) := fun bytes =>
  match splitExact length bytes with
  | some (content, rest) => .ok (content, rest)
  | none => .error .endInContent

/-- Reads a text of a known length. -/
def readText (length : Nat) : Reader Head := fun bytes =>
  match readContent length bytes with
  | .error e => .error e
  | .ok (content, rest) =>
    match ofUtf8 content with
    | .ok s => .ok (.text s, rest)
    | .error fault => .error (.notUtf8 fault)

/-- Reads content of a known length that is no text. -/
def readBytes (length : Nat) : Reader Head := fun bytes =>
  match readContent length bytes with
  | .error e => .error e
  | .ok (content, rest) => .ok (.bytes content, rest)

/-- Reads a length of `width` bytes and what it announces. -/
def readLength (width : Nat) (next : Nat → Reader Head) : Reader Head := fun bytes =>
  match readNat width bytes with
  | .error e => .error e
  | .ok (n, rest) => next n rest

/-- Reads what a marker from 0xC0 to 0xDF announces. -/
def readMarked (marker : UInt8) : Reader Head := fun bytes =>
  match marker with
  | 0xC0 => .ok (.null, bytes)
  | 0xC2 => .ok (.bool false, bytes)
  | 0xC3 => .ok (.bool true, bytes)
  | 0xC4 => readLength 1 readBytes bytes
  | 0xC5 => readLength 2 readBytes bytes
  | 0xC6 => readLength 4 readBytes bytes
  | 0xC7 => readNatAs 1 (fun _ => .extension) bytes
  | 0xC8 => readNatAs 2 (fun _ => .extension) bytes
  | 0xC9 => readNatAs 4 (fun _ => .extension) bytes
  | 0xCA => readNatAs 4 (fun n => .float (.ofBinary32 n)) bytes
  | 0xCB => readNatAs 8 (fun n => .float ⟨UInt64.ofNat n⟩) bytes
  | 0xCC => readNatAs 1 (fun n => .int n) bytes
  | 0xCD => readNatAs 2 (fun n => .int n) bytes
  | 0xCE => readNatAs 4 (fun n => .int n) bytes
  | 0xCF => readNatAs 8 (fun n => .int n) bytes
  | 0xD0 => readNatAs 1 (signed 8) bytes
  | 0xD1 => readNatAs 2 (signed 16) bytes
  | 0xD2 => readNatAs 4 (signed 32) bytes
  | 0xD3 => readNatAs 8 (signed 64) bytes
  | 0xD9 => readLength 1 readText bytes
  | 0xDA => readLength 2 readText bytes
  | 0xDB => readLength 4 readText bytes
  | 0xDC => readNatAs 2 .array bytes
  | 0xDD => readNatAs 4 .array bytes
  | 0xDE => readNatAs 2 .map bytes
  | 0xDF => readNatAs 4 .map bytes
  | _ => if marker = 0xC1 then .error .reserved else .ok (.extension, bytes)

def readHead : Reader Head
  | [] => .error .endInMarker
  | marker :: bytes =>
    let n := marker.toNat
    if n < 0x80 then .ok (.int n, bytes)
    else if n < 0x90 then .ok (.map (n - 0x80), bytes)
    else if n < 0xA0 then .ok (.array (n - 0x90), bytes)
    else if n < 0xC0 then readText (n - 0xA0) bytes
    else if n < 0xE0 then readMarked marker bytes
    else .ok (.int ((n : Int) - 256), bytes)

end DuplexRpc.MessagePack
