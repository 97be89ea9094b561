/-!
The two kinds of blank input: a text of white space alone, and a frame of ASCII white space alone.
-/

namespace DuplexRpc.Text

/-- White space of texts: the characters with the Unicode property `White_Space`. -/
def isBlank (c : Char) : Bool :=
  let n := c.toNat
  (9 ≤ n && n ≤ 13) || n == 0x20 || n == 0x85 || n == 0xA0 || n == 0x1680 ||
    (0x2000 ≤ n && n ≤ 0x200A) || n == 0x2028 || n == 0x2029 || n == 0x202F || n == 0x205F ||
    n == 0x3000

/-- A text of white space alone, the empty text included. -/
def isBlankText (s : String) : Bool :=
  s.toList.all isBlank

/-- White space of frames: tab, line feed, form feed, carriage return and space. -/
def isBlankByte (b : UInt8) : Bool :=
  b == 9 || b == 10 || b == 12 || b == 13 || b == 32

/-- A frame of ASCII white space alone, the empty frame included. -/
def isBlankFrame (bytes : List UInt8) : Bool :=
  bytes.all isBlankByte

end DuplexRpc.Text
