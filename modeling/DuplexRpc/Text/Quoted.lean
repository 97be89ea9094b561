import DuplexRpc.Text.Hex
import DuplexRpc.Text.Ranges

/-!
Quoted text for messages: double quotes around it, and an escape for each character that would not
show as itself.
-/

namespace DuplexRpc.Text

/-- The character shows as itself: it has a printed form and does not join the one before it. -/
def showsAsItself (c : Char) : Bool :=
  if 0x20 ≤ c.toNat ∧ c.toNat < 0x7F then true
  else !inRanges c.toNat unprintableRanges && !inRanges c.toNat graphemeExtendRanges

/-- The form of one character between double quotes. -/
def quotedChar (c : Char) : String :=
  if c = '\x00' then "\\0"
  else if c = '\t' then "\\t"
  else if c = '\n' then "\\n"
  else if c = '\r' then "\\r"
  else if c = '"' then "\\\""
  else if c = '\\' then "\\\\"
  else if showsAsItself c then String.singleton c
  else "\\u\x7b" ++ hexOfNat c.toNat ++ "\x7d"

def quoted (s : String) : String :=
  "\"" ++ String.join (s.toList.map quotedChar) ++ "\""

end DuplexRpc.Text
