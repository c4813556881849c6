/-
The one-line form of a record: its name, and its fields in braces. Octets stand in it as text, with
an escape for each that is no printable ASCII character.
-/
import AmqpSession.Wire.Fault

namespace AmqpSession.Text

/-- Items between an opening and a closing text, with commas between them. -/
def enclosed (opening closing : String) (items : List String) : String :=
  opening ++ ", ".intercalate items ++ closing

/-- Items in brackets. -/
def sequence (items : List String) : String := enclosed "[" "]" items

/-- Two items in parentheses. -/
def pair (a b : String) : String := enclosed "(" ")" [a, b]

/-- Named fields in braces, after the name of the record. -/
def record (name : String) (fields : List (String × String)) : String :=
  enclosed (name ++ " \x7b ") " \x7d" (fields.map fun (field, value) => field ++ ": " ++ value)

/-- The octet is an ASCII character with a visible form, or the space. -/
def isPrintableAscii (b : UInt8) : Bool := 0x20 ≤ b && b ≤ 0x7e

/-- An octet as it stands between quotes. -/
def quoteOctet (b : UInt8) : String :=
  if b = 0x0a then "\\n"
  else if b = 0x0d then "\\r"
  else if b = 0x09 then "\\t"
  else if b = 0x00 then "\\0"
  else if b = 0x5c then "\\\\"
  else if b = 0x22 then "\\\""
  else if isPrintableAscii b then String.singleton (Char.ofNat b.toNat)
  else "\\x" ++ Wire.hexOctet b

/-- Octets between quotes, marked as octets. -/
def quoteOctets (bs : Bytes) : String := "b\"" ++ String.join (bs.map quoteOctet) ++ "\""

end AmqpSession.Text
