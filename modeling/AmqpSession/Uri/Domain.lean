/-
Which names a domain may have. A name is read character by character and composed; its labels, cut at
the dots, must then stand the rules on first characters, joiners and directions. A label that starts
with `xn--` is the code of the text that has to stand them.
-/
import AmqpSession.Text.Composed
import AmqpSession.Text.Direction
import AmqpSession.Text.Joining
import AmqpSession.Text.Punycode
import AmqpSession.Uri.Domain.Mapping

namespace AmqpSession.Uri.Domain

def isAscii (c : Char) : Bool := c.toNat ≤ 0x7f

/-- Blanks, controls and the characters that a URI has a use for. -/
def isForbidden (c : Char) : Bool :=
  c.toNat ≤ 0x20 || c.toNat == 0x7f || "#%/:<>?@[\\]^|".toList.contains c

/-- The form in which names are compared. ASCII is composed as it is. -/
def normal? (cs : List Char) : Option (List Char) := do
  let text := (← cs.mapM reading?).flatten
  let text := if text.all isAscii then text else Text.composed text
  if text.any isForbidden then none else some text

/-! ## Labels -/

/-- The text of a label. A code is of one label in its normal form that is not all ASCII. -/
def labelText? (label : List Char) : Option (List Char) :=
  match label with
  | 'x' :: 'n' :: '-' :: '-' :: code => do
    if !code.all isAscii || code.length > 2000 || code.getLastD '-' == '-' then none
    let text ← Punycode.decode? code
    if normal? text = some text ∧ '.' ∉ text then some text else none
  | label => some label

/-- Whether the nearest character that is not transparent satisfies `p`. -/
def nearest (p : Char → Bool) (cs : List Char) : Bool :=
  (cs.dropWhile Text.isTransparent).head?.any p

/-- A joiner comes after a virama. A non-joiner may also stand where two letters would join. What
comes before is in reverse. -/
def joinersFit (before : List Char) : List Char → Bool
  | [] => true
  | c :: after =>
    (!isJoiner c || before.head?.any Text.isVirama ||
      (c == '\u200c' && nearest Text.joinsNext before && nearest Text.joinsPrevious after)) &&
    joinersFit (c :: before) after

/-- No label starts with a mark, and one beyond ASCII has its limit. -/
def isLabel (text : List Char) : Bool :=
  !text.head?.any Text.isMark && joinersFit [] text && (text.all isAscii || text.length ≤ 1000)

/-! ## Directions -/

/-- The text has a character that reads from right to left. -/
def readsRightToLeft (text : List Char) : Bool :=
  text.any fun c => Text.direction c == .rightToLeft || Text.direction c == .arabicDigit

/-- The label keeps the direction of its first character to its end, marks aside. -/
def keepsDirection (text : List Char) : Bool :=
  match text.map Text.direction with
  | [] => true
  | first :: rest =>
    let last := (rest.reverse.dropWhile (· == .nonspacing)).headD first
    match first with
    | .leftToRight =>
      (last == .leftToRight || last == .europeanDigit) &&
      !rest.contains .rightToLeft && !rest.contains .arabicDigit
    | .rightToLeft =>
      (last == .rightToLeft || last == .europeanDigit || last == .arabicDigit) &&
      !rest.contains .leftToRight && !(rest.contains .europeanDigit && rest.contains .arabicDigit)
    | _ => false

/-! ## Names -/

/-- The normal form of a name whose labels keep all rules. Directions matter in a name with text
from right to left. -/
def name? (cs : List Char) : Option (List Char) := do
  let name ← normal? cs
  let labels ← (Text.pieces (· == '.') name).mapM labelText?
  if labels.all isLabel && (!labels.any readsRightToLeft || labels.all keepsDirection) then some name
  else none

end AmqpSession.Uri.Domain
