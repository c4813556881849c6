/-
Which hosts a URI may name. Only the verdict matters here: the host itself is not kept.
-/
import AmqpSession.Text.Number
import AmqpSession.Text.Percent
import AmqpSession.Text.Pieces
import AmqpSession.Text.Utf8
import AmqpSession.Uri
import AmqpSession.Uri.Domain

namespace AmqpSession.Uri

open Text (digitValue? number?)

/-! ## IPv6 -/

/-- A decimal number from 0 to 255 without a leading zero. -/
def isDecimalOctet (cs : List Char) : Bool :=
  match number? 10 cs with
  | some n => !cs.isEmpty && n ≤ 255 && (cs.length == 1 || cs.head? != some '0')
  | none => false

/-- Four decimal octets with dots between them. -/
def isDottedQuad (cs : List Char) : Bool :=
  let parts := Text.pieces (· == '.') cs
  parts.length == 4 && parts.all isDecimalOctet

/-- What may follow `count` of the eight pieces of an IPv6 address; `gap` tells whether the one
permitted `::` has been passed, which counts as a piece. -/
def isIpv6Rest (cs : List Char) (count : Nat) (gap : Bool) : Bool :=
  match cs with
  | [] => gap || count == 8
  | ':' :: rest => count < 8 && !gap && isIpv6Rest rest (count + 1) true
  | c :: rest =>
    let digits := ((c :: rest).take 4).takeWhile fun c => (digitValue? c).isSome
    match h : (c :: rest).drop digits.length with
    | [] => count < 8 && isIpv6Rest [] (count + 1) gap
    | ':' :: after => count < 8 && !after.isEmpty && isIpv6Rest after (count + 1) gap
    | '.' :: _ =>
      count ≤ 6 && !digits.isEmpty && isDottedQuad (c :: rest) && (gap || count + 2 == 8)
    | _ => false
termination_by cs.length
decreasing_by
  · simp
  · simp
  · have := congrArg List.length h
    simp at this ⊢
    omega

/-- An address of eight pieces, or of fewer with a gap. A single colon cannot start one. -/
def isIpv6 (cs : List Char) : Bool :=
  match cs with
  | [] | [_] => false
  | ':' :: ':' :: rest => isIpv6Rest rest 1 true
  | ':' :: _ => false
  | cs => isIpv6Rest cs 0 false

/-! ## IPv4 -/

/-- The number in one label: octal after a leading zero, hexadecimal after `0x`. -/
def labelNumber? : List Char → Option Nat
  | [] => none
  | '0' :: 'x' :: digits => number? 16 digits
  | '0' :: 'X' :: digits => number? 16 digits
  | '0' :: d :: digits => number? 8 (d :: digits)
  | digits => number? 10 digits

/-- The labels of a domain, without the empty one after a final dot. -/
def labels (cs : List Char) : List (List Char) :=
  let parts := Text.pieces (· == '.') cs
  if parts.length > 1 ∧ parts.getLast? = some [] then parts.dropLast else parts

/-- The last label is a number, or looks like one. Such a domain has to be an address. -/
def endsInNumber (cs : List Char) : Bool :=
  match (labels cs).getLast? with
  | some label => (!label.isEmpty && label.all Char.isDigit) || (labelNumber? label).isSome
  | none => false

/-- Up to four numbers, of which the last fills the octets that the others leave. -/
def isIpv4 (cs : List Char) : Bool :=
  let parts := labels cs
  match (parts.mapM labelNumber?).map List.reverse with
  | some (last :: others) =>
    parts.length ≤ 4 && others.all (· ≤ 255) && last < octetRange (4 - others.length)
  | _ => false

/-! ## The verdict -/

/-- Brackets hold an IPv6 address. -/
def checkBracketed (cs : List Char) : Except UriFault Unit :=
  if cs.getLast? = some ']' ∧ isIpv6 cs.tail.dropLast then .ok () else .error .invalidIpv6

/-- Characters that no host may have, whatever its scheme. -/
def isForbiddenInHost (c : Char) : Bool :=
  c.toNat == 0 || "\t\n\r #/:<>?@[\\]^|".toList.contains c

/-- Hosts of schemes without rules of their own are left as they are. -/
def checkOpaqueHost (cs : List Char) : Except UriFault Unit :=
  if cs.head? = some '[' then checkBracketed cs
  else if cs.any isForbiddenInHost then .error .invalidDomainCharacter
  else .ok ()

/-- Hosts of web schemes are addresses or domains. -/
def checkDomain (cs : List Char) : Except UriFault Unit :=
  if cs.isEmpty then .error .emptyHost
  else if cs.head? = some '[' then checkBracketed cs
  else
    match Domain.name? (Utf8.decodeLossy (Percent.decode (Utf8.encode (String.ofList cs)))).toList with
    | none => .error .invalidDomainName
    | some [] => .error .emptyHost
    | some name => if endsInNumber name && !isIpv4 name then .error .invalidIpv4 else .ok ()

end AmqpSession.Uri
