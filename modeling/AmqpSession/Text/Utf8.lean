/-
Text as octets. Strict decoding gives no text for octets that are not well-formed UTF-8
(`decode?_eq_some_iff`); lossy decoding puts U+FFFD in place of each ill-formed part.
-/
import AmqpSession.Octets

namespace AmqpSession.Utf8

/-- The octets of a text. -/
def encode (s : String) : Bytes := s.toUTF8.data.toList

/-- The text of well-formed octets. -/
def decode? (bs : Bytes) : Option String := String.fromUTF8? ⟨bs.toArray⟩

@[simp] theorem length_encode (s : String) : (encode s).length = s.utf8ByteSize := rfl

theorem decode?_eq_some_iff {bs : Bytes} {s : String} : decode? bs = some s ↔ encode s = bs := by
  unfold decode? encode String.fromUTF8?
  constructor
  · intro h
    split at h
    · cases h; rfl
    · cases h
  · rintro rfl
    have h : (⟨s.toUTF8.data.toList.toArray⟩ : ByteArray) = s.toByteArray := rfl
    rw [h, dif_pos s.isValidUTF8]
    rfl

theorem decode?_encode (s : String) : decode? (encode s) = some s :=
  decode?_eq_some_iff.2 rfl

/-! ## Lossy decoding -/

/-- A character whose first octets were read: how many are missing, what the next one may be, and
the bits so far. -/
structure Partial where
  missing : Nat
  lower : UInt8
  upper : UInt8
  bits : Nat

/-- The first octet of a character: a whole character, or the start of one. -/
def lead (b : UInt8) : List Char × Option Partial :=
  if b ≤ 0x7f then ([Char.ofNat b.toNat], none)
  else if 0xc2 ≤ b ∧ b ≤ 0xdf then ([], some ⟨1, 0x80, 0xbf, b.toNat - 0xc0⟩)
  else if 0xe0 ≤ b ∧ b ≤ 0xef then
    ([], some ⟨2, if b = 0xe0 then 0xa0 else 0x80, if b = 0xed then 0x9f else 0xbf, b.toNat - 0xe0⟩)
  else if 0xf0 ≤ b ∧ b ≤ 0xf4 then
    ([], some ⟨3, if b = 0xf0 then 0x90 else 0x80, if b = 0xf4 then 0x8f else 0xbf, b.toNat - 0xf0⟩)
  else (['\ufffd'], none)

/-- An octet after a partial character: it continues the character, or ends it early and is the
first octet of the next one. -/
def Partial.continue (p : Partial) (b : UInt8) : List Char × Option Partial :=
  if p.lower ≤ b ∧ b ≤ p.upper then
    let bits := p.bits * 64 + (b.toNat - 0x80)
    if p.missing ≤ 1 then ([Char.ofNat bits], none)
    else ([], some ⟨p.missing - 1, 0x80, 0xbf, bits⟩)
  else
    let (chars, next) := lead b
    ('\ufffd' :: chars, next)

/-- The characters of octets, after a character that was begun, if one was. What breaks off before its
end is ill-formed. -/
def lossyChars : Option Partial → Bytes → List Char
  | none, [] => []
  | some _, [] => ['\ufffd']
  | none, b :: bs => (lead b).1 ++ lossyChars (lead b).2 bs
  | some p, b :: bs => (p.continue b).1 ++ lossyChars (p.continue b).2 bs

/-- The text of any octets. -/
def decodeLossy (bs : Bytes) : String := String.ofList (lossyChars none bs)

end AmqpSession.Utf8
