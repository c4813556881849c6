/-
Percent escapes in octets: `%` and two hexadecimal digits stand for one octet, and anything else
stands for itself, a stray `%` included. `decode_escape`: an escaped octet is read back, whatever
follows it.
-/
import AmqpSession.Octets

namespace AmqpSession.Percent

/-- The value of a hexadecimal digit. -/
def hexValue? (b : UInt8) : Option UInt8 :=
  if 0x30 ≤ b ∧ b ≤ 0x39 then some (b - 0x30)
  else if 0x41 ≤ b ∧ b ≤ 0x46 then some (b - 0x41 + 10)
  else if 0x61 ≤ b ∧ b ≤ 0x66 then some (b - 0x61 + 10)
  else none

/-- The octet of an escape whose digits are `high` and `low`. -/
def escaped? (high low : UInt8) : Option UInt8 :=
  match hexValue? high, hexValue? low with
  | some h, some l => some (h * 16 + l)
  | _, _ => none

/-- The octets behind the escapes. What only looks like the start of one stands as it is. -/
def decode : Bytes → Bytes
  | [] => []
  | [a] => [a]
  | [a, b] => [a, b]
  | a :: b :: c :: rest =>
    if a = 0x25 then
      match escaped? b c with
      | some octet => octet :: decode rest
      | none => a :: decode (b :: c :: rest)
    else a :: decode (b :: c :: rest)

/-- The digit of a value below 16, with capital letters. -/
def hexDigit (n : UInt8) : UInt8 := if n < 10 then n + 0x30 else n - 10 + 0x41

/-- An octet written as an escape. -/
def escape (b : UInt8) : Bytes := [0x25, hexDigit (b / 16), hexDigit (b % 16)]

theorem escaped?_hexDigit (b : UInt8) : escaped? (hexDigit (b / 16)) (hexDigit (b % 16)) = some b := by
  have h : ∀ n < 256, escaped? (hexDigit (UInt8.ofNat n / 16)) (hexDigit (UInt8.ofNat n % 16)) =
      some (UInt8.ofNat n) := by decide +kernel
  simpa using h b.toNat b.toNat_lt

theorem decode_escape (b : UInt8) (rest : Bytes) : decode (escape b ++ rest) = b :: decode rest := by
  have h := escaped?_hexDigit b
  simp [escape, decode, h]

end AmqpSession.Percent
