/-
Text coded in ASCII. The ASCII characters of the text come first, and after the last hyphen one
number for each of the others, which says how far on in code points and places it goes. Numbers are
in base 36 with the lowest digit first; a digit under a threshold ends one.
-/
import AmqpSession.Text.Pieces

namespace AmqpSession.Punycode

/-- The value of a digit in base 36: letters first, then decimal digits. -/
def digit? (c : Char) : Option Nat :=
  if 'a' ≤ c ∧ c ≤ 'z' then some (c.toNat - 'a'.toNat)
  else if c.isDigit then some (c.toNat - '0'.toNat + 26)
  else none

/-! ## Thresholds -/

/-- The threshold for a digit, at a position counted in steps of 36. -/
def threshold (position bias : Nat) : Nat := min 26 (max 1 (position - bias))

/-- The bias for the size of a number: 36 for each division that brings it down to 455, and a part of 36
for what is left. -/
def biasOf (n : Nat) : Nat :=
  if 455 < n then 36 + biasOf (n / 35) else 36 * n / (n + 38)
termination_by n

/-- The bias after a number. The first number of a text is expected to be much the greatest. -/
def nextBias (n count : Nat) (first : Bool) : Nat :=
  let n := if first then n / 700 else n / 2
  biasOf (n + n / count)

/-! ## Decoding -/

/-- The number that digits start with, and what follows it. -/
def number? (bias : Nat) (position weight : Nat) : List Char → Option (Nat × List Char)
  | [] => none
  | c :: rest =>
    match digit? c with
    | none => none
    | some d =>
      let t := threshold position bias
      if d < t then some (d * weight, rest)
      else
        (number? bias (position + 36) (weight * (36 - t)) rest).map fun r => (d * weight + r.1, r.2)

theorem length_of_number? {bias position weight : Nat} {cs : List Char} {r : Nat × List Char}
    (h : number? bias position weight cs = some r) : r.2.length < cs.length := by
  induction cs generalizing position weight r with
  | nil => simp [number?] at h
  | cons c rest ih =>
    unfold number? at h
    split at h
    · cases h
    · simp only at h
      split at h
      · cases h; simp
      · obtain ⟨r', h', rfl⟩ := Option.map_eq_some_iff.1 h
        have := ih h'
        simp only [List.length_cons]
        omega

/-- Puts the coded characters into the text. The last one was `code`, and `place` comes after it. -/
def insertAll (bias code place : Nat) (text digits : List Char) : Option (List Char) :=
  match digits with
  | [] => some text
  | c :: cs =>
    match h : number? bias 36 1 (c :: cs) with
    | none => none
    | some (n, rest) =>
      let count := text.length + 1
      let code := code + (place + n) / count
      let place' := (place + n) % count
      if code.isValidChar then
        insertAll (nextBias n count (place == 0)) code (place' + 1)
          (text.insertIdx place' (Char.ofNat code)) rest
      else none
termination_by digits.length
decreasing_by exact length_of_number? h

/-- A hyphen ends the ASCII characters only if there are any. -/
def decode? (cs : List Char) : Option (List Char) :=
  match Text.splitLast '-' cs with
  | some (c :: text, digits) => insertAll 72 0x80 0 (c :: text) digits
  | _ => insertAll 72 0x80 0 [] cs

end AmqpSession.Punycode
