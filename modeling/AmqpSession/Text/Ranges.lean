/-
Sets of characters as closed ranges of code points. Longer tables are written as text: words between
blanks, each a code point in hexadecimal digits or the two ends of a range, as in `41-5a`.
-/
import AmqpSession.Text.Number
import AmqpSession.Text.Pieces

namespace AmqpSession.Text

/-- The character lies in one of the ranges. -/
def inRanges (ranges : List (Nat × Nat)) (c : Char) : Bool :=
  ranges.any fun r => r.1 ≤ c.toNat && c.toNat ≤ r.2

/-! ## Tables as text -/

/-- The words of a table. -/
def words (s : String) : List (List Char) :=
  (pieces (fun c => c == ' ' || c == '\n') s.toList).filter (!·.isEmpty)

/-- The number of a code point in a table. Tables are well-formed, so what is none counts for nothing.
-/
def codePoint (digits : List Char) : Nat := (number? 16 digits).getD 0

/-- The range that a word of a table stands for; a single code point is a range of its own. -/
def range (word : List Char) : Nat × Nat :=
  match pieces (· == '-') word with
  | [first, last] => (codePoint first, codePoint last)
  | _ => (codePoint word, codePoint word)

/-- A table of ranges. -/
def ranges (s : String) : List (Nat × Nat) := (words s).map range

end AmqpSession.Text
