/-
Cutting a list at every separator. The pieces, empty ones included, hold no separator
(`not_mem_pieces`), and there is one more of them than there are separators (`length_pieces`).
-/

namespace AmqpSession.Text

variable {α : Type} (isSeparator : α → Bool)

/-- The stretches between separators. -/
def pieces : List α → List (List α)
  | [] => [[]]
  | x :: xs =>
    if isSeparator x then [] :: pieces xs
    else match pieces xs with
      | [] => [[x]]
      | p :: ps => (x :: p) :: ps

theorem pieces_ne_nil (xs : List α) : pieces isSeparator xs ≠ [] := by
  cases xs with
  | nil => simp [pieces]
  | cons x xs =>
    unfold pieces
    split
    · simp
    · split <;> simp

theorem length_pieces (xs : List α) :
    (pieces isSeparator xs).length = (xs.filter isSeparator).length + 1 := by
  induction xs with
  | nil => rfl
  | cons x xs ih =>
    unfold pieces
    by_cases h : isSeparator x
    · simp [h, ih]
    · rw [if_neg h, List.filter_cons_of_neg h, ← ih]
      split
      · rename_i h'; exact absurd h' (pieces_ne_nil isSeparator xs)
      · rename_i h'; simp [h']

theorem not_mem_pieces (xs : List α) :
    ∀ p ∈ pieces isSeparator xs, ∀ x ∈ p, isSeparator x = false := by
  induction xs with
  | nil => simp [pieces]
  | cons x xs ih =>
    unfold pieces
    by_cases h : isSeparator x
    · simpa [h] using ih
    · rw [if_neg h]
      split
      · simpa using h
      · rename_i h'
        rw [h'] at ih
        intro p hp
        rcases List.mem_cons.1 hp with rfl | hp
        · intro y hy
          rcases List.mem_cons.1 hy with rfl | hy
          · simpa using h
          · exact ih _ (List.mem_cons_self ..) _ hy
        · exact ih _ (List.mem_cons_of_mem _ hp)

/-- The parts before and after the last `x`. -/
def splitLast [DecidableEq α] (x : α) : List α → Option (List α × List α)
  | [] => none
  | y :: ys =>
    match splitLast x ys with
    | some (before, after) => some (y :: before, after)
    | none => if y = x then some ([], ys) else none

end AmqpSession.Text
