/-
The decoder decides by the octets that it needs: what it says of a buffer, if it says anything, it
says of every longer one.
-/
import AmqpSession.Wire.Frame.Decode

namespace AmqpSession.Wire.Frame

theorem lt_of_drop_eq_cons {size : Nat} {rest tail : Bytes} {last : UInt8}
    (h : rest.drop size = last :: tail) : size < rest.length := by
  refine Nat.lt_of_not_le fun hge => ?_
  rw [List.drop_eq_nil_of_le hge] at h
  cases h

theorem decodeRest_append {type : FrameType} {channel : UInt16} {size : Nat} {rest : Bytes}
    (h : decodeRest type channel size rest ≠ .ok none) (more : Bytes) :
    decodeRest type channel size (rest ++ more) = decodeRest type channel size rest := by
  unfold decodeRest at h ⊢
  cases hd : rest.drop size with
  | nil => rw [hd] at h; exact absurd rfl h
  | cons last tail =>
    have hlt := lt_of_drop_eq_cons hd
    rw [List.drop_append_of_le_length (Nat.le_of_lt hlt), hd,
      List.take_append_of_le_length (Nat.le_of_lt hlt)]
    rfl

/-- More octets do not change what was decided. -/
theorem decode_append {src : Bytes} {max : UInt32} (h : decode src max ≠ .ok none) (more : Bytes) :
    decode (src ++ more) max = decode src max := by
  by_cases hh : src.head? = some 0x41
  · have hh' : (src ++ more).head? = some 0x41 := by rw [List.head?_append, hh]; rfl
    unfold decode at h ⊢
    rw [if_pos hh] at h ⊢
    rw [if_pos hh']
    split at h
    · exact absurd rfl h
    · rename_i hlen
      rw [if_neg hlen, if_neg (by rw [List.length_append]; omega),
        List.take_append_of_le_length (by omega)]
  · -- without all of its head a frame is incomplete
    match src with
    | [] | [_] | [_, _] | [_, _, _] | [_, _, _, _] | [_, _, _, _, _] | [_, _, _, _, _, _] =>
      unfold decode at h
      rw [if_neg hh] at h
      exact absurd rfl h
    | type :: c1 :: c0 :: s3 :: s2 :: s1 :: s0 :: rest =>
      have hh' : ((type :: c1 :: c0 :: s3 :: s2 :: s1 :: s0 :: rest) ++ more).head? ≠ some 0x41 := hh
      unfold decode at h ⊢
      rw [if_neg hh] at h ⊢
      rw [if_neg hh']
      dsimp only [List.cons_append] at h ⊢
      cases ht : FrameType.ofOctet? type with
      | none => rfl
      | some t =>
        rw [ht] at h
        dsimp only at h ⊢
        split
        · rfl
        · rename_i hb
          rw [if_neg hb] at h
          split
          · rfl
          · rename_i he
            rw [if_neg he] at h
            exact decodeRest_append h more

/-- A limit can only refuse a frame. -/
theorem decode_of_unlimited {src : Bytes} {r : Received} (h : decode src 0 = .ok (some r))
    (max : UInt32) : decode src max = .ok (some r) ∨ ∃ fault, decode src max = .error fault := by
  unfold decode at h ⊢
  split at h
  · split at h <;> cases h
  · rename_i hh
    rw [if_neg hh]
    split at h
    · dsimp only at h ⊢
      split at h
      · cases h
      · split at h
        · cases h
        · rename_i hb
          rw [if_neg hb]
          split at h
          · cases h
          · split
            · exact .inr ⟨_, rfl⟩
            · exact .inl h
    · cases h

theorem size_of_decodeRest {type : FrameType} {channel : UInt16} {size : Nat} {rest : Bytes}
    {r : Received} (h : decodeRest type channel size rest = .ok (some r)) :
    r.size = size + overhead ∧ size < rest.length := by
  unfold decodeRest at h
  cases hd : rest.drop size with
  | nil => rw [hd] at h; cases h
  | cons last tail =>
    rw [hd] at h
    have hlt := lt_of_drop_eq_cons hd
    dsimp only at h
    split at h
    · cases hb : decodeBody type channel (rest.take size) with
      | error fault => rw [hb] at h; cases h
      | ok body => rw [hb] at h; cases h; exact ⟨rfl, hlt⟩
    · cases h

/-- A decoded frame is at the front of the buffer, with its head and its end. -/
theorem size_of_decode {src : Bytes} {max : UInt32} {r : Received}
    (h : decode src max = .ok (some r)) : overhead ≤ r.size ∧ r.size ≤ src.length := by
  unfold decode at h
  split at h
  · split at h <;> cases h
  · split at h
    · dsimp only at h
      split at h
      · cases h
      · split at h
        · cases h
        · split at h
          · cases h
          · obtain ⟨hs, hlt⟩ := size_of_decodeRest h
            rw [hs]
            refine ⟨Nat.le_add_left _ _, ?_⟩
            simp only [List.length_cons, overhead]
            omega
    · cases h

end AmqpSession.Wire.Frame
