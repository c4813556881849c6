/-
How many octets the decoder needs. It asks for more only while the head of a frame is missing, or while
the rest of a frame within the limit is (`head_of_decode`). So whatever it says of a buffer, it says of
every longer one, it says of a frame as soon as the frame is complete and no earlier, and nobody has to
keep more octets than the limit before it says something (`decode_stable_and_bounded`).
-/
import AmqpSession.Proofs.RoundTrip

namespace AmqpSession.Wire.Frame

variable {src : Bytes} {max : UInt32}

/-! ## Frames that are not complete -/

theorem decodeRest_eq_none_iff {type : FrameType} {channel : UInt16} {size : Nat} {octets : Bytes} :
    decodeRest type channel size octets = .ok none ↔ octets.length ≤ size := by
  unfold decodeRest
  cases hd : octets.drop size with
  | nil => simpa using List.drop_eq_nil_iff.1 hd
  | cons last tail =>
    have hlt := lt_of_drop_eq_cons hd
    refine iff_of_false (fun h => ?_) (Nat.not_le.2 hlt)
    dsimp only at h
    split at h
    · cases hb : decodeBody type channel (octets.take size) <;> rw [hb] at h <;> cases h
    · cases h

/-- Without all of its head nothing is said of a frame, nor of a protocol header. -/
theorem decode_of_short (h : src.length < 7) (max : UInt32) : decode src max = .ok none := by
  unfold decode
  split
  · rw [if_pos (by omega)]
  · match src with
    | [] | [_] | [_, _] | [_, _, _] | [_, _, _, _] | [_, _, _, _, _] | [_, _, _, _, _, _] => rfl
    | _ :: _ :: _ :: _ :: _ :: _ :: _ :: _ => simp at h; omega

theorem length_head (type : FrameType) (channel : UInt16) (size : Nat) :
    (head type channel size).length = 7 := by
  simp [head]

/-- Nothing is said of a frame within the limit before its last octet has arrived. -/
theorem decode_take_layout {type : FrameType} {channel : UInt16} {payload : Bytes} {k : Nat}
    (ht : type = .heartbeat → payload = []) (hl : payload.length < UInt32.size)
    (hm : exceeds (payload.length + overhead) max = false) (hk : k < payload.length + overhead) :
    decode ((layout type channel payload).take k) max = .ok none := by
  by_cases hshort : k < 7
  · exact decode_of_short (by rw [List.length_take]; omega) max
  · have htake : (layout type channel payload).take k =
        head type channel payload.length ++ (payload ++ [frameEnd]).take (k - 7) := by
      rw [layout, List.append_assoc, List.take_append, length_head,
        List.take_of_length_le (by rw [length_head]; omega)]
    rw [htake, decode_head channel (fun h => List.length_eq_zero_iff.2 (ht h)) hl hm,
      decodeRest_eq_none_iff, List.length_take]
    simp only [overhead] at hk
    omega

/-- Octets of which nothing is said fit into a frame within the limit, and one is missing. -/
theorem length_lt_of_decode_eq_none (h : decode src max = .ok none) (hmax : max ≠ 0) :
    src.length < Nat.max 8 max.toNat := by
  rcases head_of_decode h with ⟨-, hlen⟩ | ⟨type, channel, size, octets, rfl, -, -, hm, hrest⟩
  · exact Nat.lt_of_lt_of_le hlen (Nat.le_max_left _ _)
  · have hmissing := decodeRest_eq_none_iff.1 hrest
    have hfits := (exceeds_eq_false_iff.1 hm).resolve_left hmax
    refine Nat.lt_of_lt_of_le ?_ (Nat.le_max_right _ _)
    rw [List.length_append, length_head]
    simp only [overhead] at hfits
    omega

/-! ## The law of the decoder -/

/-- Whatever is said of a buffer is said of every longer one.
A frame takes at least eight octets, all of them in the buffer, and no more than the limit allows; they
alone decide, and none of them can be spared.
A buffer of which nothing is said is shorter than the limit, and shorter than eight octets if the limit
is less. -/
theorem decode_stable_and_bounded (src : Bytes) (max : UInt32) :
    (decode src max ≠ .ok none → ∀ ext, decode (src ++ ext) max = decode src max) ∧
    (∀ r, decode src max = .ok (some r) →
      8 ≤ r.size ∧ r.size ≤ src.length ∧ (max ≠ 0 → r.size ≤ max.toNat) ∧
      (∀ src', src'.take r.size = src.take r.size → decode src' max = .ok (some r)) ∧
      ∀ k < r.size, decode (src.take k) max = .ok none) ∧
    (decode src max = .ok none → max ≠ 0 → src.length < Nat.max 8 max.toNat) := by
  refine ⟨decode_append, fun r h => ?_, length_lt_of_decode_eq_none⟩
  obtain ⟨type, payload, rest, ⟨hl, hempty, hb⟩, rfl, hn, hm⟩ := decode_eq_ok_some_iff.1 h
  have hsize : (layout type r.frame.channel payload).length = r.size := by rw [hn, length_layout]
  have hfront : (layout type r.frame.channel payload ++ rest).take r.size =
      layout type r.frame.channel payload := by rw [← hsize, List.take_left]
  refine ⟨hn ▸ Nat.le_add_left _ _, ?_, fun hmax => (exceeds_eq_false_iff.1 hm).resolve_left hmax,
    fun src' hsrc => ?_, fun k hk => ?_⟩
  · rw [List.length_append, hsize]
    exact Nat.le_add_right _ _
  · rw [hfront] at hsrc
    exact decode_eq_ok_some_iff.2 ⟨type, payload, src'.drop r.size, ⟨hl, hempty, hb⟩,
      by rw [← hsrc, List.take_append_drop], hn, hm⟩
  · rw [List.take_append_of_le_length (hsize ▸ Nat.le_of_lt hk)]
    exact decode_take_layout hempty hl (hn ▸ hm) (hn ▸ hk)

/-- A frame of 13 octets within a limit of 13, with the beginning of another frame behind it. -/
theorem decode_stable_and_bounded_flow :
    let flow : Bytes := [1, 0, 1, 0, 0, 0, 5, 0, 20, 0, 20, 1, 0xce]
    decode (flow ++ [8, 0]) 13 = .ok (some ⟨ofChannel 1 (.flow true), 13⟩) ∧
      decode (flow ++ [8, 0] ++ [0, 0, 0, 0, 0, 0xce]) 13 = decode (flow ++ [8, 0]) 13 ∧
      (∀ more, decode (flow ++ more) 13 = .ok (some ⟨ofChannel 1 (.flow true), 13⟩)) ∧
      (∀ k < 13, decode (flow.take k) 13 = .ok none) := by
  intro flow
  have hw : (ofChannel 1 (.flow true)).toWire.result = .ok flow :=
    Draft.result_eq_ok_iff.2 (by decide +kernel)
  have hd : decode (flow ++ [8, 0]) 13 = .ok (some ⟨ofChannel 1 (.flow true), 13⟩) :=
    decode_written rfl hw (.inr (by decide)) [8, 0]
  obtain ⟨hstable, hframe, -⟩ := decode_stable_and_bounded (flow ++ [8, 0]) 13
  obtain ⟨-, -, -, hdepends, hneeds⟩ := hframe _ hd
  refine ⟨hd, hstable (by rw [hd]; simp) _, fun more => hdepends _ rfl, fun k hk => ?_⟩
  have h := hneeds k hk
  rwa [List.take_append_of_le_length (Nat.le_of_lt hk)] at h

end AmqpSession.Wire.Frame
