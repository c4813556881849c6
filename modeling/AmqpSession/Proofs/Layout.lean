/-
Reading back what was laid out. A frame whose payload can be read is taken off the front of a
buffer as it was written, whatever follows it (`Frame.decode_layout`).
-/
import AmqpSession.Wire.Frame.Decode

namespace AmqpSession.Wire

/-! ## Numbers -/

theorem bigEndian_two (n : Nat) : bigEndian 2 n = [UInt8.ofNat (n / 256), UInt8.ofNat n] := rfl

theorem bigEndian_four (n : Nat) :
    bigEndian 4 n = [UInt8.ofNat (n / 256 / 256 / 256), UInt8.ofNat (n / 256 / 256),
      UInt8.ofNat (n / 256), UInt8.ofNat n] := rfl

theorem ofNat_ofBigEndian_two (n : UInt16) :
    UInt16.ofNat (ofBigEndian [UInt8.ofNat (n.toNat / 256), UInt8.ofNat n.toNat]) = n := by
  rw [← bigEndian_two, ofBigEndian_bigEndian]
  have hlt : n.toNat % octetRange 2 = n.toNat := Nat.mod_eq_of_lt n.toNat_lt
  rw [hlt, UInt16.ofNat_toNat]

theorem ofBigEndian_four {n : Nat} (h : n < UInt32.size) :
    ofBigEndian [UInt8.ofNat (n / 256 / 256 / 256), UInt8.ofNat (n / 256 / 256),
      UInt8.ofNat (n / 256), UInt8.ofNat n] = n := by
  rw [← bigEndian_four, ofBigEndian_bigEndian]
  exact Nat.mod_eq_of_lt h

/-! ## Frames -/

theorem FrameType.ofOctet?_toOctet (type : FrameType) : ofOctet? type.toOctet = some type := by
  cases type <;> rfl

namespace Frame

/-- A limit of 0 is none. -/
theorem exceeds_eq_true_iff {size : Nat} {max : UInt32} :
    exceeds size max = true ↔ max ≠ 0 ∧ max.toNat < size := by
  have hzero : max ≠ 0 ↔ 0 < max.toNat := by
    rw [Nat.pos_iff_ne_zero, ne_eq, ne_eq, ← UInt32.toNat_inj]
    rfl
  rw [hzero, exceeds, Bool.and_eq_true, decide_eq_true_eq, decide_eq_true_eq]

theorem exceeds_eq_false_iff {size : Nat} {max : UInt32} :
    exceeds size max = false ↔ max = 0 ∨ size ≤ max.toNat := by
  rw [← Bool.not_eq_true, exceeds_eq_true_iff, Classical.not_and_iff_not_or_not, Nat.not_lt, ne_eq,
    Classical.not_not]

theorem decodeRest_layout (type : FrameType) (channel : UInt16) (payload rest : Bytes) :
    decodeRest type channel payload.length (payload ++ frameEnd :: rest) =
      (decodeBody type channel payload).map fun body =>
        some ⟨⟨channel, body⟩, payload.length + overhead⟩ := by
  unfold decodeRest
  rw [List.drop_left, List.take_left]
  dsimp only
  rw [if_pos rfl]
  cases decodeBody type channel payload <;> rfl

/-- What is decoded once the head of a frame has arrived. -/
theorem decode_head_eq {type : FrameType} (channel : UInt16) {size : Nat} {max : UInt32}
    (ht : type = .heartbeat → size = 0) (hl : size < UInt32.size) (octets : Bytes) :
    decode (head type channel size ++ octets) max =
      if exceeds (size + overhead) max then .error (.frameTooLarge (size + overhead) max)
      else decodeRest type channel size octets := by
  have hhead : head type channel size ++ octets =
      type.toOctet :: UInt8.ofNat (channel.toNat / 256) :: UInt8.ofNat channel.toNat ::
        UInt8.ofNat (size / 256 / 256 / 256) :: UInt8.ofNat (size / 256 / 256) ::
        UInt8.ofNat (size / 256) :: UInt8.ofNat size :: octets := by
    rw [head, bigEndian_two, bigEndian_four]
    rfl
  have hletter : type.toOctet ≠ 0x41 := by cases type <;> decide
  rw [hhead]
  unfold decode
  rw [if_neg (by simpa using hletter)]
  dsimp only
  rw [FrameType.ofOctet?_toOctet, ofNat_ofBigEndian_two, ofBigEndian_four hl]
  dsimp only
  rw [if_neg (fun h => h.2 (ht h.1))]

theorem decode_head {type : FrameType} (channel : UInt16) {size : Nat} {max : UInt32}
    (ht : type = .heartbeat → size = 0) (hl : size < UInt32.size)
    (hm : exceeds (size + overhead) max = false) (octets : Bytes) :
    decode (head type channel size ++ octets) max = decodeRest type channel size octets := by
  rw [decode_head_eq channel ht hl, hm]
  rfl

/-- A frame is read as the channel and the payload that were laid out. -/
theorem decode_layout {type : FrameType} (channel : UInt16) {payload : Bytes} {max : UInt32}
    (ht : type = .heartbeat → payload = []) (hl : payload.length < UInt32.size)
    (hm : exceeds (payload.length + overhead) max = false) (rest : Bytes) :
    decode (head type channel payload.length ++ payload ++ frameEnd :: rest) max =
      (decodeBody type channel payload).map fun body =>
        some ⟨⟨channel, body⟩, payload.length + overhead⟩ := by
  rw [List.append_assoc, decode_head channel (fun h => List.length_eq_zero_iff.2 (ht h)) hl hm,
    decodeRest_layout]

/-- What a finished frame with a payload looks like. -/
theorem toWire_of_encodePayload {f : Frame} {type : FrameType} {payload : Draft} {octets : Bytes}
    (he : f.encode = encodePayload type f.channel payload) (ht : f.needsTerminator = true)
    (h : f.toWire.result = .ok octets) :
    payload.fault = none ∧ payload.octets.length < UInt32.size ∧
      octets = head type f.channel payload.octets.length ++ payload.octets ++ [frameEnd] := by
  rw [toWire, if_pos ht, he] at h
  obtain ⟨written, fault⟩ := payload
  cases fault with
  | some fault => cases h
  | none =>
    unfold encodePayload at h
    dsimp only at h
    split at h
    · rename_i hl
      exact ⟨rfl, hl, (Except.ok.inj h).symm⟩
    · cases h

theorem length_of_encodePayload {f : Frame} {type : FrameType} {payload : Draft} {octets : Bytes}
    (he : f.encode = encodePayload type f.channel payload) (ht : f.needsTerminator = true)
    (h : f.toWire.result = .ok octets) : octets.length = payload.octets.length + overhead := by
  obtain ⟨-, -, rfl⟩ := toWire_of_encodePayload he ht h
  simp only [head, List.length_append, List.length_cons, length_bigEndian, List.length_nil, overhead]
  omega

/-- A frame is read back if its payload is. -/
theorem decode_toWire {f : Frame} {type : FrameType} {payload : Draft} {octets : Bytes} {max : UInt32}
    (he : f.encode = encodePayload type f.channel payload) (ht : f.needsTerminator = true)
    (hb : type ≠ .heartbeat) (h : f.toWire.result = .ok octets)
    (hm : exceeds octets.length max = false)
    (hd : decodeBody type f.channel payload.octets = .ok f.body) (rest : Bytes) :
    decode (octets ++ rest) max = .ok (some ⟨f, octets.length⟩) := by
  rw [length_of_encodePayload he ht h] at hm ⊢
  obtain ⟨-, hl, rfl⟩ := toWire_of_encodePayload he ht h
  rw [List.append_assoc, List.singleton_append, decode_layout f.channel (absurd · hb) hl hm, hd]
  rfl

end Frame

/-! ## Payloads -/

namespace Reader

/-- What is read after something that was read. -/
theorem bind_eq {α β : Type} {m : Reader α} {k : α → Reader β} {payload rest : Bytes} {a : α}
    (h : m payload = .ok (a, rest)) : (m >>= k) payload = k a rest := by
  show (m payload >>= fun p => k p.1 p.2) = _
  rw [h]
  rfl

theorem map_eq {α β : Type} {m : Reader α} (g : α → β) {payload rest : Bytes} {a : α}
    (h : m payload = .ok (a, rest)) : (g <$> m) payload = .ok (g a, rest) := by
  show (m payload >>= fun p => Except.ok (g p.1, p.2)) = _
  rw [h]
  rfl

theorem octets_append (bs rest : Bytes) : octets bs.length (bs ++ rest) = .ok (bs, rest) := by
  unfold octets
  rw [if_neg (by simp), List.take_left, List.drop_left]

theorem unsigned_bigEndian (width n : Nat) (rest : Bytes) :
    unsigned width (bigEndian width n ++ rest) = .ok (n % octetRange width, rest) := by
  have h := octets_append (bigEndian width n) rest
  rw [length_bigEndian] at h
  rw [← ofBigEndian_bigEndian]
  exact map_eq ofBigEndian h

theorem short_bigEndian (n : UInt16) (rest : Bytes) :
    short (bigEndian 2 n.toNat ++ rest) = .ok (n, rest) := by
  have h := unsigned_bigEndian 2 n.toNat rest
  have hlt : n.toNat % octetRange 2 = n.toNat := Nat.mod_eq_of_lt n.toNat_lt
  rw [hlt] at h
  have hs : short (bigEndian 2 n.toNat ++ rest) = .ok (UInt16.ofNat n.toNat, rest) :=
    map_eq UInt16.ofNat h
  rw [hs, UInt16.ofNat_toNat]

theorem longLong_bigEndian (n : UInt64) (rest : Bytes) :
    longLong (bigEndian 8 n.toNat ++ rest) = .ok (n, rest) := by
  have h := unsigned_bigEndian 8 n.toNat rest
  have hlt : n.toNat % octetRange 8 = n.toNat := Nat.mod_eq_of_lt n.toNat_lt
  rw [hlt] at h
  have hs : longLong (bigEndian 8 n.toNat ++ rest) = .ok (UInt64.ofNat n.toNat, rest) :=
    map_eq UInt64.ofNat h
  rw [hs, UInt64.ofNat_toNat]

theorem contentHeader_encode (h : ContentHeader) :
    contentHeader (bigEndian 2 h.classId.toNat ++ (bigEndian 2 h.weight.toNat ++
      (bigEndian 8 h.bodySize.toNat ++ h.properties))) = .ok (h, []) := by
  unfold contentHeader
  rw [bind_eq (short_bigEndian _ _), bind_eq (short_bigEndian _ _), bind_eq (longLong_bigEndian _ _)]
  rfl

end Reader

theorem Method.decode_other {classId : UInt16} (hc : classId ≠ connectionClass)
    (hc' : classId ≠ channelClass) (methodId : UInt16) (arguments : Bytes) :
    Method.decode (bigEndian 2 classId.toNat ++ (bigEndian 2 methodId.toNat ++ arguments)) =
      .ok (.other classId methodId arguments) := by
  have hmethod : Reader.method (bigEndian 2 classId.toNat ++ (bigEndian 2 methodId.toNat ++ arguments)) =
      .ok (.other classId methodId arguments, []) := by
    unfold Reader.method
    rw [Reader.bind_eq (Reader.short_bigEndian _ _), Reader.bind_eq (Reader.short_bigEndian _ _),
      if_neg hc, if_neg hc']
    rfl
  rw [Method.decode, hmethod]
  rfl

end AmqpSession.Wire
