/-
The octets of a frame. A frame is decoded exactly from octets that spell it (`Frame.decode_eq_ok_iff`):
those that are written for it and, for the few methods with reserved arguments or a bit, some others
(`Frame.ReadsLoosely`). So what is written is read back, whatever follows it (`decode_written`), and
what was read can be written again, never longer, and in other octets only for those methods
(`written_of_decode`).
-/
import AmqpSession.Proofs.Incremental
import AmqpSession.Proofs.Spelling

namespace AmqpSession.Wire.Frame

/-! ## Frames around payloads -/

/-- A frame that is complete, the frame end included. -/
def layout (type : FrameType) (channel : UInt16) (payload : Bytes) : Bytes :=
  head type channel payload.length ++ payload ++ [frameEnd]

theorem length_layout (type : FrameType) (channel : UInt16) (payload : Bytes) :
    (layout type channel payload).length = payload.length + overhead := by
  simp only [layout, head, List.length_append, List.length_cons, length_bigEndian, List.length_nil,
    overhead]
  omega

theorem layout_inj {type : FrameType} {channel : UInt16} {p q : Bytes} :
    layout type channel p = layout type channel q ↔ p = q := by
  refine ⟨fun h => ?_, congrArg _⟩
  have hl : p.length = q.length := by
    have hl := congrArg List.length h
    rw [length_layout, length_layout] at hl
    exact Nat.add_right_cancel hl
  rw [layout, layout, hl] at h
  exact List.append_cancel_left (List.append_cancel_right h)

/-- Whether these octets are the payload of a frame with this body. -/
def Carries (f : Frame) (type : FrameType) (payload : Bytes) : Prop :=
  payload.length < UInt32.size ∧ (type = .heartbeat → payload = []) ∧
    decodeBody type f.channel payload = .ok f.body

theorem toOctet_of_ofOctet? {b : UInt8} {type : FrameType} (h : FrameType.ofOctet? b = some type) :
    b = type.toOctet := by
  apply UInt8.toNat_inj.1
  unfold FrameType.ofOctet? at h
  split at h <;> simp_all [FrameType.toOctet] <;> subst h <;> rfl

theorem of_decodeRest {type : FrameType} {channel : UInt16} {size : Nat} {octets : Bytes}
    {r : Received} (h : decodeRest type channel size octets = .ok (some r)) :
    ∃ payload rest, octets = payload ++ frameEnd :: rest ∧ payload.length = size ∧
      r.frame.channel = channel ∧ decodeBody type channel payload = .ok r.frame.body := by
  have hsize := (size_of_decodeRest h).2
  unfold decodeRest at h
  cases hd : octets.drop size with
  | nil => rw [hd] at h; cases h
  | cons last rest =>
    rw [hd] at h
    dsimp only at h
    split at h
    · rename_i hlast
      cases hb : decodeBody type channel (octets.take size) with
      | error fault => rw [hb] at h; cases h
      | ok body =>
        rw [hb] at h
        cases h
        refine ⟨octets.take size, rest, ?_, by rw [List.length_take]; omega, rfl, hb⟩
        rw [← hlast, ← hd, List.take_append_drop]
    · cases h

theorem ofBigEndian_two_lt (b1 b0 : UInt8) : ofBigEndian [b1, b0] < UInt16.size := by
  have hrange : octetRange 2 = UInt16.size := rfl
  exact hrange ▸ ofBigEndian_lt [b1, b0]

theorem ofBigEndian_four_lt (b3 b2 b1 b0 : UInt8) : ofBigEndian [b3, b2, b1, b0] < UInt32.size := by
  have hrange : octetRange 4 = UInt32.size := rfl
  exact hrange ▸ ofBigEndian_lt [b3, b2, b1, b0]

/-- The seven octets of a head, by what they say. -/
theorem head_ofBigEndian (type : FrameType) (c1 c0 s3 s2 s1 s0 : UInt8) :
    head type (UInt16.ofNat (ofBigEndian [c1, c0])) (ofBigEndian [s3, s2, s1, s0]) =
      [type.toOctet, c1, c0, s3, s2, s1, s0] := by
  have hc : bigEndian 2 (ofBigEndian [c1, c0]) = [c1, c0] := bigEndian_ofBigEndian [c1, c0]
  have hs : bigEndian 4 (ofBigEndian [s3, s2, s1, s0]) = [s3, s2, s1, s0] :=
    bigEndian_ofBigEndian [s3, s2, s1, s0]
  have hmod : ofBigEndian [c1, c0] % 2 ^ 16 = ofBigEndian [c1, c0] :=
    Nat.mod_eq_of_lt (ofBigEndian_two_lt c1 c0)
  rw [head, UInt16.toNat_ofNat', hmod, hc, hs]
  rfl

/-- The head that was read, where nothing was refused and not just the beginning of a head is there. -/
theorem head_of_decode {src : Bytes} {max : UInt32} {x : Option Received}
    (h : decode src max = .ok x) :
    (x = none ∧ src.length < 8) ∨
      ∃ type channel size octets, src = head type channel size ++ octets ∧ size < UInt32.size ∧
        (type = .heartbeat → size = 0) ∧ exceeds (size + overhead) max = false ∧
          decodeRest type channel size octets = .ok x := by
  unfold decode at h
  split at h
  · split at h
    · rename_i hlen
      exact .inl ⟨(Except.ok.inj h).symm, hlen⟩
    · cases h
  · split at h
    · rename_i b c1 c0 s3 s2 s1 s0 octets _
      dsimp only at h
      split at h
      · cases h
      · rename_i type ht
        obtain rfl := toOctet_of_ofOctet? ht
        split at h
        · cases h
        · rename_i hempty
          split at h
          · cases h
          · rename_i hm
            have hsrc : type.toOctet :: c1 :: c0 :: s3 :: s2 :: s1 :: s0 :: octets =
                head type (UInt16.ofNat (ofBigEndian [c1, c0])) (ofBigEndian [s3, s2, s1, s0]) ++
                  octets := by
              rw [head_ofBigEndian]
              rfl
            exact .inr ⟨type, _, _, octets, hsrc, ofBigEndian_four_lt s3 s2 s1 s0,
              fun htype => Decidable.byContradiction fun hne => hempty ⟨htype, hne⟩,
              eq_false_of_ne_true hm, h⟩
    · rename_i hshort
      refine .inl ⟨(Except.ok.inj h).symm, Nat.not_le.1 fun hlen => ?_⟩
      match src with
      | b :: c1 :: c0 :: s3 :: s2 :: s1 :: s0 :: octets => exact hshort b c1 c0 s3 s2 s1 s0 octets rfl

/-- A frame is taken off the front of a buffer exactly if it stands there. -/
theorem decode_eq_ok_some_iff {src : Bytes} {max : UInt32} {f : Frame} {n : Nat} :
    decode src max = .ok (some ⟨f, n⟩) ↔
      ∃ type payload rest, f.Carries type payload ∧ src = layout type f.channel payload ++ rest ∧
        n = payload.length + overhead ∧ exceeds n max = false := by
  constructor
  · intro h
    obtain ⟨type, channel, size, octets, rfl, hlt, hempty, hm, h⟩ :=
      (head_of_decode h).resolve_left (by simp)
    obtain hn : n = size + overhead := (size_of_decodeRest h).1
    obtain ⟨payload, rest, rfl, rfl, rfl, hb⟩ := of_decodeRest h
    refine ⟨type, payload, rest, ⟨hlt, fun ht => List.length_eq_zero_iff.1 (hempty ht), hb⟩, ?_,
      hn, hn ▸ hm⟩
    simp [layout]
  · rintro ⟨type, payload, rest, ⟨hl, hempty, hb⟩, rfl, rfl, hm⟩
    rw [layout, List.append_assoc, List.singleton_append, decode_layout f.channel hempty hl hm, hb]
    rfl

/-! ## Frames that are written -/

/-- Not a protocol header, no heartbeat on a channel, no opaque method of a class that is spelled out. -/
def isReadable (f : Frame) : Bool :=
  match f.body with
  | .protocolHeader _ => false
  | .method m => m.isReadable
  | .header _ | .content _ => true
  | .heartbeat => f.channel = 0

/-- The type and the payload of a frame with this body. -/
def form : Body → Option (FrameType × Draft)
  | .protocolHeader _ => none
  | .method m => some (.method, m.encode)
  | .header h =>
    some (.header, .short h.classId ++ .short h.weight ++ .longLong h.bodySize ++ .raw h.properties)
  | .content data => some (.content, .raw data)
  | .heartbeat => some (.heartbeat, .empty)

theorem encode_of_form {f : Frame} {type : FrameType} {payload : Draft}
    (hform : form f.body = some (type, payload)) :
    f.encode = encodePayload type f.channel payload ∧ f.needsTerminator = true := by
  obtain ⟨channel, body⟩ := f
  cases body <;> cases hform <;> exact ⟨rfl, rfl⟩

theorem toWire_eq_ok_iff {f : Frame} {type : FrameType} {payload : Draft} {octets : Bytes}
    (hform : form f.body = some (type, payload)) :
    f.toWire.result = .ok octets ↔ ∃ written, payload.result = .ok written ∧
      written.length < UInt32.size ∧ octets = layout type f.channel written := by
  obtain ⟨he, ht⟩ := encode_of_form hform
  constructor
  · intro h
    obtain ⟨hf, hl, rfl⟩ := toWire_of_encodePayload he ht h
    exact ⟨payload.octets, Draft.result_eq_ok_iff.2 ⟨hf, rfl⟩, hl, rfl⟩
  · rintro ⟨written, hw, hl, rfl⟩
    obtain ⟨hf, rfl⟩ := Draft.result_eq_ok_iff.1 hw
    rw [toWire, he, if_pos ht, encodePayload, hf]
    dsimp only
    rw [if_pos hl]
    rfl

/-- Octets that are read as a frame but not written for it, because its arguments are. -/
def ReadsLoosely (f : Frame) (octets : Bytes) : Prop :=
  ∃ m args, f.body = .method m ∧ m.ReadsLoosely args ∧
    octets = layout .method f.channel (m.payload args)

/-- Octets that are read as a frame: those written for it and, for some methods, others. -/
def Spells (f : Frame) (octets : Bytes) : Prop :=
  f.isReadable = true ∧ (f.toWire.result = .ok octets ∨
    f.ReadsLoosely octets ∧ octets.length < UInt32.size + overhead)

theorem decodeBody_method_iff {channel : UInt16} {payload : Bytes} {body : Body} :
    decodeBody .method channel payload = .ok body ↔ ∃ m, body = .method m ∧ m.isReadable = true ∧
      ∃ args, m.Spells args ∧ payload = m.payload args := by
  simp only [← Method.decode_eq_ok_iff]
  unfold decodeBody
  cases Method.decode payload with
  | error fault => simp [Functor.map, Except.map]
  | ok m => simp [Functor.map, Except.map, eq_comm]

theorem decodeBody_header_iff {channel : UInt16} {payload : Bytes} {body : Body} :
    decodeBody .header channel payload = .ok body ↔ ∃ h : ContentHeader, body = .header h ∧
      (Draft.short h.classId ++ .short h.weight ++ .longLong h.bodySize ++
        .raw h.properties).result = .ok payload := by
  have hread : ∀ (h : ContentHeader) rest, Reader.contentHeader payload = .ok (h, rest) ↔
      (Draft.short h.classId ++ .short h.weight ++ .longLong h.bodySize ++
        .raw h.properties).result = .ok payload ∧ rest = [] := by
    rintro ⟨classId, weight, bodySize, properties⟩ rest
    simp [Reader.contentHeader]
  unfold decodeBody
  constructor
  · intro h
    cases hc : Reader.contentHeader payload with
    | error fault => rw [hc] at h; cases h
    | ok p =>
      rw [hc] at h
      cases h
      exact ⟨p.1, rfl, ((hread p.1 p.2).1 hc).1⟩
  · rintro ⟨h, rfl, hp⟩
    have hc := (hread h []).2 ⟨hp, rfl⟩
    dsimp only
    rw [hc]
    rfl

theorem carries_of_spells {f : Frame} {octets : Bytes} (h : f.Spells octets) :
    ∃ type payload, f.Carries type payload ∧ octets = layout type f.channel payload := by
  obtain ⟨channel, body⟩ := f
  obtain ⟨hr, hw | ⟨⟨m, args, hbody, hm, rfl⟩, hl⟩⟩ := h
  · cases body with
    | protocolHeader header => cases hr
    | method m =>
      obtain ⟨payload, hp, hl, rfl⟩ := (toWire_eq_ok_iff rfl).1 hw
      obtain ⟨args, hargs, rfl⟩ := Method.result_encode.1 hp
      exact ⟨.method, _, ⟨hl, nofun, decodeBody_method_iff.2 ⟨m, rfl, hr, args, .inl hargs, rfl⟩⟩, rfl⟩
    | header header =>
      obtain ⟨payload, hp, hl, rfl⟩ := (toWire_eq_ok_iff rfl).1 hw
      exact ⟨.header, _, ⟨hl, nofun, decodeBody_header_iff.2 ⟨header, rfl, hp⟩⟩, rfl⟩
    | content data =>
      obtain ⟨payload, hp, hl, rfl⟩ := (toWire_eq_ok_iff rfl).1 hw
      obtain rfl := Draft.result_raw.1 hp
      exact ⟨.content, _, ⟨hl, nofun, rfl⟩, rfl⟩
    | heartbeat =>
      obtain ⟨payload, hp, hl, rfl⟩ := (toWire_eq_ok_iff rfl).1 hw
      obtain rfl := Draft.result_empty.1 hp
      exact ⟨.heartbeat, _, ⟨hl, fun _ => rfl, if_pos (of_decide_eq_true hr)⟩, rfl⟩
  · dsimp only at hbody
    subst hbody
    rw [length_layout] at hl
    exact ⟨.method, _, ⟨Nat.lt_of_add_lt_add_right hl, nofun,
      decodeBody_method_iff.2 ⟨m, rfl, hr, args, .inr hm, rfl⟩⟩, rfl⟩

theorem spells_of_carries {f : Frame} {type : FrameType} {payload : Bytes}
    (h : f.Carries type payload) : f.Spells (layout type f.channel payload) := by
  obtain ⟨hl, hempty, hb⟩ := h
  obtain ⟨channel, body⟩ := f
  cases type with
  | method =>
    obtain ⟨m, rfl, hr, args, hargs | hargs, rfl⟩ := decodeBody_method_iff.1 hb
    · exact ⟨hr, .inl ((toWire_eq_ok_iff rfl).2
        ⟨_, Method.result_encode.2 ⟨args, hargs, rfl⟩, hl, rfl⟩)⟩
    · refine ⟨hr, .inr ⟨⟨m, args, rfl, hargs, rfl⟩, ?_⟩⟩
      rw [length_layout]
      exact Nat.add_lt_add_right hl _
  | header =>
    obtain ⟨header, rfl, hp⟩ := decodeBody_header_iff.1 hb
    exact ⟨rfl, .inl ((toWire_eq_ok_iff rfl).2 ⟨_, hp, hl, rfl⟩)⟩
  | content =>
    cases hb
    exact ⟨rfl, .inl ((toWire_eq_ok_iff rfl).2 ⟨_, Draft.result_raw.2 rfl, hl, rfl⟩)⟩
  | heartbeat =>
    obtain rfl := hempty rfl
    unfold decodeBody at hb
    dsimp only at hb
    split at hb
    · rename_i hc
      cases hb
      exact ⟨decide_eq_true hc, .inl ((toWire_eq_ok_iff rfl).2 ⟨[], rfl, hl, rfl⟩)⟩
    · cases hb

/-- A frame is decoded exactly from octets at the front of the buffer that spell it. -/
theorem decode_eq_ok_iff {src : Bytes} {max : UInt32} {f : Frame} {n : Nat} :
    decode src max = .ok (some ⟨f, n⟩) ↔
      ∃ octets rest, f.Spells octets ∧ src = octets ++ rest ∧ octets.length = n ∧
        exceeds n max = false := by
  rw [decode_eq_ok_some_iff]
  constructor
  · rintro ⟨type, payload, rest, hc, rfl, rfl, hm⟩
    exact ⟨_, rest, spells_of_carries hc, rfl, length_layout _ _ _, hm⟩
  · rintro ⟨octets, rest, hs, rfl, rfl, hm⟩
    obtain ⟨type, payload, hc, rfl⟩ := carries_of_spells hs
    exact ⟨type, payload, rest, hc, rfl, length_layout _ _ _, hm⟩

/-! ## There and back -/

/-- What is written for a frame is read as that frame, whatever follows it. -/
theorem decode_written {f : Frame} {w : Bytes} {max : UInt32} (hf : f.isReadable = true)
    (hw : f.toWire.result = .ok w) (hm : max = 0 ∨ w.length ≤ max.toNat) (t : Bytes) :
    decode (w ++ t) max = .ok (some ⟨f, w.length⟩) :=
  decode_eq_ok_iff.2 ⟨w, t, ⟨hf, .inl hw⟩, rfl, rfl, exceeds_eq_false_iff.2 hm⟩

theorem decode_written_close :
    decode [1, 0, 0, 0, 0, 0, 12, 0, 10, 0, 50, 1, 64, 1, 120, 0, 10, 0, 40, 0xce, 7] 4096 =
      .ok (some ⟨ofConnection (.close ⟨320, "x", 10, 40⟩), 20⟩) := by
  have hw : (ofConnection (.close ⟨320, "x", 10, 40⟩)).toWire.result =
      .ok [1, 0, 0, 0, 0, 0, 12, 0, 10, 0, 50, 1, 64, 1, 120, 0, 10, 0, 40, 0xce] :=
    Draft.result_eq_ok_iff.2 (by decide +kernel)
  exact decode_written rfl hw (.inr (by decide)) [7]

/-- Octets that are read but not written differ from those that are. -/
theorem written_of_frame_readsLoosely {f : Frame} {octets : Bytes} (h : f.ReadsLoosely octets)
    (hl : octets.length < UInt32.size + overhead) :
    ∃ w, f.toWire.result = .ok w ∧ w.length ≤ octets.length ∧ w ≠ octets := by
  obtain ⟨m, args, hbody, hm, rfl⟩ := h
  obtain ⟨written, hw, hle, hne⟩ := Method.written_of_readsLoosely hm
  have hple : (m.payload written).length ≤ (m.payload args).length := by
    simp only [Method.payload, List.length_append]
    omega
  rw [length_layout] at hl
  refine ⟨layout .method f.channel (m.payload written), ?_, ?_, fun heq => hne ?_⟩
  · have hlt : (m.payload written).length < UInt32.size := by omega
    exact (toWire_eq_ok_iff (hbody ▸ rfl)).2
      ⟨_, Method.result_encode.2 ⟨written, hw, rfl⟩, hlt, rfl⟩
  · rw [length_layout, length_layout]
    exact Nat.add_le_add_right hple _
  · exact List.append_cancel_left (List.append_cancel_left (layout_inj.1 heq))

theorem written_of_spells {f : Frame} {octets : Bytes} (h : f.Spells octets) :
    ∃ w, f.toWire.result = .ok w ∧ w.length ≤ octets.length ∧
      (w = octets ↔ ¬f.ReadsLoosely octets) := by
  obtain ⟨type, payload, ⟨hlt, -, -⟩, hlayout⟩ := carries_of_spells h
  have hl : octets.length < UInt32.size + overhead := by
    rw [hlayout, length_layout]
    exact Nat.add_lt_add_right hlt _
  obtain ⟨-, hw | ⟨hloose, -⟩⟩ := h
  · refine ⟨octets, hw, Nat.le_refl _, iff_of_true rfl fun hloose => ?_⟩
    obtain ⟨w, hw', -, hne⟩ := written_of_frame_readsLoosely hloose hl
    exact hne (Except.ok.inj (hw'.symm.trans hw))
  · obtain ⟨w, hw, hle, hne⟩ := written_of_frame_readsLoosely hloose hl
    exact ⟨w, hw, hle, iff_of_false hne (not_not_intro hloose)⟩

theorem exceeds_mono {small large : Nat} {max : UInt32} (h : small ≤ large)
    (hm : exceeds large max = false) : exceeds small max = false := by
  rw [exceeds_eq_false_iff] at hm ⊢
  exact hm.imp_right (Nat.le_trans h)

/-- What was read can be written, no longer than it was, and is read as the same frame again. It is
written as it was unless it was read loosely, so two forms of one frame differ only then. -/
theorem written_of_decode {src : Bytes} {max : UInt32} {r : Received}
    (h : decode src max = .ok (some r)) :
    (∃ w, r.frame.toWire.result = .ok w ∧ w.length ≤ r.size ∧
      decode w max = .ok (some ⟨r.frame, w.length⟩) ∧
        (w = src.take r.size ↔ ¬r.frame.ReadsLoosely (src.take r.size))) ∧
    ∀ src' max' r', decode src' max' = .ok (some r') → r'.frame = r.frame →
      src'.take r'.size ≠ src.take r.size →
        r.frame.ReadsLoosely (src.take r.size) ∨ r.frame.ReadsLoosely (src'.take r'.size) := by
  have hfront : ∀ {src max} {r : Received}, decode src max = .ok (some r) →
      r.frame.Spells (src.take r.size) ∧ (src.take r.size).length = r.size ∧
        exceeds r.size max = false := by
    intro src max r h
    obtain ⟨octets, rest, hs, rfl, hn, hm⟩ := decode_eq_ok_iff.1 h
    rw [← hn, List.take_left]
    exact ⟨hs, rfl, hn ▸ hm⟩
  obtain ⟨hs, hn, hm⟩ := hfront h
  obtain ⟨w, hw, hle, hiff⟩ := written_of_spells hs
  refine ⟨⟨w, hw, hn ▸ hle, ?_, hiff⟩, fun src' max' r' h' hf hne => ?_⟩
  · exact decode_eq_ok_iff.2 ⟨w, [], ⟨hs.1, .inl hw⟩, (List.append_nil w).symm, rfl,
      exceeds_mono (hn ▸ hle) hm⟩
  · obtain ⟨w', hw', -, hiff'⟩ := written_of_spells (hf ▸ (hfront h').1)
    obtain rfl : w = w' := Except.ok.inj (hw.symm.trans hw')
    refine Classical.byContradiction fun hnot => hne ?_
    rw [not_or] at hnot
    rw [← hiff.2 hnot.1, ← hiff'.2 hnot.2]

/-- A bit that was sent as the octet 3 is read, and is written as the octet 1. -/
theorem written_of_decode_flow :
    decode [1, 0, 1, 0, 0, 0, 5, 0, 20, 0, 20, 3, 0xce] 0 = .ok (some ⟨ofChannel 1 (.flow true), 13⟩) ∧
      ∃ w, (ofChannel 1 (.flow true)).toWire.result = .ok w ∧ w.length ≤ 13 ∧
        decode w 0 = .ok (some ⟨ofChannel 1 (.flow true), w.length⟩) ∧
          w ≠ [1, 0, 1, 0, 0, 0, 5, 0, 20, 0, 20, 3, 0xce] := by
  have hloose : (ofChannel 1 (.flow true)).ReadsLoosely
      [1, 0, 1, 0, 0, 0, 5, 0, 20, 0, 20, 3, 0xce] :=
    ⟨.channel (.flow true), [3], rfl, ⟨3, rfl, by decide, by decide, by decide⟩, rfl⟩
  have hsrc : decode [1, 0, 1, 0, 0, 0, 5, 0, 20, 0, 20, 3, 0xce] 0 =
      .ok (some ⟨ofChannel 1 (.flow true), 13⟩) :=
    decode_eq_ok_iff.2 ⟨_, [], ⟨rfl, .inr ⟨hloose, by decide⟩⟩, rfl, rfl, rfl⟩
  obtain ⟨⟨w, hw, hle, hd, hiff⟩, -⟩ := written_of_decode hsrc
  exact ⟨hsrc, w, hw, hle, hd, fun heq => hiff.1 heq hloose⟩

end AmqpSession.Wire.Frame
