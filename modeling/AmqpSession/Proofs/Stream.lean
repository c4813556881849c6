/-
Frames encoded one after the other into the buffer of a codec, and decoded from its front. While every
frame can be encoded, decoding gives back the frames in order and nothing is left
(`Codec.decodes_encodeAll`). A frame that cannot
be encoded leaves its head, with size 0, and some of its payload in the buffer, and the decoder goes no
further than that (`Codec.decodes_until_failure`). So a buffer is read to its end exactly if no call
failed (`Codec.decodes_encoded_iff`).
-/
import AmqpSession.Proofs.RoundTrip
import AmqpSession.Wire.Codec

namespace AmqpSession.Wire

/-! ## Frames that cannot be encoded -/

namespace Frame

/-- The frame has a form on the wire. -/
def isEncodable (f : Frame) : Bool := f.toWire.fault.isNone

/-- Content that is too large for a frame and starts with the frame end octet. What is left of it when
it is encoded looks like an empty frame. -/
def ShowsEnd (f : Frame) : Prop :=
  f.isEncodable = false ∧ ∃ data, f.body = .content (frameEnd :: data)

theorem result_of_isEncodable {f : Frame} (h : f.isEncodable = true) :
    f.toWire.result = .ok f.toWire.octets :=
  Draft.result_eq_ok_iff.2 ⟨Option.isNone_iff_eq_none.1 h, rfl⟩

/-- A frame that cannot be encoded has size 0 in its head. -/
theorem octets_of_not_isEncodable {f : Frame} {type : FrameType} {payload : Draft}
    (hform : form f.body = some (type, payload)) (h : f.isEncodable = false) :
    f.toWire.octets = head type f.channel 0 ++ payload.octets ∧
      (payload.fault = none → UInt32.size ≤ payload.octets.length) := by
  obtain ⟨he, ht⟩ := encode_of_form hform
  obtain ⟨written, fault⟩ := payload
  rw [isEncodable] at h
  rw [toWire, he, if_pos ht] at h ⊢
  cases fault with
  | some fault => exact ⟨rfl, fun hnone => absurd hnone (Option.some_ne_none fault)⟩
  | none =>
    unfold encodePayload at h ⊢
    dsimp only at h ⊢
    split at h
    · cases h
    · rename_i hl
      rw [if_neg hl]
      exact ⟨rfl, fun _ => Nat.le_of_not_lt hl⟩

/-- A frame that shows size 0 ends with the next octet. -/
theorem decode_head_zero (type : FrameType) (channel : UInt16) (b : UInt8) (rest : Bytes) :
    decode (head type channel 0 ++ b :: rest) 0 =
      if b = frameEnd then
        (decodeBody type channel []).map fun body => some ⟨⟨channel, body⟩, overhead⟩
      else .error (.frameEndMissing b) := by
  rw [decode_head channel (fun _ => rfl) (by decide) rfl]
  show (if b = frameEnd then decodeBody type channel [] >>= _ else _) = _
  split
  · cases decodeBody type channel [] <;> rfl
  · rfl

/-- What is left of a frame that cannot be encoded is no frame, whatever follows it. -/
theorem decode_leftover {f : Frame} (hr : f.isReadable = true) (hf : f.isEncodable = false)
    (hs : ¬f.ShowsEnd) : ∃ fault, ∀ rest, decode (f.toWire.octets ++ rest) 0 = .error fault := by
  have hstop : ∀ {type payload b octets}, form f.body = some (type, payload) →
      payload.octets = b :: octets → (b = frameEnd → ∃ fault, decodeBody type f.channel [] = .error fault) →
      ∃ fault, ∀ rest, decode (f.toWire.octets ++ rest) 0 = .error fault := by
    intro type payload b octets hform hp hb
    rw [(octets_of_not_isEncodable hform hf).1, hp]
    by_cases hend : b = frameEnd
    · obtain ⟨fault, hfault⟩ := hb hend
      refine ⟨fault, fun rest => ?_⟩
      rw [List.append_assoc, List.cons_append, decode_head_zero, if_pos hend, hfault]
      rfl
    · refine ⟨.frameEndMissing b, fun rest => ?_⟩
      rw [List.append_assoc, List.cons_append, decode_head_zero, if_neg hend]
  obtain ⟨channel, body⟩ := f
  cases body with
  | protocolHeader header => cases hr
  | method m =>
    have hclass : ∃ b octets, m.encode.octets = b :: octets := by
      rw [Method.encode_eq]
      exact ⟨_, _, rfl⟩
    obtain ⟨b, octets, hp⟩ := hclass
    exact hstop rfl hp fun _ => ⟨.truncated, rfl⟩
  | header header => exact hstop rfl rfl fun _ => ⟨.truncated, rfl⟩
  | content data =>
    have hl := (octets_of_not_isEncodable rfl hf).2 rfl
    cases data with
    | nil => exact absurd hl (by decide)
    | cons b data => exact hstop rfl rfl fun hb => absurd ⟨hf, data, hb ▸ rfl⟩ hs
  | heartbeat => cases hf

end Frame

/-! ## Runs of a codec -/

namespace Codec

/-- One frame after the other, whether or not a call fails. -/
def encodeAll (c : Codec) (fs : List Frame) : Codec := fs.foldl (fun c f => (c.encode f).2) c

/-- Calls to `decode`, one after the other, and the frames that they return. -/
inductive Decodes : Codec → List Frame → Codec → Prop where
  | done (c : Codec) : Decodes c [] c
  | frame {c next last : Codec} {f : Frame} {fs : List Frame}
      (h : c.decode = (.ok (some f), next)) (rest : Decodes next fs last) : Decodes c (f :: fs) last

variable {c last : Codec} {fs : List Frame}

theorem encode_eq_ok_iff {f : Frame} : (c.encode f).1 = .ok () ↔ f.isEncodable = true := by
  simp only [encode, Draft.result, Frame.isEncodable]
  cases f.toWire.fault <;> simp [Except.map]

theorem encodeAll_eq (c : Codec) (fs : List Frame) :
    c.encodeAll fs = c.feed (fs.flatMap (·.toWire.octets)) := by
  induction fs generalizing c with
  | nil => simp [encodeAll, feed]
  | cons f fs ih =>
    rw [encodeAll, List.foldl_cons]
    exact (ih _).trans (by simp [encode, feed])

/-- Frames that were encoded are decoded, whatever follows them. -/
theorem decodes_encoded (hr : ∀ f ∈ fs, f.isReadable = true) (he : ∀ f ∈ fs, f.isEncodable = true)
    (rest : Bytes) : Decodes ⟨0, fs.flatMap (·.toWire.octets) ++ rest⟩ fs ⟨0, rest⟩ := by
  induction fs with
  | nil => exact .done _
  | cons f fs ih =>
    rw [List.forall_mem_cons] at hr he
    refine .frame ?_ (ih hr.2 he.2)
    have hw := Frame.result_of_isEncodable he.1
    have hd : Frame.decode (f.toWire.octets ++ (fs.flatMap (·.toWire.octets) ++ rest)) 0 =
        .ok (some ⟨f, f.toWire.octets.length⟩) :=
      Frame.decode_eq_ok_iff.2 ⟨_, _, ⟨hr.1, .inl hw⟩, rfl, rfl, rfl⟩
    rw [decode, List.flatMap_cons, List.append_assoc, hd]
    simp

/-- Where no call fails, all frames are decoded and nothing is left. -/
theorem decodes_encodeAll (hr : ∀ f ∈ fs, f.isReadable = true) (he : ∀ f ∈ fs, f.isEncodable = true) :
    Decodes ((new 0).encodeAll fs) fs (new 0) := by
  rw [encodeAll_eq]
  simpa [feed, new] using decodes_encoded hr he []

/-- A codec that reports a violation stays where it is, so its buffer is not read to its end. -/
theorem buffer_ne_nil_of_stuck {stuck : Codec} {fault : DecodeFault} {gs : List Frame}
    (h : Decodes c fs stuck) (hs : stuck.decode = (.error fault, stuck)) (h' : Decodes c gs last) :
    last.buffer ≠ [] := by
  have hempty : ∀ c : Codec, c.buffer = [] → c.decode = (.ok none, c) := by
    rintro ⟨max, _⟩ rfl
    rfl
  induction h generalizing gs with
  | done =>
    cases h' with
    | done =>
      intro hnil
      rw [hempty _ hnil] at hs
      cases hs
    | frame h =>
      rw [hs] at h
      cases h
  | frame hf _ ih =>
    cases h' with
    | done =>
      intro hnil
      rw [hempty _ hnil] at hf
      cases hf
    | frame hf' rest =>
      rw [hf] at hf'
      cases hf'
      exact ih hs rest

/-- The frames before the first that cannot be encoded are decoded; then every call reports the same
violation. -/
theorem decodes_until_failure {before : List Frame} {f : Frame} (after : List Frame)
    (hr : ∀ g ∈ before, g.isReadable = true) (he : ∀ g ∈ before, g.isEncodable = true)
    (hfr : f.isReadable = true) (hf : f.isEncodable = false) (hs : ¬f.ShowsEnd) :
    ∃ stuck fault, Decodes ((new 0).encodeAll (before ++ f :: after)) before stuck ∧
      stuck.decode = (.error fault, stuck) := by
  obtain ⟨fault, hfault⟩ := Frame.decode_leftover hfr hf hs
  refine ⟨⟨0, f.toWire.octets ++ after.flatMap (·.toWire.octets)⟩, fault, ?_, ?_⟩
  · have := decodes_encoded hr he (f.toWire.octets ++ after.flatMap (·.toWire.octets))
    rw [encodeAll_eq]
    simpa [feed, new] using this
  · rw [decode, hfault]

theorem exists_first_failure (h : ¬∀ f ∈ fs, f.isEncodable = true) :
    ∃ before f after, fs = before ++ f :: after ∧ (∀ g ∈ before, g.isEncodable = true) ∧
      f.isEncodable = false := by
  induction fs with
  | nil => exact absurd nofun h
  | cons g gs ih =>
    cases hg : g.isEncodable with
    | false => exact ⟨[], g, gs, rfl, nofun, hg⟩
    | true =>
      have hgs : ¬∀ f ∈ gs, f.isEncodable = true := fun hgs => h (List.forall_mem_cons.2 ⟨hg, hgs⟩)
      obtain ⟨before, f, after, rfl, he, hf⟩ := ih hgs
      exact ⟨g :: before, f, after, rfl, List.forall_mem_cons.2 ⟨hg, he⟩, hf⟩

/-- Exactly the frames that could be encoded are decoded and nothing is left, if and only if no call
failed. -/
theorem decodes_encoded_iff (hr : ∀ f ∈ fs, f.isReadable = true) (hs : ∀ f ∈ fs, ¬f.ShowsEnd) :
    Decodes ((new 0).encodeAll fs) (fs.filter Frame.isEncodable) (new 0) ↔
      ∀ f ∈ fs, f.isEncodable = true := by
  constructor
  · intro h
    refine Classical.byContradiction fun hne => ?_
    obtain ⟨before, f, after, rfl, he, hf⟩ := exists_first_failure hne
    rw [List.forall_mem_append, List.forall_mem_cons] at hr hs
    obtain ⟨stuck, fault, hd, hstuck⟩ := decodes_until_failure after hr.1 he hr.2.1 hf hs.2.1
    exact buffer_ne_nil_of_stuck hd hstuck h rfl
  · intro he
    rw [List.filter_eq_self.2 he]
    exact decodes_encodeAll hr he

/-- Both frames can be encoded, and are decoded. -/
theorem decodes_encoded_iff_flow :
    Decodes ((new 0).encodeAll [.ofChannel 1 (.flow true), .heartbeat])
      [.ofChannel 1 (.flow true), .heartbeat] (new 0) := by
  have he : ∀ f ∈ [Frame.ofChannel 1 (.flow true), .heartbeat], f.isEncodable = true := by
    decide +kernel
  have hs : ∀ f ∈ [Frame.ofChannel 1 (.flow true), .heartbeat], ¬f.ShowsEnd :=
    fun f hf hs => Bool.false_ne_true (hs.1.symm.trans (he f hf))
  exact (decodes_encoded_iff (by decide) hs).2 he

/-- After a close whose text is too long, a heartbeat that was encoded is not decoded. -/
theorem heartbeat_lost_after_failure :
    let close := Frame.ofConnection (.close ⟨320, String.ofList (List.replicate 256 'x'), 0, 0⟩)
    close.isReadable = true ∧ Frame.heartbeat.isReadable = true ∧
      ((new 0).encode close).1 = .error (.shortStringTooLong 256) ∧
      (((new 0).encodeAll [close]).encode .heartbeat).1 = .ok () ∧
      ((new 0).encodeAll [close, .heartbeat]).decode =
        (.error (.frameEndMissing 0), (new 0).encodeAll [close, .heartbeat]) ∧
      ¬Decodes ((new 0).encodeAll [close, .heartbeat])
        ([close, .heartbeat].filter Frame.isEncodable) (new 0) := by
  intro close
  have hclose : close.toWire =
      ⟨[1, 0, 0, 0, 0, 0, 0, 0, 10, 0, 50, 1, 64], some (.shortStringTooLong 256)⟩ := by
    decide +kernel
  have hbuffer : (new 0).encodeAll [close, .heartbeat] =
      ⟨0, Frame.head .method 0 0 ++ 0 :: [10, 0, 50, 1, 64, 8, 0, 0, 0, 0, 0, 0, 0xce]⟩ := by
    decide +kernel
  have hstuck : ((new 0).encodeAll [close, .heartbeat]).decode =
      (.error (.frameEndMissing 0), (new 0).encodeAll [close, .heartbeat]) := by
    rw [hbuffer, decode, Frame.decode_head_zero]
    rfl
  refine ⟨rfl, rfl, ?_, encode_eq_ok_iff.2 rfl, hstuck, fun h => ?_⟩
  · rw [encode, hclose]
    rfl
  · exact buffer_ne_nil_of_stuck (.done _) hstuck h rfl

end Codec

end AmqpSession.Wire
