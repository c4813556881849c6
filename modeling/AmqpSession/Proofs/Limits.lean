/-
Limits, and what is turned away for them. Of two limits the smaller is agreed on, where 0 stands for
none; a frame is refused for its size, and an id for want of room, exactly by the limits in force.
-/
import AmqpSession.Proofs.Allocation
import AmqpSession.Proofs.Destroyed
import AmqpSession.Proofs.Layout
import AmqpSession.Proofs.Violation
import Mathlib.Data.ENat.Lattice

namespace AmqpSession

open Wire

/-! ## The smaller of two -/

/-- What a number stands for as a limit. -/
def asLimit (n : Nat) : ENat := if n = 0 then ⊤ else n

theorem asLimit_zero : asLimit 0 = ⊤ := rfl

theorem asLimit_of_ne_zero {n : Nat} (h : n ≠ 0) : asLimit n = n := if_neg h

theorem asLimit_agree (ours theirs : Nat) :
    asLimit (agree ours theirs) = min (asLimit ours) (asLimit theirs) := by
  unfold agree
  split
  · rename_i ho
    rw [ho, asLimit_zero, top_inf_eq]
  · rename_i ho
    split
    · rename_i ht
      rw [ht, asLimit_zero, inf_top_eq]
    · rename_i ht
      have hne : min ours theirs ≠ 0 := by omega
      rw [asLimit_of_ne_zero ho, asLimit_of_ne_zero ht, asLimit_of_ne_zero hne]
      exact Nat.mono_cast.map_min

theorem agree_lt {ours theirs bound : Nat} (ho : ours < bound) (ht : theirs < bound) :
    agree ours theirs < bound := by
  unfold agree
  split
  · exact ht
  · split
    · exact ho
    · omega

/-- Limits of two octets. -/
theorem asLimit_agree_short (ours theirs : UInt16) :
    asLimit (UInt16.ofNat (agree ours.toNat theirs.toNat)).toNat =
      min (asLimit ours.toNat) (asLimit theirs.toNat) := by
  rw [UInt16.toNat_ofNat_of_lt' (agree_lt ours.toNat_lt theirs.toNat_lt), asLimit_agree]

theorem asLimit_raiseFrameMax (size : UInt32) :
    asLimit (Options.raiseFrameMax size).toNat = max (frameMinSize.toNat : ENat) (asLimit size.toNat) := by
  unfold Options.raiseFrameMax
  split
  · rename_i hz
    rw [hz]
    rfl
  · rename_i hz
    have hne : size.toNat ≠ 0 := fun h => hz (UInt32.toNat_inj.1 h)
    rw [asLimit_of_ne_zero hne]
    split
    · rename_i hlt
      have hle : size.toNat ≤ frameMinSize.toNat := Nat.le_of_lt (UInt32.lt_iff_toNat_lt.1 hlt)
      rw [max_eq_left (Nat.cast_le.2 hle), asLimit_of_ne_zero (by decide)]
    · rename_i hlt
      have hle : frameMinSize.toNat ≤ size.toNat := Nat.not_lt.1 fun h =>
        hlt (UInt32.lt_iff_toNat_lt.2 h)
      rw [max_eq_right (Nat.cast_le.2 hle), asLimit_of_ne_zero hne]

/-- Limits are the ones that follow from ours and the peer's: of both the smaller, where a frame of the
least size is never too large. User code chose the heartbeat, when it was offered the smaller interval. -/
structure Options.SettlesOn (o : Options) (theirs : Tune) (offered : UInt16) (limits : Tune) :
    Prop where
  channelMax : asLimit limits.channelMax.toNat =
    min (asLimit o.channelMax.toNat) (asLimit theirs.channelMax.toNat)
  frameMax : asLimit limits.frameMax.toNat =
    max 4096 (min (asLimit o.maxFrameSize.toNat) (asLimit theirs.frameMax.toNat))
  offered : asLimit offered.toNat = min (asLimit o.heartbeat.toNat) (asLimit theirs.heartbeat.toNat)

theorem Options.agree_settlesOn (o : Options) (theirs : Tune) (chosen : UInt16) :
    o.SettlesOn theirs (o.agree theirs).heartbeat { o.agree theirs with heartbeat := chosen } where
  channelMax := asLimit_agree_short _ _
  frameMax := by
    show asLimit (Options.raiseFrameMax _).toNat = _
    rw [asLimit_raiseFrameMax,
      UInt32.toNat_ofNat_of_lt' (agree_lt o.maxFrameSize.toNat_lt theirs.frameMax.toNat_lt), asLimit_agree]
    rfl
  offered := asLimit_agree_short _ _

/-! ## Frames over the limit -/

namespace Wire.Reader

/-- What is read is not judged by the size of its frame. -/
def Sizeless {α : Type} (m : Reader α) : Prop :=
  ∀ payload size max, m payload ≠ .error (.frameTooLarge size max)

namespace Sizeless

variable {α β : Type} {m : Reader α}

theorem pure (a : α) : Sizeless (Pure.pure a : Reader α) := by
  intro payload size max h
  cases h

theorem throw {fault : DecodeFault} (hf : ∀ size max, fault ≠ .frameTooLarge size max) :
    Sizeless (MonadExcept.throw fault : Reader α) := by
  intro payload size max h
  exact hf size max (Except.error.inj h)

theorem bind {k : α → Reader β} (h : Sizeless m) (hk : ∀ a, Sizeless (k a)) : Sizeless (m >>= k) := by
  intro payload size max hf
  change (m payload >>= fun p => k p.1 p.2) = _ at hf
  cases hm : m payload with
  | error e =>
    rw [hm] at hf
    cases hf
    exact h payload size max hm
  | ok p =>
    rw [hm] at hf
    exact hk p.1 p.2 size max hf

theorem map (g : α → β) (h : Sizeless m) : Sizeless (g <$> m) := by
  intro payload size max hf
  change (m payload >>= fun p => Except.ok (g p.1, p.2)) = _ at hf
  cases hm : m payload with
  | error e =>
    rw [hm] at hf
    cases hf
    exact h payload size max hm
  | ok p =>
    rw [hm] at hf
    cases hf

end Sizeless

open Sizeless

theorem octets_sizeless (count : Nat) : Sizeless (octets count) := by
  intro payload size max h
  unfold octets at h
  split at h <;> cases h

theorem rest_sizeless : Sizeless rest := by
  intro payload size max h
  cases h

theorem unsigned_sizeless (width : Nat) : Sizeless (unsigned width) := map _ (octets_sizeless width)

theorem octet_sizeless : Sizeless octet := map _ (unsigned_sizeless 1)

theorem short_sizeless : Sizeless short := map _ (unsigned_sizeless 2)

theorem long_sizeless : Sizeless long := map _ (unsigned_sizeless 4)

theorem longLong_sizeless : Sizeless longLong := map _ (unsigned_sizeless 8)

theorem bit_sizeless : Sizeless bit := map _ octet_sizeless

theorem shortString_sizeless : Sizeless shortString := by
  refine bind octet_sizeless fun _ => bind (octets_sizeless _) fun _ => ?_
  split
  · exact pure _
  · exact throw (by simp)

theorem longString_sizeless : Sizeless longString :=
  bind long_sizeless fun _ => octets_sizeless _

theorem table_sizeless : Sizeless table := map _ longString_sizeless

theorem close_sizeless : Sizeless close :=
  bind short_sizeless fun _ => bind shortString_sizeless fun _ => bind short_sizeless fun _ =>
    bind short_sizeless fun _ => pure _

theorem tune_sizeless : Sizeless tune :=
  bind short_sizeless fun _ => bind long_sizeless fun _ => bind short_sizeless fun _ => pure _

theorem connectionMethod_sizeless (methodId : UInt16) : Sizeless (connectionMethod methodId) := by
  unfold connectionMethod
  split
  · exact bind octet_sizeless fun _ => bind octet_sizeless fun _ => bind table_sizeless fun _ =>
      bind longString_sizeless fun _ => bind longString_sizeless fun _ => pure _
  · exact bind table_sizeless fun _ => bind shortString_sizeless fun _ =>
      bind longString_sizeless fun _ => bind shortString_sizeless fun _ => pure _
  · exact map _ longString_sizeless
  · exact map _ longString_sizeless
  · exact map _ tune_sizeless
  · exact map _ tune_sizeless
  · exact bind shortString_sizeless fun _ => bind shortString_sizeless fun _ =>
      bind bit_sizeless fun _ => pure _
  · exact bind shortString_sizeless fun _ => pure _
  · exact map _ close_sizeless
  · exact pure _
  · exact map _ shortString_sizeless
  · exact pure _
  · exact throw (by simp)

theorem channelMethod_sizeless (methodId : UInt16) : Sizeless (channelMethod methodId) := by
  unfold channelMethod
  split
  · exact bind shortString_sizeless fun _ => pure _
  · exact bind longString_sizeless fun _ => pure _
  · exact map _ bit_sizeless
  · exact map _ bit_sizeless
  · exact map _ close_sizeless
  · exact pure _
  · exact throw (by simp)

theorem atEnd_sizeless : Sizeless atEnd := by
  intro payload size max h
  unfold atEnd at h
  split at h <;> cases h

theorem method_sizeless : Sizeless method := by
  refine bind short_sizeless fun classId => bind short_sizeless fun methodId => ?_
  split
  · exact bind (connectionMethod_sizeless _) fun _ => bind atEnd_sizeless fun _ => pure _
  · split
    · exact bind (channelMethod_sizeless _) fun _ => bind atEnd_sizeless fun _ => pure _
    · exact bind rest_sizeless fun _ => pure _

theorem contentHeader_sizeless : Sizeless contentHeader :=
  bind short_sizeless fun _ => bind short_sizeless fun _ => bind longLong_sizeless fun _ =>
    bind rest_sizeless fun _ => pure _

end Wire.Reader

namespace Wire.Frame

theorem map_ne_error {α β : Type} {x : Except DecodeFault α} {fault : DecodeFault}
    (h : x ≠ .error fault) (g : α → β) : g <$> x ≠ .error fault := by
  cases x with
  | error e =>
    intro he
    exact h (congrArg _ (Except.error.inj he))
  | ok a =>
    intro he
    cases he

theorem decodeRest_sizeless (type : FrameType) (channel : UInt16) (size : Nat) (octets : Bytes)
    (n : Nat) (max : UInt32) : decodeRest type channel size octets ≠ .error (.frameTooLarge n max) := by
  have hbody : decodeBody type channel (octets.take size) ≠ .error (.frameTooLarge n max) := by
    unfold decodeBody
    cases type with
    | method => exact map_ne_error (map_ne_error (Reader.method_sizeless _ n max) _) _
    | header => exact map_ne_error (Reader.contentHeader_sizeless _ n max) _
    | content => simp
    | heartbeat =>
      dsimp only
      split <;> simp
  intro h
  unfold decodeRest at h
  split at h
  · cases h
  · split at h
    · cases hb : decodeBody type channel (octets.take size) with
      | error fault =>
        rw [hb] at h
        cases h
        exact hbody hb
      | ok body =>
        rw [hb] at h
        cases h
    · cases h

/-- The head of a frame tells whether it is too large. -/
theorem decode_eq_frameTooLarge_iff {type : FrameType} (channel : UInt16) {size : Nat} {max : UInt32}
    (ht : type = .heartbeat → size = 0) (hl : size < UInt32.size) (octets : Bytes) :
    (∃ n limit, decode (head type channel size ++ octets) max = .error (.frameTooLarge n limit)) ↔
      max ≠ 0 ∧ max.toNat < size + overhead := by
  rw [← exceeds_eq_true_iff, decode_head_eq channel ht hl]
  cases exceeds (size + overhead) max with
  | true => simp
  | false => simp [decodeRest_sizeless]

end Wire.Frame

/-! ## Frames that are handled -/

namespace Store

variable {s : Store}

theorem fault_reply_ne_frame (s : Store) (f : Frame) (tasks : List Task) (fault : DecodeFault) :
    (s.reply f tasks).fault ≠ some (.frame fault) :=
  match s.reply f tasks, s.replies f tasks with
  | _, .sent hn => fun he => nomatch (send_isAside hn).fault.symm.trans he
  | _, .unsent _ => by simp [Next.refuse]

theorem OnConnection.fault_ne_frame {body : Body} {n : Next} (h : s.OnConnection body n)
    (fault : DecodeFault) : n.fault ≠ some (.frame fault) := by
  cases h with
  | offered => exact fault_reply_ne_frame _ _ _ fault
  | fault _ v hv => exact fun he => hv fault (Option.some.inj he)
  | heartbeat | tuned | opened | openedToClose | closed | confirmed | blocked | unblocked => exact nofun

theorem OnChannel.fault_ne_frame {c : Nat} {body : Body} {n : Next} (h : s.OnChannel c body n)
    (fault : DecodeFault) : n.fault ≠ some (.frame fault) := by
  cases h with
  | closes => exact fault_reply_ne_frame _ _ _ fault
  | fault _ v hv => exact fun he => hv fault (Option.some.inj he)
  | opened | confirmed | flow | content | passedOver => exact nofun

/-- A frame that was decoded is well-formed. -/
theorem fault?_ne_frame (s : Store) (f : Frame) (fault : DecodeFault) :
    s.fault? f ≠ some (.frame fault) := by
  obtain ⟨e, n, hn, hfault, -⟩ := s.fault?_takesIn f
  rw [hfault]
  cases hn with
  | connection _ h => exact h.fault_ne_frame fault
  | channel _ _ _ h => exact h.fault_ne_frame fault
  | ignored | custom => exact nofun

/-- The frame at the front of the buffer is refused for its size. -/
def RefusesSize (s : Store) (buffer : Bytes) : Prop :=
  ∃ size max, s.violation? buffer = some (.frame (.frameTooLarge size max))

theorem refusesSize_iff {buffer : Bytes} : s.RefusesSize buffer ↔
    ∃ size max, Frame.decode buffer s.connection.maxFrameSize = .error (.frameTooLarge size max) := by
  unfold RefusesSize violation?
  split
  · simp [*]
  · simp [*]
  · simp [*, fault?_ne_frame]

/-! ## Limits in force -/

/-- No id is left: as many are in use as the limit allows, or all that there are. -/
def HasNoRoom (s : Store) (channelMax : UInt16) : Prop :=
  (channelMax ≠ 0 ∧ channelMax.toNat ≤ s.connection.registry.size) ∨
    ∀ id, id ≠ 0 → ∃ e, s.connection.registry.get? id = some e

/-- Limits are kept to: frames over them are refused, and so are ids. -/
structure KeepsTo (s : Store) (limits : Tune) : Prop where
  frames : ∀ (type : FrameType) (channel : UInt16) (size : Nat) (octets : Bytes),
    size < UInt32.size → (type = .heartbeat → size = 0) →
      (s.RefusesSize (Frame.head type channel size ++ octets) ↔
        limits.frameMax ≠ 0 ∧ limits.frameMax.toNat < size + Frame.overhead)
  endpoints : ∀ e, (s.register e).1 = .error .channelMaxReached ↔
    s.connection.isOpen ∧ s.HasNoRoom limits.channelMax
  channels : s.holdHandle.openChannel.1 = .error (.alloc .channelMaxReached) ↔
    s.connection.isOpen ∧ s.HasNoRoom limits.channelMax

theorem register_eq_channelMaxReached_iff (hz : s.connection.registry.get? 0 = none) (e : EndpointRef) :
    (s.register e).1 = .error .channelMaxReached ↔
      s.connection.isOpen ∧ s.connection.registry.AtLimit := by
  obtain ⟨r, hr, -⟩ := register_registers hz e
  generalize (s.register e).1 = result at hr
  cases hr with
  | granted ho hroom => simp [hroom]
  | ended ho => simp [ho]
  | refused ho hfull => simp [ho, hfull]

theorem openChannel_eq_channelMaxReached_iff (hz : s.connection.registry.get? 0 = none) :
    s.openChannel.1 = .error (.alloc .channelMaxReached) ↔
      s.connection.isOpen ∧ s.connection.registry.AtLimit := by
  obtain ⟨e, h, ⟨ho, rfl⟩ | ⟨ho, hr⟩⟩ | ⟨id, r, n, -, hr, -, h⟩ := s.openChannel_cases
  · simp [h, ho]
  · obtain ⟨rfl, hfull⟩ := Registry.register_eq_error hz hr
    simp [h, ho, hfull]
  · simp [h, Registry.not_atLimit_of_register hz hr]

end Store

/-- The limits of a connection, as user code is told them. -/
def Connection.limits (k : Connection) : Tune := ⟨k.registry.channelMax, k.maxFrameSize, k.heartbeat⟩

/-- The limits that user code is told are the ones that are kept to. -/
theorem Store.keepsTo_limits {s : Store} (hz : s.connection.registry.get? 0 = none) :
    s.KeepsTo s.connection.limits where
  frames type channel size octets hl ht := by
    rw [refusesSize_iff]
    exact Frame.decode_eq_frameTooLarge_iff channel ht hl octets
  endpoints := register_eq_channelMaxReached_iff hz
  channels := openChannel_eq_channelMaxReached_iff (s := s.holdHandle) hz

/-- Limits change only when others were agreed on. -/
theorem Connection.Moves.limits_eq {t : Option Task} {k k' : Connection} {es : List Event}
    (h : Connection.Moves t k es k') (ht : ∀ limits, t = some (.tuned limits) → k.alive = false) :
    k'.limits = k.limits := by
  induction h with
  | refl => rfl
  | tail hms hm ih =>
    rw [← ih]
    cases hm with
    | register e id r ho hr => simp only [Connection.limits, Registry.channelMax_of_register hr]
    | release id e => simp only [Connection.limits, (Registry.release_keeps _ id e).2]
    | tune limits ht' ha =>
      obtain halive | ⟨hd, -⟩ := Connection.Moves.alive hms
      · rw [halive, ht _ ht'] at ha
        cases ha
      · rw [ht'] at hd
        cases hd
    | _ => rfl

end AmqpSession
