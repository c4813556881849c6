/-
Octets that break the protocol (`Store.violation?`): they are no frame, or one that is refused as soon
as it is received. Such a frame leaves nothing behind but its fault (`receive_of_fault?`), and which
frames these are is told by the state (`isSome_fault?_iff`).
-/
import AmqpSession.Proofs.Answers

namespace AmqpSession

open Wire

namespace Store

/-- What makes a received frame a violation. -/
def fault? (s : Store) (f : Frame) : Option Violation :=
  if f.channel = 0 then (s.receiveOnConnection f.body).fault
  else if f.body = .heartbeat ∨ s.connection.state = .closing then none
  else match s.addressee? f with
    | some e => ((s.hold e).deliver e f).fault
    | none => none

/-- The violation at the front of a buffer. -/
def violation? (s : Store) (buffer : Bytes) : Option Violation :=
  match Frame.decode buffer s.connection.maxFrameSize with
  | .error fault => some (.frame fault)
  | .ok none => none
  | .ok (some r) => s.fault? r.frame

end Store

/-! ## Frames that are refused -/

/-- If there is a fault, there is nothing else; the connection may have gone on to answer. -/
def Next.IsFaultOnly (s : Store) (n : Next) : Prop :=
  ∀ v, n.fault = some v → ∃ state, n = .refuse (s.setState state) v

namespace Next.IsFaultOnly

theorem of_none {s : Store} {n : Next} (h : n.fault = none) : n.IsFaultOnly s := by
  intro v hv
  rw [h] at hv
  cases hv

theorem refuse (s : Store) (v : Violation) : (Next.refuse s v).IsFaultOnly s := by
  rintro v' ⟨⟩
  exact ⟨s.connection.state, rfl⟩

theorem reply {s s' : Store} {state : ConnectionState} (hs : s' = s.setState state) (f : Frame)
    (tasks : List Task) : (s'.reply f tasks).IsFaultOnly s :=
  match s'.reply f tasks, s'.replies f tasks with
  | _, .sent hn => of_none (Store.send_isAside hn).fault
  | _, .unsent _ => by
    rintro v ⟨⟩
    exact ⟨state, by rw [hs]⟩

end Next.IsFaultOnly

namespace Store

open Next

variable {s : Store} {f : Frame} {v : Violation}

theorem OnConnection.isFaultOnly {body : Body} {n : Next} (h : s.OnConnection body n) :
    n.IsFaultOnly s := by
  cases h with
  | fault => exact .refuse s _
  | offered => exact .reply rfl _ _
  | heartbeat | tuned | opened | openedToClose | closed | confirmed | blocked | unblocked =>
    exact .of_none rfl

theorem OnChannel.isFaultOnly {c : Nat} {body : Body} {n : Next} (h : s.OnChannel c body n) :
    n.IsFaultOnly s := by
  cases h with
  | fault => exact .refuse s _
  | closes reason => exact .reply rfl _ _
  | opened | confirmed | flow | content | passedOver => exact .of_none rfl

theorem fault?_takesIn (s : Store) (f : Frame) : ∃ e n, s.TakesIn f e n ∧ s.fault? f = n.fault ∧
    ∀ p, s.receive f p = n.within f e p := by
  unfold fault?
  split
  · rename_i hf
    exact ⟨_, _, .connection hf (s.receiveOnConnection_onConnection f.body), rfl, s.receive_zero hf⟩
  · rename_i hf
    split
    · rename_i hi
      exact ⟨_, _, .ignored hf (.inl hi), rfl, receive_ignored hf (.inl hi)⟩
    · rename_i hn
      split
      · rename_i e he
        refine ⟨some e, _, ?_, rfl, receive_addressed hf hn he⟩
        cases e with
        | channel c => exact .channel hf hn he ((s.hold (.channel c)).receiveOnChannel_onChannel c f.body)
        | custom k => exact .custom hf hn he
      · rename_i he
        exact ⟨_, _, .ignored hf (.inr he), rfl, receive_ignored hf (.inr he)⟩

/-- Who holds on to a frame that was refused, and the state in which that is found. -/
inductive Refused (s : Store) : Option EndpointRef → Store → Prop where
  | connection (state : ConnectionState) : Refused s none (s.setState state)
  | channel (c : Nat) (hl : s.isLive (.channel c) = true) (state : ConnectionState) :
      Refused s (some (.channel c)) ((s.setState state).hold (.channel c))

theorem receive_of_fault? (h : s.fault? f = some v) : ∃ holder s', Refused s holder s' ∧
    ∀ p, s.receive f p = (Next.refuse s' v).within f holder p := by
  obtain ⟨e, n, hn, hfault, hr⟩ := s.fault?_takesIn f
  rw [hfault] at h
  cases hn with
  | connection _ hn =>
    obtain ⟨state, rfl⟩ := hn.isFaultOnly v h
    exact ⟨_, _, .connection state, hr⟩
  | ignored | custom => cases h
  | channel _ _ he hn =>
    obtain ⟨state, rfl⟩ := hn.isFaultOnly v h
    exact ⟨_, _, .channel _ (isLive_of_addressee? he) state, hr⟩

end Store

/-! ## While a handle is held -/

theorem Next.fault_ite {c : Prop} [Decidable c] {n n' m m' : Next} (hn : n'.fault = n.fault)
    (hm : m'.fault = m.fault) : (if c then n' else m').fault = (if c then n else m).fault := by
  split
  · exact hn
  · exact hm

namespace Store

theorem fault_reply_holdHandle (s : Store) (f : Frame) (tasks : List Task) :
    (s.holdHandle.reply f tasks).fault = (s.reply f tasks).fault := by
  have hladen : s.holdHandle.reply f tasks = (s.reply f tasks).laden 1 id := reply_laden s f 1 tasks
  rw [hladen]
  rfl

theorem fault_receiveConnectionMethod_holdHandle (s : Store) (m : ConnectionMethod) :
    (s.holdHandle.receiveConnectionMethod m).fault = (s.receiveConnectionMethod m).fault := by
  cases m with
  | start offer =>
    have hreply := fault_reply_holdHandle (s.setState .negotiatingTuning)
      (.ofConnection (.startOk s.startOk)) []
    exact Next.fault_ite (Next.fault_ite rfl (Next.fault_ite rfl hreply)) rfl
  | openOk => exact Next.fault_ite (Next.fault_ite rfl rfl) rfl
  | tune | closeOk => exact Next.fault_ite rfl rfl
  | _ => rfl

theorem fault_receiveOnChannel_holdHandle (s : Store) (c : Nat) (body : Body) :
    (s.holdHandle.receiveOnChannel c body).fault = (s.receiveOnChannel c body).fault := by
  cases body with
  | method m =>
    cases m with
    | channel m =>
      cases m with
      | close reason => exact fault_reply_holdHandle s _ _
      | openOk | closeOk | flow => exact Next.fault_ite rfl rfl
      | openRequest | flowOk => rfl
    | connection => rfl
    | other =>
      simp only [receiveOnChannel]
      rw [show s.holdHandle.channel c = s.channel c from rfl]
      cases (s.channel c).state <;> rfl
  | protocolHeader | header | content | heartbeat =>
    simp only [receiveOnChannel]
    rw [show s.holdHandle.channel c = s.channel c from rfl]
    cases (s.channel c).state <;> rfl

/-- The same frames are refused while a handle is held. -/
theorem fault?_holdHandle (s : Store) (f : Frame) : s.holdHandle.fault? f = s.fault? f := by
  have hzero : (s.holdHandle.receiveOnConnection f.body).fault = (s.receiveOnConnection f.body).fault := by
    unfold receiveOnConnection
    split
    · rfl
    · exact fault_receiveConnectionMethod_holdHandle s _
    all_goals rfl
  have hdeliver : ∀ e, ((s.holdHandle.hold e).deliver e f).fault = ((s.hold e).deliver e f).fault := by
    intro e
    cases e with
    | custom n => rfl
    | channel c => exact fault_receiveOnChannel_holdHandle (s.hold (.channel c)) c f.body
  unfold fault?
  rw [hzero]
  simp only [hdeliver]
  rfl

variable {s : Store} {f : Frame} {v : Violation}

/-! ## Which frames are refused -/

theorem isSome_fault_of_not_admits {m : ConnectionMethod}
    (h : s.connection.state.admits m = false) : (s.receiveConnectionMethod m).fault.isSome = true := by
  cases m with
  | start | tune | openOk | closeOk =>
    have hne := of_decide_eq_false h
    simp [receiveConnectionMethod, hne, unexpected, Next.refuse]
  | close | blocked | unblocked => cases h
  | secure | startOk | secureOk | tuneOk | openRequest => rfl

theorem isSome_fault_receiveOnChannel {c : Nat} {body : Body}
    (h : (s.channel c).state.admits body = false) : (s.receiveOnChannel c body).fault.isSome = true := by
  unfold receiveOnChannel
  cases body with
  | method m =>
    cases m with
    | connection m => rfl
    | channel m =>
      cases m with
      | close | openRequest | flowOk => first | rfl | cases h
      | openOk | closeOk =>
        have hne := of_decide_eq_false h
        simp [receiveChannelMethod, hne, channelFault, Next.refuse]
      | flow =>
        have hne : ¬ ((s.channel c).state = .open ∨ (s.channel c).state = .closing) := by
          simpa [ChannelState.admits] using h
        simp [receiveChannelMethod, hne, channelFault, Next.refuse]
    | other => cases hc : (s.channel c).state <;> first | rfl | (rw [hc] at h; cases h)
  | protocolHeader | header | content | heartbeat =>
    cases hc : (s.channel c).state <;> first | rfl | (rw [hc] at h; cases h)

theorem isSome_fault?_of_not_admits (h : s.admits f = false) : (s.fault? f).isSome = true := by
  unfold admits at h
  unfold fault?
  split at h
  · rename_i hf
    rw [if_pos hf]
    split at h
    · cases h
    · rename_i m hb
      rw [hb]
      exact isSome_fault_of_not_admits h
    · rename_i hheartbeat hconnection
      cases hb : f.body with
      | heartbeat => exact absurd hb hheartbeat
      | method m =>
        cases m with
        | connection m => exact absurd hb (hconnection m)
        | channel | other => rfl
      | protocolHeader | header | content => rfl
  · rename_i hf
    rw [Bool.or_eq_false_iff, Bool.or_eq_false_iff] at h
    obtain ⟨⟨hheartbeat, hclosing⟩, h⟩ := h
    rw [if_neg hf, if_neg (not_or.2 ⟨of_decide_eq_false hheartbeat, of_decide_eq_false hclosing⟩)]
    split at h
    · rename_i c he
      rw [he]
      rw [← s.state_channel_hold c (.channel c)] at h
      exact isSome_fault_receiveOnChannel h
    · cases h

/-- An offer that this side cannot take up. -/
theorem isSome_fault?_of_start {offer : Start} (h : offer.isAcceptable = false ∨
    ∃ fault, (Frame.ofConnection (.startOk s.startOk)).toWire.result = .error fault) :
    (s.fault? (.ofConnection (.start offer))).isSome = true := by
  by_cases ha : s.admits (.ofConnection (.start offer)) = true
  · have hs : s.connection.state = .negotiatingProtocol := of_decide_eq_true ha
    have hstart : s.fault? (.ofConnection (.start offer)) = (s.receiveStart offer).fault := by
      show (s.receiveConnectionMethod (.start offer)).fault = _
      rw [receiveConnectionMethod, if_pos hs]
    rw [hstart, receiveStart]
    split
    · rfl
    · rename_i hv
      split
      · rfl
      · rename_i hm
        rw [not_or, not_not, not_not] at hv
        have hacc : offer.isAcceptable = true := by
          simpa [Start.isAcceptable, hv.1, hv.2] using hm
        obtain ⟨fault, hw⟩ := h.resolve_left (by simp [hacc])
        dsimp only
        rw [reply, send_startOk_of_error hw]
        rfl
  · exact isSome_fault?_of_not_admits (Bool.not_eq_true _ ▸ ha)

/-- Frames are refused that have no place in the state of the connection or of their channel, and so is
an offer that this side cannot take up. -/
theorem isSome_fault?_iff (hs : s.connection.state ≠ .closed) : (s.fault? f).isSome = true ↔
    s.admits f = false ∨ ∃ offer, f = .ofConnection (.start offer) ∧ (offer.isAcceptable = false ∨
      ∃ fault, (Frame.ofConnection (.startOk s.startOk)).toWire.result = .error fault) := by
  constructor
  · intro h
    obtain ⟨v, hv⟩ := Option.isSome_iff_exists.1 h
    have hwhy : ∀ {e tasks}, Handling s f e tasks (some v) → s.admits f = false ∨
        ∃ offer, f = .ofConnection (.start offer) ∧ (offer.isAcceptable = false ∨
          ∃ fault, (Frame.ofConnection (.startOk s.startOk)).toWire.result = .error fault) := by
      intro e tasks hh
      cases hh with
      | outOfPlace _ _ h => exact .inl h
      | unacceptable offer _ hf h => exact .inr ⟨offer, hf, .inl h⟩
      | unsendable offer hf _ fault h => exact .inr ⟨offer, hf, .inr ⟨fault, h⟩⟩
    unfold fault? at hv
    split at hv
    · rename_i hf
      exact hwhy (hv ▸ receiveOnConnection_handling s hf)
    · rename_i hf
      split at hv
      · cases hv
      · rename_i hn
        split at hv
        · rename_i e he
          cases e with
          | custom n => cases hv
          | channel c =>
            exact hwhy (hv ▸ receiveOnChannel_handling ⟨(not_or.1 hn).2, hs⟩
              (admits_of_addressee hf hn he))
        · cases hv
  · rintro (h | ⟨offer, rfl, h⟩)
    · exact isSome_fault?_of_not_admits h
    · exact isSome_fault?_of_start h

end Store

end AmqpSession
