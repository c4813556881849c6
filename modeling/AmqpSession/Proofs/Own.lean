/-
What this side sends of itself: methods of the connection on channel 0, methods of a channel on the
channel's id, and the greeting (`Frame.IsOwn`). Everything else that the connection accepts was given to
it by user code, which calls `send` or `sendOn` for it (`Task.run_sendsOwn`, `Call.run_sendsOwn`).
-/
import AmqpSession.Proofs.Apart

namespace AmqpSession

open Wire

/-- A frame that the connection makes by itself. -/
inductive Wire.Frame.IsOwn : Frame → Prop where
  | greeting : IsOwn .greeting
  | ofConnection (m : ConnectionMethod) : IsOwn (.ofConnection m)
  | ofChannel (id : UInt16) (m : ChannelMethod) : IsOwn (.ofChannel id m)

/-- On a channel none of them is part of the handshake. -/
theorem Wire.Frame.IsOwn.ordinary {f : Frame} (h : f.IsOwn) (hc : f.channel ≠ 0) :
    f.isPartOfHandshake = false := by
  cases h with
  | greeting | ofConnection => exact absurd rfl hc
  | ofChannel => rfl

/-- No frame of user code is accepted. -/
def Next.SendsOwn (n : Next) : Prop := ∀ f, .accepted f ∈ n.log → f.IsOwn

namespace Next.SendsOwn

variable {n : Next}

theorem of_log_nil (h : n.log = []) : SendsOwn n := by simp [SendsOwn, h]

theorem only (s : Store) : SendsOwn (.only s) := of_log_nil rfl

theorem follow (s : Store) (tasks : List Task) : SendsOwn (.follow s tasks) := of_log_nil rfl

theorem refuse (s : Store) (v : Violation) : SendsOwn (.refuse s v) := of_log_nil rfl

theorem start (s : Store) (cb : Callback) (tasks : List Task) : SendsOwn (.start s cb tasks) := by
  simp [SendsOwn, Next.start]

theorem andThen (h : SendsOwn n) (tasks : List Task) : SendsOwn (n.andThen tasks) := h

theorem ite {c : Prop} [Decidable c] (h : SendsOwn n) (s : Store) : SendsOwn (if c then n else .only s) := by
  split
  · exact h
  · exact only s

/-- What is noted first is no frame that is accepted. -/
theorem noting (h : SendsOwn n) {es : List Event} (hes : ∀ f, .accepted f ∉ es) :
    SendsOwn (n.noting es) :=
  fun f hf => h f ((List.mem_append.1 hf).resolve_left (hes f))

theorem within (h : SendsOwn n) (f : Frame) (e : Option EndpointRef) (p : Parsing) :
    SendsOwn (n.within f e p) := fun g hg => h g ((List.mem_cons.1 hg).resolve_left nofun)

end Next.SendsOwn

namespace Store

open Next (SendsOwn)

variable {s : Store} {f : Frame} {n : Next}

/-! ## Operations -/

theorem accepted_of_send (h : s.send f = .ok n) {g : Frame} (hg : .accepted g ∈ n.log) : g = f := by
  obtain ⟨octets, -, -, ⟨-, rfl⟩ | ⟨-, rfl⟩⟩ := send_cases h <;> simpa using hg

theorem send_sendsOwn (hf : f.IsOwn) (h : s.send f = .ok n) : SendsOwn n :=
  fun _ hg => accepted_of_send h hg ▸ hf

theorem offer_sendsOwn (s : Store) (hf : f.IsOwn) : SendsOwn (s.offer f) :=
  match s.offer f, s.offers f with
  | _, .sent h => send_sendsOwn hf h
  | _, .unsent _ => .only s

theorem reply_sendsOwn (s : Store) (hf : f.IsOwn) (tasks : List Task) : SendsOwn (s.reply f tasks) :=
  match s.reply f tasks, s.replies f tasks with
  | _, .sent h => (send_sendsOwn hf h).andThen tasks
  | _, .unsent _ => .refuse s _

theorem closeChannel_sendsOwn (s : Store) (c : Nat) : SendsOwn (s.closeChannel c).2 :=
  match (s.closeChannel c).2, s.closesChannel c with
  | _, .aside _ => .only s
  | _, .unsent _ _ => .only _
  | _, .sent _ _ h => (send_sendsOwn (.ofChannel _ _) h).andThen _

theorem DropsChannel.sendsOwn {c : Nat} (h : s.DropsChannel c n) : SendsOwn n := by
  cases h with
  | aside => exact .only s
  | unsent => exact .follow _ _
  | sent _ _ h => exact (send_sendsOwn (.ofChannel _ _) h).andThen _

theorem whenLost_sendsOwn (s : Store) (e : EndpointRef) : SendsOwn (s.whenLost e) :=
  match e, s.whenLost e, s.loses e with
  | _, _, .aside _ => .only s
  | _, _, .last _ h => h.sendsOwn

theorem openChannel_sendsOwn (s : Store) : SendsOwn s.openChannel.2 := by
  obtain ⟨e, h, -⟩ | ⟨id, r, n, -, -, hn, h⟩ := s.openChannel_cases
  · rw [h]
    exact .only _
  · rw [h]
    exact (send_sendsOwn (.ofChannel _ _) hn).andThen _

theorem close_sendsOwn (h : s.close = .ok n) : SendsOwn n := by
  cases closesConnection h with
  | begun => exact .follow _ _
  | noted => exact .only _

theorem Destroys.sendsOwn (h : s.Destroys n) : SendsOwn n := by
  cases h with
  | aside => exact .only s
  | closing _ h => exact (close_sendsOwn h).andThen _
  | closed => exact .follow s _

theorem releaseHandle_sendsOwn (s : Store) : SendsOwn s.releaseHandle :=
  match s.releaseHandle, s.releasesHandle with
  | _, .last _ => s.destroys.sendsOwn.andThen _
  | _, .other _ => .only _

theorem transportClosed_sendsOwn (s : Store) : SendsOwn s.transportClosed :=
  match s.transportClosed, s.losesTransport with
  | _, .aside _ => .only s
  | _, .shut _ => .follow _ _

theorem report_sendsOwn (s : Store) (v : Violation) (processed : Nat) :
    SendsOwn (s.report v processed) :=
  match s.report v processed, s.reportsFault v processed with
  | _, .late _ => .follow _ _
  | _, .shut _ => .follow _ _

/-! ## Received frames -/

theorem OnConnection.sendsOwn {body : Body} (h : s.OnConnection body n) : SendsOwn n := by
  cases h with
  | heartbeat => exact .only s
  | fault => exact .refuse s _
  | offered => exact reply_sendsOwn _ (.ofConnection _) _
  | tuned | closed | blocked | unblocked => exact .start s _ _
  | opened | confirmed => exact .follow _ _
  | openedToClose => exact SendsOwn.andThen (.follow _ _) _

theorem OnChannel.sendsOwn {c : Nat} {body : Body} (h : s.OnChannel c body n) : SendsOwn n := by
  cases h with
  | closes reason => exact reply_sendsOwn s (.ofChannel _ _) _
  | opened | confirmed | flow | content => exact .start _ _ _
  | passedOver => exact .only s
  | fault => exact .refuse s _

theorem receive_sendsOwn (s : Store) (f : Frame) (p : Parsing) : SendsOwn (s.receive f p) := by
  obtain ⟨e, n, hn, hr⟩ := s.receive_takesIn f p
  rw [hr]
  refine SendsOwn.within ?_ f e p
  cases hn with
  | connection _ h => exact h.sendsOwn
  | ignored => exact .only s
  | channel _ _ _ h => exact h.sendsOwn
  | custom => exact .start _ _ _

theorem parse_sendsOwn (s : Store) (buffer : Bytes) (processed : Nat) :
    SendsOwn (s.parse buffer processed) :=
  match s.parse buffer processed, s.parsesNext buffer processed with
  | _, .ended => .follow s _
  | _, .violated _ _ _ => report_sendsOwn s _ _
  | _, .received _ _ _ => receive_sendsOwn s _ _

/-! ## The end of endpoints -/

theorem rejectEndpoint_sendsOwn (s : Store) (e : EndpointRef) : SendsOwn (s.rejectEndpoint e) := by
  cases e <;> exact .start _ _ _

theorem evictNext_sendsOwn (s : Store) (surplus : List (UInt16 × EndpointRef)) (limits : Tune) :
    SendsOwn (s.evictNext surplus limits) := by
  have discarded (id : UInt16) (f : Frame) : .accepted f ∉ (s.discard id).2 := by simp [discard]
  match surplus, s.evictNext surplus limits, s.evictsNext surplus limits with
  | _, _, .done => exact reply_sendsOwn s (.ofConnection _) _
  | _, _, .rejected id rest _ =>
    exact ((rejectEndpoint_sendsOwn _ _).andThen _).noting (discarded id)
  | _, _, .gone id rest _ => exact SendsOwn.noting (.follow _ _) (discarded id)

theorem closeEndpoint_sendsOwn (s : Store) (e : EndpointRef) : SendsOwn (s.closeEndpoint e) := by
  cases e with
  | channel c => exact closeChannel_sendsOwn s c
  | custom n => exact .start s _ _

theorem invalidateEndpoint_sendsOwn (s : Store) (e : EndpointRef) : SendsOwn (s.invalidateEndpoint e) := by
  cases e with
  | channel c => exact .only _
  | custom n => exact .start s _ _

end Store

/-! ## Tasks and calls -/

open Store Next

/-- No work that goes on by itself sends anything else. -/
theorem Task.run_sendsOwn {t : Task} {s : Store} {n : Next} (h : t.run s = some n) : SendsOwn n := by
  cases t with
  | user cb => cases h
  | notify cb => cases h; exact .start s _ _
  | notifyAlive cb => cases h; exact .ite (.start s _ _) s
  | answer outcome => cases h; simp [SendsOwn]
  | releaseHandle => cases h; exact releaseHandle_sendsOwn s
  | release e => cases h; exact whenLost_sendsOwn _ e
  | parse buffer processed => cases h; exact parse_sendsOwn s buffer processed
  | handled e p fault =>
    cases e with
    | some e => cases h; exact .follow s _
    | none =>
      cases fault with
      | none => cases h; exact .follow s _
      | some v => cases h; exact report_sendsOwn s v _
  | tuned limits => cases h; exact .ite (.follow _ _) s
  | evict surplus limits => cases h; exact .ite (evictNext_sendsOwn s surplus limits) s
  | requestHost => cases h; exact .ite (reply_sendsOwn s (.ofConnection _) _) s
  | announce => cases h; exact .ite (.start s _ _) s
  | flush =>
    cases h
    split
    · exact .ite (by simp [SendsOwn]) s
    · exact .only s
  | closeEach es =>
    cases es with
    | nil => cases h; exact .only s
    | cons e es =>
      cases h
      split
      · exact (closeEndpoint_sendsOwn s e).andThen _
      · exact .follow s _
  | sendClose => cases h; exact .ite ((offer_sendsOwn s (.ofConnection _)).andThen _) s
  | awaitCloseOk => cases h; exact .ite (.only _) s
  | clearRegistry => cases h; exact .follow _ _
  | invalidateEach es =>
    cases es with
    | nil => cases h; exact .only s
    | cons e es => cases h; exact (invalidateEndpoint_sendsOwn s e).andThen _
  | closedByPeer reason => cases h; exact .ite (.follow _ _) s
  | channelClosedByPeer c text => cases h; exact .start _ _ _
  | flowReply c active => cases h; exact .ite (reply_sendsOwn s (.ofChannel _ _) _) s
  | loseHandle | unregister | destroyed | handOver | handOverConnection => cases h; exact .only _

namespace Session

/-- The frame that user code sends with the call. -/
def Call.frame? (s : Store) : Call → Option Frame
  | .send f => some f
  | .sendOn c body => some ⟨(s.channel c).id, body⟩
  | _ => none

/-- Calls that send no frame of user code's. -/
theorem Call.run_sendsOwn {c : Call} {s : Store} (hc : c.frame? s = none) : SendsOwn (c.run s) := by
  cases c with
  | send | sendOn => cases hc
  | close =>
    show SendsOwn (tryOnConnection s .closed Store.close)
    match tryOnConnection s .closed Store.close, tries s .closed Store.close with
    | _, .accepted h => exact (close_sendsOwn h).andThen _
    | _, .refused _ => exact .follow s _
  | destroy => exact (destroys _).sendsOwn.andThen _
  | transportClosed => exact (transportClosed_sendsOwn _).andThen _
  | openChannel => exact (openChannel_sendsOwn _).andThen _
  | closeChannel c => exact (closeChannel_sendsOwn _ c).andThen _
  | dropChannel c => exact (whenLost_sendsOwn _ _).andThen _
  | parse | register | unregister | cloneHandle | dropHandle | cloneChannel | newEndpoint
    | setEndpointId | dropEndpoint => exact .follow _ _

end Session

end AmqpSession
