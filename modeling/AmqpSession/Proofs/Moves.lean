/-
What a step can do to the connection. `Connection.Move` lists the single changes with what each
notes in the log; every task and every call is a sequence of them (`Task.run_moves`,
`Call.run_moves`), but for the end of negotiation, which is told apart (`Store.Connects`).
-/
import AmqpSession.Proofs.Run
import AmqpSession.Proofs.Branches

namespace AmqpSession

open Wire

/-! ## Single changes -/

/-- What a task notes that does not touch the frames on their way out. User code learns only from one
task that the connection is established, and from notices of an error and that it is closed. -/
def Event.isNoteOf (t : Option Task) : Event → Bool
  | .started (.data _) => false
  | .started .connected => (t matches some .announce)
  | .started .closed => (t matches some (.notify .closed) | some (.notifyAlive .closed))
  | .started (.error _) => (t matches some (.notify (.error _)) | some (.notifyAlive (.error _)))
  | .started _ | .answered _ | .received _ => true
  | .accepted _ | .handed _ | .discarded _ => false

/-- User code is running. -/
def Task.isUser : Task → Bool
  | .user _ => true
  | _ => false

/-- One change of a connection, with what is noted about it. Some changes belong to one task; a
call runs no task. -/
inductive Connection.Move (t : Option Task) : Connection → List Event → Connection → Prop where
  /-- Only user code lets go of a handle of its own. -/
  | handles (k : Connection) (owned held : Nat) (ho : k.owned ≤ owned ∨ t.all Task.isUser = true) :
      Move t k [] { k with owned := owned, held := held }
  | note (k : Connection) (e : Event) (h : e.isNoteOf t = true) : Move t k [e] k
  | pass (k : Connection) (f : Frame) (octets : Bytes) (hw : f.toWire.result = .ok octets)
      (ho : k.isOpen) (hd : k.sendsAtOnce f) :
      Move t k [.accepted f, .handed f, .started (.data octets)] k
  | enqueue (k : Connection) (f : Frame) (octets : Bytes) (hw : f.toWire.result = .ok octets)
      (ho : k.isOpen) (hd : ¬ k.sendsAtOnce f) :
      Move t k [.accepted f] { k with queue := k.queue ++ [f] }
  /-- The answer to the peer's close is no frame of this side's own. -/
  | confirm (k : Connection) :
      Move t k [.started (.data (Frame.ofConnection .closeOk).toWire.octets)] k
  | dequeue (k : Connection) (f : Frame) (rest : List Frame) (ht : t = some .flush)
      (hq : k.queue = f :: rest) (ha : k.alive = true) :
      Move t k [.handed f, .started (.data f.toWire.octets)] { k with queue := rest }
  | discard (k : Connection) (id : UInt16) (e : EndpointRef) (rest : List (UInt16 × EndpointRef))
      (limits : Tune) (ht : t = some (.evict ((id, e) :: rest) limits)) (ha : k.alive = true) :
      Move t k ((k.queue.filter (·.channel == id)).map .discarded)
        { k with queue := k.queue.filter (·.channel != id) }
  | requestClose (k : Connection) (hs : k.state ≠ .closed) (hc : k.closeRequested = false) :
      Move t k [] { k with closeRequested := true }
  | register (k : Connection) (e : EndpointRef) (id : UInt16) (r : Registry) (ho : k.isOpen)
      (hr : k.registry.register e = .ok (id, r)) : Move t k [] { k with registry := r }
  | release (k : Connection) (id : UInt16) (e : EndpointRef) :
      Move t k [] { k with registry := k.registry.release id e }
  | clear (k : Connection) (ht : t = some .clearRegistry) :
      Move t k [] { k with registry := k.registry.clear }
  | tune (k : Connection) (limits : Tune) (ht : t = some (.tuned limits)) (ha : k.alive = true) :
      Move t k [] { k with
        maxFrameSize := limits.frameMax
        heartbeat := limits.heartbeat
        registry := Registry.evict { k.registry with channelMax := limits.channelMax } }
  | answerOffer (k : Connection) (hs : k.state = .negotiatingProtocol) :
      Move t k [] { k with state := .negotiatingTuning }
  | awaitCloseOk (k : Connection) (ht : t = some .awaitCloseOk) (ha : k.alive = true) :
      Move t k [] { k with state := .closing }
  | shut (k : Connection) : Move t k [] { k with state := .closed, registry := k.registry.clear }
  | destroyed (k : Connection) (ht : t = some .destroyed) :
      Move t k [] { k with state := .closed, alive := false }

/-- Changes one after the other. -/
inductive Connection.Moves (t : Option Task) : Connection → List Event → Connection → Prop where
  | refl (k : Connection) : Moves t k [] k
  | tail {k k' k'' : Connection} {es es' : List Event} :
      Moves t k es k' → Connection.Move t k' es' k'' → Moves t k (es ++ es') k''

namespace Connection.Moves

variable {t : Option Task} {k k' k'' : Connection} {es es' : List Event}

theorem of (h : Move t k es k') : Moves t k es k' := by
  have := tail (refl k) h
  simpa using this

theorem trans (h : Moves t k es k') (h' : Moves t k' es' k'') : Moves t k (es ++ es') k'' := by
  induction h' with
  | refl => simpa using h
  | tail _ hm ih =>
    rw [← List.append_assoc]
    exact ih.tail hm

theorem note (k : Connection) (e : Event) (h : e.isNoteOf t = true) : Moves t k [e] k := of (.note k e h)

/-- A change without a note, before others. -/
theorem after (h : Move t k [] k') (h' : Moves t k' es k'') : Moves t k es k'' := by
  simpa using (of h).trans h'

/-- A noted event, before others. -/
theorem noted (e : Event) (he : e.isNoteOf t = true) (h : Moves t k es k') : Moves t k (e :: es) k' :=
  (note k e he).trans h

/-- Callbacks other than for octets start by notes. -/
theorem isNoteOf (h : Moves t k es k') {cb : Callback} (hcb : ∀ octets, cb ≠ .data octets)
    (he : .started cb ∈ es) : (Event.started cb).isNoteOf t = true := by
  induction h with
  | refl => cases he
  | tail _ hm ih =>
    rcases List.mem_append.1 he with he | he
    · exact ih he
    · cases hm with
      | note e h => rw [List.mem_singleton.1 he]; exact h
      | pass | confirm | dequeue => simp at he; exact absurd he (hcb _)
      | enqueue | discard => simp at he
      | _ => cases he

end Connection.Moves

/-! ## Sending -/

open Connection (Moves Move)

variable {t : Option Task}

namespace Store

/-- What is done on a condition, and otherwise nothing. -/
theorem moves_ite {s : Store} {c : Prop} [Decidable c] {n : Next}
    (h : c → Moves t s.connection n.log n.store.connection) :
    Moves t s.connection (if c then n else .only s).log
      (if c then n else .only s).store.connection := by
  split
  · rename_i hc; exact h hc
  · exact .refl _

/-- What is left for later changes nothing now. -/
theorem moves_andThen {k : Connection} {n : Next} (h : Moves t k n.log n.store.connection)
    (tasks : List Task) :
    Moves t k (n.andThen tasks).log (n.andThen tasks).store.connection := h

theorem send_moves {s : Store} {f : Frame} {n : Next} (h : s.send f = .ok n) :
    Moves t s.connection n.log n.store.connection := by
  obtain ⟨octets, hw, ho, ⟨hd, rfl⟩ | ⟨hd, rfl⟩⟩ := send_cases h
  · exact .of (.pass _ f octets hw ho hd)
  · exact .of (.enqueue _ f octets hw ho hd)

theorem offer_moves (s : Store) (f : Frame) :
    Moves t s.connection (s.offer f).log (s.offer f).store.connection :=
  match s.offer f, s.offers f with
  | _, .sent h => send_moves h
  | _, .unsent _ => .refl _

theorem reply_moves (s : Store) (f : Frame) (tasks : List Task) :
    Moves t s.connection (s.reply f tasks).log (s.reply f tasks).store.connection :=
  match s.reply f tasks, s.replies f tasks with
  | _, .sent h => moves_andThen (send_moves h) tasks
  | _, .unsent _ => .refl _

/-! ## Channels -/

theorem holdHandle_moves (s : Store) : Moves t s.connection [] s.holdHandle.connection :=
  .of (.handles _ _ _ (.inl (Nat.le_refl _)))

theorem loseHandle_moves (s : Store) : Moves t s.connection [] s.loseHandle.connection :=
  .of (.handles _ _ _ (.inl (Nat.le_refl _)))

/-- A frame sent with a handle held. -/
theorem send_holdHandle_moves {s : Store} {f : Frame} {n : Next} (h : s.holdHandle.send f = .ok n) :
    Moves t s.connection n.log n.store.connection :=
  (holdHandle_moves s).trans (send_moves h)

theorem closeChannel_moves (s : Store) (c : Nat) :
    Moves t s.connection (s.closeChannel c).2.log (s.closeChannel c).2.store.connection :=
  match (s.closeChannel c).2, s.closesChannel c with
  | _, .aside _ => .refl _
  | _, .unsent _ _ => .refl _
  | _, .sent _ _ h => moves_andThen (send_holdHandle_moves (s := s.setChannelState c .closing) h) _

theorem sendOn_moves {s : Store} {c : Nat} {body : Body} {n : Next} (h : s.sendOn c body = .ok n) :
    Moves t s.connection n.log n.store.connection := by
  obtain ⟨-, -, m, hm, rfl⟩ := sendOn_eq_ok h
  exact moves_andThen (send_holdHandle_moves hm) _

theorem DropsChannel.moves {s : Store} {c : Nat} {n : Next} (h : s.DropsChannel c n) :
    Moves t s.connection n.log n.store.connection := by
  cases h with
  | aside => exact .refl _
  | unsent => exact holdHandle_moves s
  | sent _ _ h => exact moves_andThen (send_holdHandle_moves h) _

theorem whenLost_moves (s : Store) (e : EndpointRef) :
    Moves t s.connection (s.whenLost e).log (s.whenLost e).store.connection :=
  match e, s.whenLost e, s.loses e with
  | _, _, .aside _ => .refl _
  | _, _, .last _ h => h.moves

theorem retire_moves (s : Store) (c : Nat) : Moves t s.connection [] (s.retire c).connection :=
  .of (.release _ _ _)

theorem openChannel_moves (s : Store) :
    Moves t s.connection s.openChannel.2.log s.openChannel.2.store.connection := by
  obtain ⟨e, h, -⟩ | ⟨id, r, n, ho, hr, hn, h⟩ := s.openChannel_cases
  · rw [h]
    exact .refl _
  · rw [h]
    exact .after (.register _ _ id r ho hr) (send_moves hn)

/-! ## The connection -/

theorem register_moves (s : Store) (e : EndpointRef) :
    Moves t s.connection [] (s.register e).2.connection := by
  unfold register
  split
  · exact .refl _
  · rename_i ho
    rw [not_or] at ho
    split
    · exact .refl _
    · rename_i id r hr
      exact .of (.register _ _ id r ho hr)

theorem sendClose_moves (s : Store) :
    Moves t s.connection s.sendClose.log s.sendClose.store.connection := by
  show Moves t _ [] s.holdRegistered.1.connection
  rw [connection_holdRegistered]
  exact .refl _

theorem close_moves {s : Store} {n : Next} (h : s.close = .ok n) :
    Moves t s.connection n.log n.store.connection := by
  cases closesConnection h with
  | begun hc hs =>
    have hne : s.connection.state ≠ .closed := by rw [hs]; nofun
    exact .after (.requestClose _ hne hc)
      (sendClose_moves (s.mapConnection ({ · with closeRequested := true })))
  | noted hc hs _ => exact .of (.requestClose _ hs hc)

theorem Destroys.moves {s : Store} {n : Next} (h : s.Destroys n) :
    Moves t s.connection n.log n.store.connection := by
  cases h with
  | aside | closed => exact .refl _
  | closing _ h => exact moves_andThen (close_moves h) _

theorem destroy_moves (s : Store) : Moves t s.connection s.destroy.log s.destroy.store.connection :=
  s.destroys.moves

theorem releaseHandle_moves (s : Store) :
    Moves t s.connection s.releaseHandle.log s.releaseHandle.store.connection :=
  match s.releaseHandle, s.releasesHandle with
  | _, .last _ => s.destroys.moves
  | _, .other _ => loseHandle_moves s

theorem shut_moves (s : Store) : Moves t s.connection [] s.shut.1.connection := by
  rw [connection_shut]
  exact .of (.shut _)

theorem transportClosed_moves (s : Store) :
    Moves t s.connection s.transportClosed.log s.transportClosed.store.connection :=
  match s.transportClosed, s.losesTransport with
  | _, .aside _ => .refl _
  | _, .shut _ => shut_moves s

/-! ## Received frames -/

/-- Negotiation is complete: what was put off is next, and then user code learns of it. -/
structure Connects (s : Store) (n : Next) : Prop where
  tuning : s.connection.state = .negotiatingTuning
  connection : n.store.connection = { s.connection with state := .connected }
  log : ∃ f, n.log = [.received f]
  tasks : ∃ p, n.tasks = [.announce, .handled none p none] ∨
    ∃ es, n.tasks = [.closeEach es, .sendClose, .announce, .handled none p none]

theorem OnConnection.moves {s : Store} {body : Body} {n : Next} (h : s.OnConnection body n)
    (hb : body = .method (.connection .openOk) → s.connection.state ≠ .negotiatingTuning) :
    Moves t s.connection n.log n.store.connection := by
  cases h with
  | heartbeat | fault => exact .refl _
  | offered offer hs => exact .after (.answerOffer _ hs) (reply_moves (s.setState .negotiatingTuning) _ _)
  | tuned | blocked | unblocked => exact .note _ _ rfl
  | opened hs | openedToClose hs => exact absurd hs (hb rfl)
  | closed reason => exact .of (.confirm _)
  | confirmed => exact shut_moves s

theorem OnChannel.moves {s : Store} {c : Nat} {body : Body} {n : Next} (h : s.OnChannel c body n) :
    Moves t s.connection n.log n.store.connection := by
  cases h with
  | closes reason => exact reply_moves s _ _
  | opened | flow | content => exact .note _ _ rfl
  | confirmed => exact (retire_moves s c).trans (.note _ _ rfl)
  | passedOver | fault => exact .refl _

theorem receive_connects {s : Store} {f : Frame} {p : Parsing} (hf : f.channel = 0)
    (hb : f.body = .method (.connection .openOk))
    (hs : s.connection.state = .negotiatingTuning) : Connects s (s.receive f p) := by
  have hr : s.receiveOnConnection f.body = s.receiveOpenOk := by
    rw [hb]
    show (if s.connection.state = .negotiatingTuning then _ else _) = _
    rw [if_pos hs]
  rw [s.receive_zero hf, hr]
  unfold receiveOpenOk
  refine ⟨hs, ?_, ⟨f, ?_⟩, ⟨p, ?_⟩⟩
  · dsimp only [Next.andThen, Next.within]
    split
    · exact connection_holdRegistered _
    · rfl
  · dsimp only [Next.andThen, Next.within]
    split <;> rfl
  · dsimp only [Next.andThen, Next.within]
    split
    · exact .inr ⟨_, rfl⟩
    · exact .inl rfl

/-- Not so for the frame that completes negotiation. -/
theorem receive_moves_of_not (s : Store) {f : Frame} (p : Parsing) (h : ¬ (f.channel = 0 ∧
    f.body = .method (.connection .openOk) ∧ s.connection.state = .negotiatingTuning)) :
    Moves t s.connection (s.receive f p).log (s.receive f p).store.connection := by
  obtain ⟨e, n, hn, hr⟩ := s.receive_takesIn f p
  rw [hr]
  refine .noted _ rfl ?_
  cases hn with
  | connection hf hn => exact hn.moves fun hb hs => h ⟨hf, hb, hs⟩
  | ignored => exact .refl _
  | @channel _ _ c _ _ hn =>
    rw [← connection_hold s (.channel c)]
    exact hn.moves
  | custom => exact .note _ _ rfl

theorem receive_moves (s : Store) (f : Frame) (p : Parsing) :
    Moves t s.connection (s.receive f p).log (s.receive f p).store.connection ∨
      Connects s (s.receive f p) := by
  by_cases h : f.channel = 0 ∧ f.body = .method (.connection .openOk) ∧
      s.connection.state = .negotiatingTuning
  · exact .inr (receive_connects h.1 h.2.1 h.2.2)
  · exact .inl (receive_moves_of_not s p h)

theorem report_moves (s : Store) (v : Violation) (processed : Nat) :
    Moves t s.connection (s.report v processed).log (s.report v processed).store.connection :=
  match s.report v processed, s.reportsFault v processed with
  | _, .late _ => .refl _
  | _, .shut _ => shut_moves s

theorem parse_moves (s : Store) (buffer : Bytes) (processed : Nat) :
    Moves t s.connection (s.parse buffer processed).log
      (s.parse buffer processed).store.connection ∨ Connects s (s.parse buffer processed) :=
  match s.parse buffer processed, s.parsesNext buffer processed with
  | _, .ended => .inl (.refl _)
  | _, .violated _ _ _ => .inl (report_moves s _ _)
  | _, .received _ _ _ => receive_moves s _ _

/-! ## Tuning -/

theorem rejectEndpoint_moves (s : Store) (e : EndpointRef) :
    Moves t s.connection (s.rejectEndpoint e).log (s.rejectEndpoint e).store.connection := by
  cases e <;> exact .note _ _ rfl

theorem evictNext_moves {s : Store} (ha : s.connection.alive = true)
    (surplus : List (UInt16 × EndpointRef)) (limits : Tune) :
    Moves (some (.evict surplus limits)) s.connection (s.evictNext surplus limits).log
      (s.evictNext surplus limits).store.connection := by
  match surplus, s.evictNext surplus limits, s.evictsNext surplus limits with
  | _, _, .done => exact reply_moves s _ _
  | _, _, .rejected id (e := e) rest _ =>
    refine .trans (.of (.discard _ id e rest limits rfl ha)) ?_
    have h : Moves (some (.evict ((id, e) :: rest) limits)) _ _ _ :=
      rejectEndpoint_moves ((s.discard id).1.hold e) e
    rw [connection_hold] at h
    exact h
  | _, _, .gone id (e := e) rest _ =>
    exact .trans (.of (.discard _ id e rest limits rfl ha)) (.refl _)

/-! ## Closing -/

theorem closeEndpoint_moves (s : Store) (e : EndpointRef) :
    Moves t s.connection (s.closeEndpoint e).log (s.closeEndpoint e).store.connection := by
  cases e with
  | channel c => exact closeChannel_moves s c
  | custom n => exact .note _ _ rfl

theorem invalidateEndpoint_moves (s : Store) (e : EndpointRef) :
    Moves t s.connection (s.invalidateEndpoint e).log (s.invalidateEndpoint e).store.connection := by
  cases e with
  | channel c => exact .refl _
  | custom n => exact .note _ _ rfl

end Store

/-! ## Tasks and calls -/

/-- What user code may be told after other work: the end of the connection or of a channel. -/
def Callback.isNotice : Callback → Bool
  | .closed | .error _ | .channelClosed _ => true
  | _ => false

theorem Callback.isNoteOf_notify {cb : Callback} (h : cb.isNotice = true) :
    (Event.started cb).isNoteOf (some (.notify cb)) = true := by
  cases cb <;> first | rfl | cases h

theorem Callback.isNoteOf_notifyAlive {cb : Callback} (h : cb.isNotice = true) :
    (Event.started cb).isNoteOf (some (.notifyAlive cb)) = true := by
  cases cb <;> first | rfl | cases h

/-- No other callback is put off, and an endpoint of user code is taken out at once. -/
def Task.isProper : Task → Bool
  | .notify cb | .notifyAlive cb => cb.isNotice
  | .unregister (.custom _) => false
  | _ => true

open Store

/-- A task is a sequence of changes of the connection, or it completes negotiation. -/
theorem Task.run_moves {t : Task} {s : Store} {n : Next} (ht : t.isProper = true)
    (h : t.run s = some n) :
    Moves (some t) s.connection n.log n.store.connection ∨ Store.Connects s n := by
  cases t with
  | user cb => cases h
  | notify cb =>
    cases h
    exact .inl (.note _ _ (cb.isNoteOf_notify ht))
  | notifyAlive cb =>
    cases h
    exact .inl (moves_ite fun _ => .note _ _ (cb.isNoteOf_notifyAlive ht))
  | answer outcome => cases h; exact .inl (.note _ _ rfl)
  | releaseHandle => cases h; exact .inl (releaseHandle_moves s)
  | loseHandle => cases h; exact .inl (loseHandle_moves s)
  | release e =>
    cases h
    rw [← connection_lose s e]
    exact .inl (whenLost_moves (s.lose e) e)
  | unregister e => cases h; exact .inl (.of (.release _ _ _))
  | parse buffer processed => cases h; exact parse_moves s buffer processed
  | handled e p fault =>
    cases e with
    | some e => cases h; exact .inl (.refl _)
    | none =>
      cases fault with
      | none => cases h; exact .inl (.refl _)
      | some v => cases h; exact .inl (report_moves s v _)
  | tuned limits => cases h; exact .inl (moves_ite fun ha => .of (.tune _ limits rfl ha))
  | evict surplus limits => cases h; exact .inl (moves_ite fun ha => evictNext_moves ha surplus limits)
  | requestHost => cases h; exact .inl (moves_ite fun _ => reply_moves s _ _)
  | announce => cases h; exact .inl (moves_ite fun _ => .note _ _ rfl)
  | flush =>
    cases h
    left
    split
    · rename_i f rest hq
      exact moves_ite fun ha => .of (.dequeue _ f rest rfl hq ha)
    · exact .refl _
  | closeEach es =>
    cases es with
    | nil => cases h; exact .inl (.refl _)
    | cons e es =>
      cases h
      left
      split
      · exact closeEndpoint_moves s e
      · exact .refl _
  | sendClose => cases h; exact .inl (moves_ite fun _ => offer_moves s _)
  | awaitCloseOk => cases h; exact .inl (moves_ite fun ha => .of (.awaitCloseOk _ rfl ha))
  | clearRegistry =>
    cases h
    left
    show Moves _ _ [] s.clearRegistry.1.connection
    rw [connection_clearRegistry]
    exact .of (.clear _ rfl)
  | invalidateEach es =>
    cases es with
    | nil => cases h; exact .inl (.refl _)
    | cons e es => cases h; exact .inl (invalidateEndpoint_moves s e)
  | destroyed => cases h; exact .inl (.of (.destroyed _ rfl))
  | closedByPeer reason => cases h; exact .inl (moves_ite fun _ => shut_moves s)
  | channelClosedByPeer c text => cases h; exact .inl ((retire_moves s c).trans (.note _ _ rfl))
  | flowReply c active => cases h; exact .inl (moves_ite fun _ => reply_moves s _ _)
  | handOver c => cases h; exact .inl (.refl _)
  | handOverConnection => cases h; exact .inl (.of (.handles _ _ _ (.inl (Nat.le_succ _))))

namespace Session

theorem onConnection_moves {s : Store} {n : Store → Next}
    (h : Moves t s.holdHandle.connection (n s.holdHandle).log (n s.holdHandle).store.connection) :
    Moves t s.connection (onConnection s n).log (onConnection s n).store.connection :=
  (holdHandle_moves s).trans h

theorem tryOnConnection_moves {ε : Type} {s : Store} (outcome : Except ε Unit → Outcome)
    {n : Store → Except ε Next} (h : ∀ m, n s.holdHandle = .ok m →
      Moves t s.holdHandle.connection m.log m.store.connection) :
    Moves t s.connection (tryOnConnection s outcome n).log
      (tryOnConnection s outcome n).store.connection := by
  unfold tryOnConnection
  split
  · rename_i m hm
    exact (holdHandle_moves s).trans (h m hm)
  · exact .refl _

theorem onChannel_moves {s : Store} {c : Nat} {n : Store → Except ChannelError Unit × Next}
    (h : Moves t (s.hold (.channel c)).connection (n (s.hold (.channel c))).2.log
      (n (s.hold (.channel c))).2.store.connection) :
    Moves t s.connection (onChannel s c n).log (onChannel s c n).store.connection := by
  rw [connection_hold] at h
  exact h

/-- A call is no part of a task. Which one it is made from matters only to handles that are dropped. -/
theorem Call.run_moves (c : Call) (s : Store) (ht : c = .dropHandle → t.all Task.isUser = true) :
    Moves t s.connection (c.run s).log (c.run s).store.connection := by
  cases c with
  | parse buffer => exact holdHandle_moves s
  | send f => exact tryOnConnection_moves _ fun m hm => send_moves hm
  | close => exact tryOnConnection_moves _ fun m hm => close_moves hm
  | destroy => exact onConnection_moves (destroy_moves _)
  | transportClosed => exact onConnection_moves (transportClosed_moves _)
  | register n => exact register_moves s _
  | unregister n => exact .of (.release _ _ _)
  | openChannel => exact (holdHandle_moves s).trans (openChannel_moves s.holdHandle)
  | sendOn c body =>
    refine onChannel_moves ?_
    split
    · rename_i n h; exact sendOn_moves h
    · exact .refl _
  | closeChannel c => exact onChannel_moves (closeChannel_moves _ c)
  | cloneHandle => exact .of (.handles _ s.connection.owned.succ _ (.inl (Nat.le_succ _)))
  | dropHandle => exact .of (.handles _ _ _ (.inr (ht rfl)))
  | dropChannel c => exact whenLost_moves (s.mapChannel c fun ch => { ch with owned := ch.owned - 1 }) _
  | cloneChannel | newEndpoint | setEndpointId | dropEndpoint => exact .refl _

end Session

end AmqpSession
