/-
What goes out of a closed connection. Sending looks at the state, so octets go out only while the
connection is not closed, with one exception: the flush that follows negotiation looks only whether
the connection was destroyed, and goes on with what was held back (`flushesClosed`).
-/
import AmqpSession.Proofs.Delivery
import AmqpSession.Proofs.Forward

namespace AmqpSession

open Wire

/-! ## One piece of work -/

/-- No octets go out of a connection that is closed by then. -/
def Next.IsMute (n : Next) : Prop :=
  n.store.connection.state = .closed → ∀ octets, .started (.data octets) ∉ n.log

namespace Next.IsMute

/-- Nothing goes out at all. -/
theorem of_log {n : Next} (h : ∀ octets, .started (.data octets) ∉ n.log) : n.IsMute := fun _ => h

theorem only (s : Store) : (Next.only s).IsMute := of_log (by simp [Next.only])

theorem follow (s : Store) (tasks : List Task) : (Next.follow s tasks).IsMute :=
  of_log (by simp [Next.follow])

theorem refuse (s : Store) (v : Violation) : (Next.refuse s v).IsMute := of_log (by simp [Next.refuse])

theorem start (s : Store) {cb : Callback} (hcb : ∀ octets, cb ≠ .data octets) (tasks : List Task) :
    (Next.start s cb tasks).IsMute := by
  refine of_log fun octets hm => hcb octets ?_
  have he := List.mem_singleton.1 hm
  injection he with he
  exact he.symm

theorem andThen {n : Next} (h : n.IsMute) (tasks : List Task) : (n.andThen tasks).IsMute := h

theorem ite {s : Store} {c : Prop} [Decidable c] {n : Next} (h : n.IsMute) :
    (if c then n else .only s).IsMute := by
  split
  · exact h
  · exact only s

/-- Handling a frame is noted first, which sends nothing. -/
theorem within {n : Next} (h : n.IsMute) (f : Frame)
    (e : Option EndpointRef) (p : Parsing) : (n.within f e p).IsMute := by
  intro hc octets hm
  rcases List.mem_cons.1 hm with he | hm
  · cases he
  · exact h hc octets hm

end Next.IsMute

/-! ## Operations -/

namespace Store

open Next (IsMute)

/-- A connection that accepts a frame is not closed. -/
theorem send_isMute {s : Store} {f : Frame} {n : Next} (h : s.send f = .ok n) : n.IsMute := by
  obtain ⟨octets, -, ho, ⟨-, rfl⟩ | ⟨-, rfl⟩⟩ := send_cases h
  · exact fun hc => absurd hc ho.2
  · exact .of_log (by simp)

theorem offer_isMute (s : Store) (f : Frame) : (s.offer f).IsMute :=
  match s.offer f, s.offers f with
  | _, .sent h => send_isMute h
  | _, .unsent _ => .only s

theorem reply_isMute (s : Store) (f : Frame) (tasks : List Task) : (s.reply f tasks).IsMute :=
  match s.reply f tasks, s.replies f tasks with
  | _, .sent h => (send_isMute h).andThen tasks
  | _, .unsent _ => .refuse s _

theorem closeChannel_isMute (s : Store) (c : Nat) : (s.closeChannel c).2.IsMute :=
  match (s.closeChannel c).2, s.closesChannel c with
  | _, .aside _ => .only s
  | _, .unsent _ _ => .only _
  | _, .sent _ _ h => (send_isMute h).andThen _

theorem sendOn_isMute {s : Store} {c : Nat} {body : Body} {n : Next} (h : s.sendOn c body = .ok n) :
    n.IsMute := by
  obtain ⟨-, -, m, hm, rfl⟩ := sendOn_eq_ok h
  exact (send_isMute hm).andThen _

theorem DropsChannel.isMute {s : Store} {c : Nat} {n : Next} (h : s.DropsChannel c n) : n.IsMute := by
  cases h with
  | aside => exact .only s
  | unsent => exact .follow _ _
  | sent _ _ h => exact (send_isMute h).andThen _

theorem whenLost_isMute (s : Store) (e : EndpointRef) : (s.whenLost e).IsMute :=
  match e, s.whenLost e, s.loses e with
  | _, _, .aside _ => .only s
  | _, _, .last _ h => h.isMute

theorem openChannel_isMute (s : Store) : s.openChannel.2.IsMute := by
  obtain ⟨e, h, -⟩ | ⟨id, r, n, -, -, hn, h⟩ := s.openChannel_cases
  · rw [h]
    exact .only _
  · rw [h]
    exact (send_isMute hn).andThen _

theorem close_isMute {s : Store} {n : Next} (h : s.close = .ok n) : n.IsMute := by
  cases closesConnection h with
  | begun => exact .follow _ _
  | noted => exact .only _

theorem Destroys.isMute {s : Store} {n : Next} (h : s.Destroys n) : n.IsMute := by
  cases h with
  | aside => exact .only s
  | closing _ h => exact (close_isMute h).andThen _
  | closed => exact .follow s _

theorem releaseHandle_isMute (s : Store) : s.releaseHandle.IsMute :=
  match s.releaseHandle, s.releasesHandle with
  | _, .last _ => s.destroys.isMute.andThen _
  | _, .other _ => .only _

theorem transportClosed_isMute (s : Store) : s.transportClosed.IsMute :=
  match s.transportClosed, s.losesTransport with
  | _, .aside _ => .only s
  | _, .shut _ => .follow _ _

theorem report_isMute (s : Store) (v : Violation) (processed : Nat) :
    (s.report v processed).IsMute :=
  match s.report v processed, s.reportsFault v processed with
  | _, .late _ => .follow s _
  | _, .shut _ => .follow _ _

/-! ## Received frames -/

/-- The peer's close is confirmed at once, and no frame is taken off a buffer on a closed
connection. -/
theorem OnConnection.isMute {s : Store} (hs : s.connection.state ≠ .closed) {body : Body} {n : Next}
    (h : s.OnConnection body n) : n.IsMute := by
  cases h with
  | heartbeat => exact .only s
  | fault => exact .refuse s _
  | offered => exact reply_isMute _ _ _
  | tuned | blocked | unblocked => exact .start s (by simp) _
  | opened | confirmed => exact .follow _ _
  | openedToClose => exact IsMute.andThen (.follow _ _) _
  | closed => exact fun hc => absurd hc hs

theorem OnChannel.isMute {s : Store} {c : Nat} {body : Body} {n : Next} (h : s.OnChannel c body n) :
    n.IsMute := by
  cases h with
  | closes => exact reply_isMute s _ _
  | opened | confirmed | flow | content => exact .start _ (by simp) _
  | passedOver => exact .only s
  | fault => exact .refuse s _

theorem receive_isMute {s : Store} (hs : s.connection.state ≠ .closed) (f : Frame) (p : Parsing) :
    (s.receive f p).IsMute := by
  obtain ⟨e, n, hn, hr⟩ := s.receive_takesIn f p
  rw [hr]
  refine IsMute.within ?_ f e p
  cases hn with
  | connection _ h => exact h.isMute hs
  | ignored => exact .only s
  | channel _ _ _ h => exact h.isMute
  | custom => exact .start _ (by simp) _

theorem parse_isMute (s : Store) (buffer : Bytes) (processed : Nat) :
    (s.parse buffer processed).IsMute :=
  match s.parse buffer processed, s.parsesNext buffer processed with
  | _, .ended => .follow s _
  | _, .violated _ _ _ => report_isMute s _ _
  | _, .received _ hs _ => receive_isMute hs _ _

theorem rejectEndpoint_isMute (s : Store) (e : EndpointRef) : (s.rejectEndpoint e).IsMute := by
  cases e <;> exact .start _ (by simp) _

theorem evictNext_isMute (s : Store) (surplus : List (UInt16 × EndpointRef)) (limits : Tune) :
    (s.evictNext surplus limits).IsMute := by
  -- what is put on record first sends nothing
  have noted {n : Next} (id : UInt16) (h : n.IsMute) : (n.noting (s.discard id).2).IsMute := by
    intro hc octets hm
    rcases List.mem_append.1 hm with hm | hm
    · simp [discard] at hm
    · exact h hc octets hm
  match surplus, s.evictNext surplus limits, s.evictsNext surplus limits with
  | _, _, .done => exact reply_isMute s _ _
  | _, _, .rejected id rest _ => exact noted id ((rejectEndpoint_isMute _ _).andThen _)
  | _, _, .gone id rest _ => exact noted id (.follow _ _)

theorem closeEndpoint_isMute (s : Store) (e : EndpointRef) : (s.closeEndpoint e).IsMute := by
  cases e with
  | channel c => exact closeChannel_isMute s c
  | custom n => exact .start s (by simp) _

theorem invalidateEndpoint_isMute (s : Store) (e : EndpointRef) : (s.invalidateEndpoint e).IsMute := by
  cases e with
  | channel c => exact .only _
  | custom n => exact .start s (by simp) _

end Store

/-! ## Tasks and calls -/

open Store Next

theorem Callback.ne_data_of_isNotice {cb : Callback} (h : cb.isNotice = true) (octets : Bytes) :
    cb ≠ .data octets := by
  rintro rfl
  cases h

/-- Every task but the flush looks at the state before octets go out. -/
theorem Task.run_isMute {t : Task} {s : Store} {n : Next} (ht : t.isProper = true) (hf : t ≠ .flush)
    (h : t.run s = some n) : n.IsMute := by
  cases t with
  | user cb => cases h
  | flush => exact absurd rfl hf
  | notify cb => cases h; exact .start s (cb.ne_data_of_isNotice ht) _
  | notifyAlive cb => cases h; exact .ite (.start s (cb.ne_data_of_isNotice ht) _)
  | answer outcome => cases h; exact .of_log (by simp)
  | releaseHandle => cases h; exact releaseHandle_isMute s
  | loseHandle => cases h; exact .only _
  | release e => cases h; exact whenLost_isMute _ e
  | unregister e => cases h; exact .only _
  | parse buffer processed => cases h; exact parse_isMute s buffer processed
  | handled e p fault =>
    cases e with
    | some e => cases h; exact .follow s _
    | none =>
      cases fault with
      | none => cases h; exact .follow s _
      | some v => cases h; exact report_isMute s v _
  | tuned limits => cases h; exact .ite (.follow _ _)
  | evict surplus limits => cases h; exact .ite (evictNext_isMute s surplus limits)
  | requestHost => cases h; exact .ite (reply_isMute s _ _)
  | announce => cases h; exact .ite (.start s (by simp) _)
  | closeEach es =>
    cases es with
    | nil => cases h; exact .only s
    | cons e es =>
      cases h
      split
      · exact (closeEndpoint_isMute s e).andThen _
      · exact .follow s _
  | sendClose => cases h; exact .ite ((offer_isMute s _).andThen _)
  | awaitCloseOk => cases h; exact .ite (.only _)
  | clearRegistry => cases h; exact .follow _ _
  | invalidateEach es =>
    cases es with
    | nil => cases h; exact .only s
    | cons e es => cases h; exact (invalidateEndpoint_isMute s e).andThen _
  | destroyed => cases h; exact .only _
  | closedByPeer reason => cases h; exact .ite (.follow _ _)
  | channelClosedByPeer c text => cases h; exact .start _ (by simp) _
  | flowReply c active => cases h; exact .ite (reply_isMute s _ _)
  | handOver c => cases h; exact .only _
  | handOverConnection => cases h; exact .only _

namespace Session

theorem tryOnConnection_isMute {ε : Type} {s : Store} (outcome : Except ε Unit → Outcome)
    {n : Store → Except ε Next} (h : ∀ m, n s.holdHandle = .ok m → m.IsMute) :
    (tryOnConnection s outcome n).IsMute :=
  match tryOnConnection s outcome n, tries s outcome n with
  | _, .accepted hm => (h _ hm).andThen _
  | _, .refused _ => .follow s _

theorem Call.run_isMute (c : Call) (s : Store) : (c.run s).IsMute := by
  cases c with
  | send f => exact tryOnConnection_isMute _ fun m hm => send_isMute hm
  | close => exact tryOnConnection_isMute _ fun m hm => close_isMute hm
  | destroy => exact (destroys _).isMute.andThen _
  | transportClosed => exact (transportClosed_isMute _).andThen _
  | openChannel => exact (openChannel_isMute _).andThen _
  | sendOn c body =>
    refine IsMute.andThen ?_ _
    split
    · rename_i n h; exact sendOn_isMute h
    · exact .only _
  | closeChannel c => exact (closeChannel_isMute _ c).andThen _
  | dropChannel c => exact (whenLost_isMute _ _).andThen _
  | parse | register | unregister | cloneHandle | dropHandle | cloneChannel | newEndpoint
    | setEndpointId | dropEndpoint => exact .follow _ _

/-! ## One step -/

/-- Octets go out in this step, and the connection is closed by then. -/
def EmitsClosed (σ τ : Session) : Prop :=
  τ.state = .closed ∧ ∃ es octets, τ.log = es ++ σ.log ∧ .started (.data octets) ∈ es

/-- The flush goes on with what is held back, although the connection was closed in the meantime. -/
def flushesClosed (σ : Session) : Bool :=
  match σ.tasks with
  | .flush :: _ =>
    σ.store.connection.alive && σ.state = .closed && !σ.store.connection.queue.isEmpty
  | _ => false

theorem not_emitsClosed_proceed {σ : Session} {n : Next} (h : n.IsMute) (rest : List Task) :
    ¬ EmitsClosed σ (proceed n σ.log rest) := by
  rintro ⟨hs, es, octets, he, hm⟩
  rw [← List.append_cancel_right he, List.mem_reverse] at hm
  exact h hs octets hm

/-- What the flush does with the next frame. -/
theorem run_flush {s : Store} {n : Next} (h : Task.flush.run s = some n) :
    (s.connection.alive = true ∧ ∃ f rest, s.connection.queue = f :: rest ∧
      n.store = s.mapConnection ({ · with queue := rest }) ∧
      n.log = [.handed f, .started (.data f.toWire.octets)]) ∨
    ((s.connection.alive = false ∨ s.connection.queue = []) ∧ n = .only s) := by
  cases hq : s.connection.queue with
  | nil =>
    simp only [Task.run, hq] at h
    cases h
    exact .inr ⟨.inr rfl, rfl⟩
  | cons f rest =>
    simp only [Task.run, hq] at h
    cases ha : s.connection.alive with
    | true =>
      rw [ha] at h
      cases h
      exact .inl ⟨rfl, f, rest, rfl, rfl, rfl⟩
    | false =>
      rw [ha] at h
      cases h
      exact .inr ⟨.inl rfl, rfl⟩

theorem emitsClosed_iff_of_flush {σ τ : Session} {rest : List Task} (h : Step σ τ)
    (ht : σ.tasks = .flush :: rest) : EmitsClosed σ τ ↔ σ.flushesClosed = true := by
  obtain ⟨n, hn, rfl⟩ := h.eq_proceed ht (by simp)
  simp only [flushesClosed, ht, Bool.and_eq_true, decide_eq_true_eq, Bool.not_eq_true',
    List.isEmpty_eq_false_iff]
  rcases run_flush hn with ⟨ha, f, queue, hq, hstore, hlog⟩ | ⟨hnot, rfl⟩
  · have hstate : (proceed n σ.log rest).state = σ.state := by
      show n.store.connection.state = _
      rw [hstore]
      rfl
    constructor
    · rintro ⟨hs, -⟩
      exact ⟨⟨ha, hstate ▸ hs⟩, by simp [hq]⟩
    · rintro ⟨⟨-, hs⟩, -⟩
      refine ⟨hstate.trans hs, n.log.reverse, f.toWire.octets, rfl, ?_⟩
      simp [hlog]
  · refine iff_of_false (not_emitsClosed_proceed (.only _) rest) ?_
    rintro ⟨⟨ha, -⟩, hq⟩
    rcases hnot with hnot | hnot
    · rw [ha] at hnot
      cases hnot
    · exact hq hnot

/-- Octets go out of a closed connection exactly by a flush that does not look. -/
theorem Step.emitsClosed_iff {σ τ : Session} (hσ : σ.Reachable) (h : Step σ τ) :
    EmitsClosed σ τ ↔ σ.flushesClosed = true := by
  by_cases hflush : ∃ rest, σ.tasks = .flush :: rest
  · obtain ⟨rest, ht⟩ := hflush
    exact emitsClosed_iff_of_flush h ht
  · have hno : ¬ σ.flushesClosed = true := by
      unfold flushesClosed
      split
      · rename_i rest ht; exact absurd ⟨rest, ht⟩ hflush
      · simp
    refine iff_of_false ?_ hno
    obtain ⟨t, rest, n, ht, hn, rfl⟩ | ⟨c, -, -, rfl⟩ | ⟨cb, r, rest, ht, rfl⟩ := h.cases_on_stack
    · have hproper : t.isProper = true := hσ.isProper t (by rw [ht]; exact List.mem_cons_self)
      have hne : t ≠ .flush := by
        rintro rfl
        exact hflush ⟨rest, ht⟩
      exact not_emitsClosed_proceed (Task.run_isMute hproper hne hn) rest
    · exact not_emitsClosed_proceed (c.run_isMute _) _
    · rintro ⟨-, es, octets, he, hm⟩
      have hnil : es = [] := by simpa using he
      rw [hnil] at hm
      cases hm

/-! ## Whole runs -/

theorem isChain_not_emitsClosed_iff {σ : Session} {run : List Session} (hσ : σ.Reachable)
    (h : (σ :: run).IsChain Step) :
    (σ :: run).IsChain (fun σ τ => ¬ EmitsClosed σ τ) ↔
      ∀ υ ∈ (σ :: run).dropLast, υ.flushesClosed = false := by
  induction run generalizing σ with
  | nil => simp
  | cons τ run ih =>
    rw [List.isChain_cons_cons] at h
    rw [List.isChain_cons_cons, List.dropLast_cons_cons, List.forall_mem_cons,
      ih (hσ.step h.1) h.2, h.1.emitsClosed_iff hσ, Bool.not_eq_true]

/-- In a run nothing goes out once the connection is closed, exactly if it is never closed, without
being destroyed, while the flush after negotiation still has frames to send. -/
theorem run_mute_iff {o : Options} {run : List Session} (h : (connect o :: run).IsChain Step) :
    (connect o :: run).IsChain (fun σ τ => ¬ EmitsClosed σ τ) ↔
      ∀ σ ∈ (connect o :: run).dropLast, σ.flushesClosed = false :=
  isChain_not_emitsClosed_iff ⟨o, .refl⟩ h

/-- A heartbeat that is held back during negotiation. -/
def holdBack : List (Option Act) :=
  greeted ++ [some (.call (.send .heartbeat)), none, none,
    some (.call (.parse serverHandshake))] ++ pass 1 ++ pass 2 ++ pass 2 ++ pass 1 ++ [none, none, none]

/-- It goes out before the transport fails, and nothing after. -/
theorem run_mute_held_back :
    ∃ run : List Session, (connect .standard :: run).IsChain Step ∧
      (∃ σ ∈ run, σ.state = .closed) ∧ (∃ σ ∈ run, handedOver σ.log = [.heartbeat]) ∧
      (connect .standard :: run).IsChain (fun σ τ => ¬ EmitsClosed σ τ) := by
  have hchain := isChain_visits (connect .standard)
    (holdBack ++ pass 0 ++ [none] ++ pass 0 ++ [none, none, none, none, none,
      some (.call .transportClosed)] ++ pass 2 ++ [none, none])
  exact ⟨_, hchain, by decide +kernel, by decide +kernel, (run_mute_iff hchain).2 (by decide +kernel)⟩

/-- If the transport fails when user code learns that the connection is established, what was held
back goes out of the closed connection. -/
theorem emits_closed_after_connected :
    ∃ σ τ : Session, σ.Reachable ∧ Step σ τ ∧ EmitsClosed σ τ := by
  obtain ⟨σ, hσ, he⟩ := exists_reaches_of_play
    (holdBack ++ [some (.call .transportClosed)] ++ pass 2 ++ pass 2) (connect .standard)
    (fun σ => (σ.flushesClosed, σ.tick.isSome)) (a := (true, true)) (by decide +kernel)
  obtain ⟨hf, ht⟩ := Prod.mk.inj he
  obtain ⟨τ, hτ⟩ := Option.isSome_iff_exists.1 ht
  have hr : σ.Reachable := ⟨.standard, hσ⟩
  exact ⟨σ, τ, hr, .tick hτ, ((Step.tick hτ).emitsClosed_iff hr).2 hf⟩

end Session

end AmqpSession
