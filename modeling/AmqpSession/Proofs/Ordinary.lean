/-
Work that is no part of the end of a connection (`Next.IsOrdinary`): no close is asked for, none is sent
and none is left to be sent, and octets go out for a frame only. All work is ordinary but a close, a
destruction, the end of negotiation and the answer to the peer's close.
-/
import AmqpSession.Proofs.Apart
import AmqpSession.Proofs.Output
import AmqpSession.Proofs.Verdict

namespace AmqpSession

open Wire

/-- No close is asked for or sent, and octets go out for a frame only. -/
structure Next.IsOrdinary (requested : Bool) (n : Next) : Prop where
  asked : n.store.connection.closeRequested = requested
  sent : .accepted Store.connectionClose ∉ n.log
  out : ∀ octets, .started (.data octets) ∈ n.log → ∃ f, .handed f ∈ n.log
  calm : ∀ t ∈ n.tasks, t.isClosing = false

namespace Next.IsOrdinary

variable {b : Bool} {s : Store} {n : Next} {tasks : List Task}

theorem only (h : s.connection.closeRequested = b) : IsOrdinary b (.only s) :=
  ⟨h, by simp [Next.only], by simp [Next.only], by simp [Next.only]⟩

theorem follow (h : s.connection.closeRequested = b) (ht : ∀ t ∈ tasks, t.isClosing = false) :
    IsOrdinary b (.follow s tasks) :=
  ⟨h, by simp [Next.follow], by simp [Next.follow], ht⟩

theorem start (h : s.connection.closeRequested = b) {cb : Callback}
    (hcb : ∀ octets, cb ≠ .data octets) (ht : ∀ t ∈ tasks, t.isClosing = false) :
    IsOrdinary b (.start s cb tasks) where
  asked := h
  sent := by simp [Next.start]
  out octets hmem := absurd (Event.started.inj (List.mem_singleton.1 hmem)).symm (hcb octets)
  calm := List.forall_mem_cons.2 ⟨rfl, ht⟩

theorem refuse (h : s.connection.closeRequested = b) (v : Violation) : IsOrdinary b (.refuse s v) :=
  ⟨h, by simp [Next.refuse], by simp [Next.refuse], by simp [Next.refuse]⟩

theorem andThen (h : IsOrdinary b n) (ht : ∀ t ∈ tasks, t.isClosing = false) :
    IsOrdinary b (n.andThen tasks) :=
  ⟨h.asked, h.sent, h.out, fun t hm => (List.mem_append.1 hm).elim (h.calm t) (ht t)⟩

theorem ite {c : Prop} [Decidable c] (h : c → IsOrdinary s.connection.closeRequested n) :
    IsOrdinary s.connection.closeRequested (if c then n else .only s) := by
  split
  · rename_i hc; exact h hc
  · exact only rfl

/-- Events that are put on record first. -/
theorem noting (h : IsOrdinary b n) {es : List Event} (hs : .accepted Store.connectionClose ∉ es)
    (ho : ∀ octets, .started (.data octets) ∉ es) : IsOrdinary b (n.noting es) where
  asked := h.asked
  sent hm := (List.mem_append.1 hm).elim hs h.sent
  out octets hm := by
    obtain ⟨f, hf⟩ := h.out octets ((List.mem_append.1 hm).resolve_left (ho octets))
    exact ⟨f, List.mem_append_right _ hf⟩
  calm := h.calm

theorem within (h : IsOrdinary b n) (f : Frame) (e : Option EndpointRef) (p : Parsing) :
    IsOrdinary b (n.within f e p) := by
  have hnoted : IsOrdinary b (n.noting [.received f]) := h.noting (by simp) (by simp)
  have hn : IsOrdinary b ((n.noting [.received f]).andThen [.handled e p n.fault]) :=
    hnoted.andThen (by simp [Task.isClosing])
  exact ⟨hn.asked, hn.sent, hn.out, hn.calm⟩

end Next.IsOrdinary

namespace Store

open Next (IsOrdinary)

variable {s : Store}

/-! ## Sending -/

theorem ofChannel_ne_connectionClose (id : UInt16) (m : ChannelMethod) :
    Frame.ofChannel id m ≠ connectionClose := by
  simp [Frame.ofChannel, connectionClose, Frame.ofConnection]

theorem ofConnection_ne_connectionClose {m : ConnectionMethod} (hm : ∀ reason, m ≠ .close reason) :
    Frame.ofConnection m ≠ connectionClose := by
  simp [connectionClose, Frame.ofConnection, hm]

theorem send_isOrdinary {f : Frame} {n : Next} (hf : f ≠ connectionClose) (h : s.send f = .ok n) :
    IsOrdinary s.connection.closeRequested n := by
  have hcalm : ∀ t ∈ n.tasks, t.isClosing = false := fun t ht =>
    (Task.plain_of_isCommon (send_common h t ht)).2.2
  obtain ⟨octets, -, -, ⟨-, rfl⟩ | ⟨-, rfl⟩⟩ := send_cases h
  · exact ⟨rfl, by simp [Ne.symm hf], fun _ _ => ⟨f, by simp⟩, hcalm⟩
  · exact ⟨rfl, by simp [Ne.symm hf], by simp, hcalm⟩

theorem offer_isOrdinary (s : Store) {f : Frame} (hf : f ≠ connectionClose) :
    IsOrdinary s.connection.closeRequested (s.offer f) :=
  match s.offer f, s.offers f with
  | _, .sent h => send_isOrdinary hf h
  | _, .unsent _ => .only rfl

theorem reply_isOrdinary (s : Store) {f : Frame} (hf : f ≠ connectionClose) {tasks : List Task}
    (ht : ∀ t ∈ tasks, t.isClosing = false) :
    IsOrdinary s.connection.closeRequested (s.reply f tasks) :=
  match s.reply f tasks, s.replies f tasks with
  | _, .sent h => (send_isOrdinary hf h).andThen ht
  | _, .unsent _ => .refuse rfl _

/-! ## Channels -/

/-- A frame is sent with a handle held, and it is no close of the connection. -/
theorem send_holdHandle_isOrdinary {f : Frame} {n : Next} (hf : f ≠ connectionClose)
    (h : s.holdHandle.send f = .ok n) {tasks : List Task} (ht : ∀ t ∈ tasks, t.isClosing = false) :
    IsOrdinary s.connection.closeRequested (n.andThen tasks) := by
  have hn := send_isOrdinary hf h
  rw [connection_holdHandle] at hn
  exact hn.andThen ht

theorem closeChannel_isOrdinary (s : Store) (c : Nat) :
    IsOrdinary s.connection.closeRequested (s.closeChannel c).2 :=
  match (s.closeChannel c).2, s.closesChannel c with
  | _, .aside _ => .only rfl
  | _, .unsent _ _ => .only rfl
  | _, .sent _ _ h => send_holdHandle_isOrdinary (s := s.setChannelState c .closing)
      (ofChannel_ne_connectionClose _ _) h (by simp [Task.isClosing])

theorem sendOn_isOrdinary {c : Nat} {body : Body} {n : Next} (hb : body ≠ connectionClose.body)
    (h : s.sendOn c body = .ok n) : IsOrdinary s.connection.closeRequested n := by
  obtain ⟨-, -, m, hm, rfl⟩ := sendOn_eq_ok h
  exact send_holdHandle_isOrdinary (fun he => hb (congrArg Frame.body he)) hm (by simp [Task.isClosing])

theorem DropsChannel.isOrdinary {c : Nat} {n : Next} (h : s.DropsChannel c n) :
    IsOrdinary s.connection.closeRequested n := by
  cases h with
  | aside => exact .only rfl
  | unsent => exact .follow (s := s.holdHandle) rfl (by simp [Task.isClosing])
  | sent _ _ h =>
    exact send_holdHandle_isOrdinary (ofChannel_ne_connectionClose _ _) h (by simp [Task.isClosing])

theorem whenLost_isOrdinary (s : Store) (e : EndpointRef) :
    IsOrdinary s.connection.closeRequested (s.whenLost e) :=
  match e, s.whenLost e, s.loses e with
  | _, _, .aside _ => .only rfl
  | _, _, .last _ h => h.isOrdinary

theorem openChannel_isOrdinary (s : Store) :
    IsOrdinary s.connection.closeRequested s.openChannel.2 := by
  obtain ⟨e, h, -⟩ | ⟨id, r, n, -, -, hn, h⟩ := s.openChannel_cases
  · rw [h]
    exact .only rfl
  · rw [h]
    refine (send_isOrdinary (ofChannel_ne_connectionClose _ _) hn).andThen ?_
    simp [Task.isClosing]

/-! ## The connection -/

theorem closeRequested_shut (s : Store) :
    s.shut.1.connection.closeRequested = s.connection.closeRequested := by rw [connection_shut]

theorem transportClosed_isOrdinary (s : Store) :
    IsOrdinary s.connection.closeRequested s.transportClosed :=
  match s.transportClosed, s.losesTransport with
  | _, .aside _ => .only rfl
  | _, .shut _ => .follow s.closeRequested_shut (by simp [Task.isClosing])

theorem register_closeRequested (s : Store) (e : EndpointRef) :
    (s.register e).2.connection.closeRequested = s.connection.closeRequested := by
  unfold register
  split
  · rfl
  · split <;> rfl

theorem report_isOrdinary (s : Store) (v : Violation) (processed : Nat) :
    IsOrdinary s.connection.closeRequested (s.report v processed) :=
  match s.report v processed, s.reportsFault v processed with
  | _, .late _ => .follow rfl (by simp [endOfParse, Task.isClosing])
  | _, .shut _ => .follow s.closeRequested_shut (by simp [endOfParse, Task.isClosing])

/-! ## Received frames -/

theorem OnConnection.isOrdinary {body : Body} {n : Next} (h : s.OnConnection body n)
    (ho : body = .method (.connection .openOk) → s.connection.state ≠ .negotiatingTuning)
    (hc : ∀ reason, body ≠ .method (.connection (.close reason))) :
    IsOrdinary s.connection.closeRequested n := by
  cases h with
  | heartbeat => exact .only rfl
  | fault => exact .refuse rfl _
  | offered =>
    exact reply_isOrdinary (s.setState .negotiatingTuning) (ofConnection_ne_connectionClose (by simp))
      (by simp)
  | tuned => refine .start rfl ?_ ?_ <;> simp [Task.isClosing]
  | opened hs | openedToClose hs => exact absurd hs (ho rfl)
  | closed reason => exact absurd rfl (hc reason)
  | confirmed => exact .follow s.closeRequested_shut (by simp [Task.isClosing])
  | blocked | unblocked => refine .start rfl ?_ ?_ <;> simp

theorem OnChannel.isOrdinary {c : Nat} {body : Body} {n : Next} (h : s.OnChannel c body n) :
    IsOrdinary s.connection.closeRequested n := by
  cases h with
  | closes reason =>
    exact reply_isOrdinary s (ofChannel_ne_connectionClose _ _) (by simp [Task.isClosing])
  | opened | confirmed | flow | content =>
    exact ⟨rfl, by simp [Next.start], by simp [Next.start], by simp [Next.start, Task.isClosing]⟩
  | passedOver => exact .only rfl
  | fault => exact .refuse rfl _

theorem receive_isOrdinary (s : Store) {f : Frame} (p : Parsing)
    (ho : f = .ofConnection .openOk → s.connection.state ≠ .negotiatingTuning)
    (hc : ∀ reason, f ≠ .ofConnection (.close reason)) :
    IsOrdinary s.connection.closeRequested (s.receive f p) := by
  obtain ⟨e, n, hn, hr⟩ := s.receive_takesIn f p
  rw [hr]
  refine IsOrdinary.within ?_ f e p
  cases hn with
  | connection hz h =>
    have hframe {m : ConnectionMethod} (hb : f.body = .method (.connection m)) : f = .ofConnection m := by
      rw [Frame.ofConnection, ← hz, ← hb]
    exact h.isOrdinary (fun hb => ho (hframe hb)) fun reason hb => hc reason (hframe hb)
  | ignored => exact .only rfl
  | @channel _ _ c _ _ h =>
    rw [← connection_hold s (.channel c)]
    exact h.isOrdinary
  | @custom _ _ k =>
    rw [← connection_hold s (.custom k)]
    exact .start rfl (by simp) (by simp)

/-- What is not ordinary about a frame: it completes negotiation, or it is the peer's close. -/
inductive ParsesEnd (s : Store) (n : Next) : Prop where
  | completed (p : Parsing) (hs : s.connection.state = .negotiatingTuning)
      (hn : n = s.receive (.ofConnection .openOk) p)
  | closed (reason : Close) (p : Parsing) (ha : s.connection.alive = true)
      (hs : s.connection.state ≠ .closed) (hn : n = s.receive (.ofConnection (.close reason)) p)

theorem parse_isOrdinary {t : Option Task} (s : Store) (buffer : Bytes) (processed : Nat) :
    (IsOrdinary s.connection.closeRequested (s.parse buffer processed) ∧
      Connection.Moves t s.connection (s.parse buffer processed).log
        (s.parse buffer processed).store.connection) ∨ s.ParsesEnd (s.parse buffer processed) := by
  match s.parse buffer processed, s.parsesNext buffer processed with
  | _, .ended => exact .inl ⟨.follow rfl (by simp [endOfParse, Task.isClosing]), .refl _⟩
  | _, .violated _ _ _ => exact .inl ⟨report_isOrdinary s _ _, report_moves s _ _⟩
  | _, .received ha hs (r := r) _ =>
    by_cases ho : r.frame = .ofConnection .openOk ∧ s.connection.state = .negotiatingTuning
    · exact .inr (.completed _ ho.2 (by rw [ho.1]))
    · by_cases hc : ∃ reason, r.frame = .ofConnection (.close reason)
      · obtain ⟨reason, hreason⟩ := hc
        exact .inr (.closed reason _ ha hs (by rw [hreason]))
      · refine .inl ⟨receive_isOrdinary s _ (not_and.1 ho) (not_exists.1 hc),
          receive_moves_of_not s _ fun h => ho ⟨?_, h.2.2⟩⟩
        rw [Frame.ofConnection, ← h.1, ← h.2.1]

/-! ## Tuning and closing -/

theorem rejectEndpoint_isOrdinary (s : Store) (e : EndpointRef) :
    IsOrdinary s.connection.closeRequested (s.rejectEndpoint e) := by
  cases e <;>
    exact ⟨rfl, by simp [rejectEndpoint, Next.start], by simp [rejectEndpoint, Next.start],
      by simp [rejectEndpoint, Next.start, Task.isClosing]⟩

theorem noting_discard {b : Bool} {n : Next} (s : Store) (id : UInt16) (h : IsOrdinary b n) :
    IsOrdinary b (n.noting (s.discard id).2) :=
  h.noting (by simp [discard]) (by simp [discard])

theorem evictNext_isOrdinary (s : Store) (surplus : List (UInt16 × EndpointRef)) (limits : Tune) :
    IsOrdinary s.connection.closeRequested (s.evictNext surplus limits) := by
  match surplus, s.evictNext surplus limits, s.evictsNext surplus limits with
  | _, _, .done =>
    exact reply_isOrdinary s (ofConnection_ne_connectionClose (by simp)) (by simp [Task.isClosing])
  | _, _, .rejected id (e := e) rest _ =>
    have hn := rejectEndpoint_isOrdinary ((s.discard id).1.hold e) e
    rw [connection_hold] at hn
    exact noting_discard s id (hn.andThen (by simp [Task.isClosing]))
  | _, _, .gone id rest _ =>
    exact noting_discard s id (.follow (s := (s.discard id).1) rfl (by simp [Task.isClosing]))

theorem closeEndpoint_isOrdinary (s : Store) (e : EndpointRef) :
    IsOrdinary s.connection.closeRequested (s.closeEndpoint e) := by
  cases e with
  | channel c => exact closeChannel_isOrdinary s c
  | custom n => refine .start rfl ?_ ?_ <;> simp

theorem invalidateEndpoint_isOrdinary (s : Store) (e : EndpointRef) :
    IsOrdinary s.connection.closeRequested (s.invalidateEndpoint e) := by
  cases e with
  | channel c => exact .only rfl
  | custom n => refine .start rfl ?_ ?_ <;> simp

end Store

/-! ## Tasks and calls -/

open Store Next

/-- The task is ordinary in every state. -/
def Task.isOrdinary : Task → Bool
  | .parse _ _ | .releaseHandle | .sendClose => false
  | _ => true

theorem Task.run_isOrdinary {t : Task} {s : Store} {n : Next} (hp : t.isProper = true)
    (ht : t.isOrdinary = true) (h : t.run s = some n) : IsOrdinary s.connection.closeRequested n := by
  cases t with
  | user cb => cases h
  | parse | releaseHandle | sendClose => cases ht
  | notify cb => cases h; exact .start rfl (Callback.ne_data_of_isNotice hp) (by simp)
  | notifyAlive cb =>
    cases h
    exact .ite fun _ => .start rfl (Callback.ne_data_of_isNotice hp) (by simp)
  | answer outcome => cases h; exact ⟨rfl, by simp, by simp, by simp⟩
  | loseHandle => cases h; exact .only rfl
  | release e =>
    cases h
    rw [← connection_lose s e]
    exact whenLost_isOrdinary _ e
  | unregister e => cases h; exact .only rfl
  | handled e p fault =>
    cases e with
    | some e => cases h; exact .follow rfl (by simp [Task.isClosing])
    | none =>
      cases fault with
      | none => cases h; exact .follow rfl (by simp [Task.isClosing])
      | some v => cases h; exact report_isOrdinary s v _
  | tuned limits => cases h; exact .ite fun _ => .follow rfl (by simp [Task.isClosing])
  | evict surplus limits => cases h; exact .ite fun _ => evictNext_isOrdinary s surplus limits
  | requestHost =>
    cases h
    exact .ite fun _ => reply_isOrdinary s (ofConnection_ne_connectionClose (by simp)) (by simp)
  | announce =>
    cases h
    refine .ite fun _ => .start rfl ?_ ?_ <;> simp [Task.isClosing]
  | flush =>
    cases h
    split
    · rename_i f rest hq
      exact .ite fun _ => ⟨rfl, by simp, fun _ _ => ⟨f, by simp⟩, by simp [Task.isClosing]⟩
    · exact .only rfl
  | closeEach es =>
    cases es with
    | nil => cases h; exact .only rfl
    | cons e es =>
      cases h
      split
      · exact (closeEndpoint_isOrdinary s e).andThen (by simp [Task.isClosing])
      · exact .follow rfl (by simp [Task.isClosing])
  | awaitCloseOk => cases h; exact .ite fun _ => .only rfl
  | clearRegistry =>
    cases h
    have h : s.clearRegistry.1.connection.closeRequested = s.connection.closeRequested := by
      rw [connection_clearRegistry]
    exact .follow h (by simp [Task.isClosing])
  | invalidateEach es =>
    cases es with
    | nil => cases h; exact .only rfl
    | cons e es =>
      cases h
      exact (invalidateEndpoint_isOrdinary s e).andThen (by simp [Task.isClosing])
  | destroyed => cases h; exact .only rfl
  | closedByPeer reason =>
    cases h
    refine .ite fun _ => .follow s.closeRequested_shut ?_
    unfold afterPeersClose
    split <;> simp [Task.isClosing]
  | channelClosedByPeer c text =>
    cases h
    exact ⟨rfl, by simp [start], by simp [start], by simp [start, isClosing]⟩
  | flowReply c active =>
    cases h
    exact .ite fun _ => reply_isOrdinary s (ofChannel_ne_connectionClose _ _) (by simp)
  | handOver c => cases h; exact .only rfl
  | handOverConnection => cases h; exact .only rfl

/-- Only a frame completes negotiation. -/
theorem Task.not_connects {t : Task} {s : Store} {n : Next}
    (hp : ∀ buffer processed, t ≠ .parse buffer processed) (hn : t.run s = some n) :
    ¬ Store.Connects s n := by
  intro hc
  obtain ⟨p, htasks⟩ := hc.tasks
  have hmem : .announce ∈ n.tasks := by
    rcases htasks with h | ⟨es, h⟩ <;> simp [h]
  rcases Task.run_tasks hp hn _ hmem with h | h
  · cases h
  · unfold LeadsTo at h
    split at h <;> grind [Connection.TearsDown, Connection.Closes, Connection.Reports]

namespace Session

/-- What user code sends with the call. -/
def Call.sent? : Call → Option Body
  | .send f => some f.body
  | .sendOn _ body => some body
  | _ => none

theorem tryOnConnection_isOrdinary {ε : Type} {s : Store} (outcome : Except ε Unit → Outcome)
    {n : Store → Except ε Next}
    (h : ∀ m, n s.holdHandle = .ok m → IsOrdinary s.connection.closeRequested m) :
    IsOrdinary s.connection.closeRequested (tryOnConnection s outcome n) :=
  match tryOnConnection s outcome n, tries s outcome n with
  | _, .accepted hm => (h _ hm).andThen (by simp [Task.isClosing])
  | _, .refused _ => .follow rfl (by simp [Task.isClosing])

theorem Call.run_isOrdinary {c : Call} (s : Store) (hb : ∀ body, c.sent? = some body →
    body ≠ connectionClose.body) (hc : c ≠ .close) (hd : c ≠ .destroy) :
    IsOrdinary s.connection.closeRequested (c.run s) := by
  have done : ∀ {n : Next}, IsOrdinary s.connection.closeRequested n →
      IsOrdinary s.connection.closeRequested (n.andThen [.releaseHandle, .answer .done]) :=
    fun h => h.andThen (by simp [Task.isClosing])
  have onChannel : ∀ {n : Next} {c : Nat} {outcome : Outcome},
      IsOrdinary (s.hold (.channel c)).connection.closeRequested n →
      IsOrdinary s.connection.closeRequested
        (n.andThen [.release (.channel c), .answer outcome]) := by
    intro n c outcome h
    rw [connection_hold] at h
    exact h.andThen (by simp [Task.isClosing])
  cases c with
  | close => exact absurd rfl hc
  | destroy => exact absurd rfl hd
  | parse buffer => exact .follow rfl (by simp [Task.isClosing])
  | send f =>
    have hf : f ≠ connectionClose := fun he => hb f.body rfl (congrArg Frame.body he)
    show IsOrdinary s.connection.closeRequested (tryOnConnection s .sent (·.send f))
    exact tryOnConnection_isOrdinary _ fun m hm => send_isOrdinary (s := s.holdHandle) hf hm
  | transportClosed => exact done (transportClosed_isOrdinary s.holdHandle)
  | register k => exact .follow (register_closeRequested s _) (by simp [Task.isClosing])
  | openChannel =>
    refine (openChannel_isOrdinary s.holdHandle).andThen ?_
    simp [Task.isClosing]
  | sendOn d body =>
    refine onChannel ?_
    split
    · rename_i n h; exact sendOn_isOrdinary (hb body rfl) h
    · exact .only rfl
  | closeChannel d => exact onChannel (closeChannel_isOrdinary _ d)
  | dropChannel d =>
    refine (whenLost_isOrdinary (s.mapChannel d fun ch => { ch with owned := ch.owned - 1 }) _).andThen ?_
    simp [Task.isClosing]
  | unregister | cloneHandle | dropHandle | cloneChannel | newEndpoint | setEndpointId | dropEndpoint =>
    exact .follow rfl (by simp [Task.isClosing])

end Session

end AmqpSession
