/-
What a piece of work leads to: the tasks that are put on the stack in place of one that was run
(`Task.run_leadsTo`) or for a call (`Call.run_leadsTo`), with the state of the connection that each
of them depends on.
-/
import AmqpSession.Proofs.Moves

namespace AmqpSession

open Wire

/-! ## The table -/

/-- Tasks that many operations leave behind. -/
def Task.isCommon : Task → Bool
  | .user _ | .releaseHandle | .unregister (.channel _) => true
  | _ => false

namespace Connection

/-- Part of the work on a close of the connection. -/
def Closes (k : Connection) (t : Task) : Prop :=
  k.state = .connected ∧ (t = .sendClose ∨ ∃ es, t = .closeEach es)

/-- Part of the work on the end of the connection. -/
def TearsDown (k : Connection) (t : Task) : Prop :=
  k.alive = true ∧ (k.Closes t ∨ t = .clearRegistry ∨ t = .destroyed)

/-- Part of a report, after which the connection is closed. -/
def Reports (k k' : Connection) (t : Task) : Prop :=
  k.alive = true ∧ k'.state = .closed ∧
    ((∃ es, t = .invalidateEach es) ∨ ∃ v : Violation, t = .notify (.error v.message))

/-- Part of the work on a frame. -/
def Receives (k' : Connection) (t : Task) : Prop :=
  (∃ e p f, t = .handled e p f) ∨ (∃ limits, t = .tuned limits) ∨
  (∃ reason, t = .closedByPeer reason) ∨
  (k'.state = .closed ∧ (t = .notifyAlive .closed ∨ ∃ es, t = .invalidateEach es)) ∨
  (∃ c text, t = .channelClosedByPeer c text) ∨ (∃ c active, t = .flowReply c active)

end Connection

/-- What a task may leave on the stack besides common tasks, given the connection before and
after. -/
def Task.LeadsTo (k k' : Connection) (t t' : Task) : Prop :=
  match t with
  | .user _ | .notify _ | .notifyAlive _ | .answer _ | .loseHandle | .release _ | .unregister _
  | .requestHost | .awaitCloseOk | .destroyed | .flowReply _ _ | .handOver _
  | .handOverConnection => False
  | .releaseHandle => t' = .loseHandle ∨ k.TearsDown t'
  | .parse _ processed =>
    t' = .answer (.consumed processed) ∨
      (k.alive = true ∧ k.state ≠ .closed ∧ (k.Reports k' t' ∨ k'.Receives t'))
  | .handled (some e) p fault => t' = .release e ∨ t' = .handled none p fault
  | .handled none p none => t' = .parse (p.buffer.drop p.size) (p.processed + p.size)
  | .handled none p (some _) => t' = .answer (.consumed p.processed) ∨ k.Reports k' t'
  | .tuned limits => k.alive = true ∧ ∃ surplus, t' = .evict surplus limits
  | .evict _ limits =>
    k.alive = true ∧ (t' = .requestHost ∨ (∃ c, t' = .notifyAlive (.channelClosed c)) ∨
      (∃ e, t' = .release e) ∨ ∃ surplus, t' = .evict surplus limits)
  | .announce | .flush => k.alive = true ∧ t' = .flush
  | .closeEach _ => (∃ e, t' = .release e) ∨ (k.alive = true ∧ ∃ es, t' = .closeEach es)
  | .sendClose => k.alive = true ∧ t' = .awaitCloseOk
  | .clearRegistry => ∃ es, t' = .invalidateEach es
  | .invalidateEach _ => (∃ e, t' = .release e) ∨ ∃ es, t' = .invalidateEach es
  | .closedByPeer _ =>
    k.alive = true ∧ k'.state = .closed ∧ ((∃ es, t' = .invalidateEach es) ∨
      (∃ text, t' = .notify (.error text)) ∨ t' = .notify .closed ∨ t' = .notifyAlive .closed)
  | .channelClosedByPeer c _ => t' = .notifyAlive (.channelClosed c)

/-- What a call may leave on the stack besides common tasks. -/
def Connection.CallLeadsTo (k k' : Connection) (t : Task) : Prop :=
  (∃ outcome, t = .answer outcome) ∨ (∃ c, t = .release (.channel c)) ∨ (∃ c, t = .handOver c) ∨
  (∃ buffer, t = .parse buffer 0) ∨ k.Closes t ∨ k.TearsDown t ∨
  (k'.state = .closed ∧ (t = .notifyAlive .closed ∨ ∃ es, t = .invalidateEach es))

/-! ## Operations -/

namespace Store

theorem send_common {s : Store} {f : Frame} {n : Next} (h : s.send f = .ok n) :
    ∀ t ∈ n.tasks, t.isCommon = true := by
  obtain ⟨octets, -, -, ⟨-, rfl⟩ | ⟨-, rfl⟩⟩ := send_cases h
  · simp [Task.isCommon]
  · simp

theorem offer_common (s : Store) (f : Frame) : ∀ t ∈ (s.offer f).tasks, t.isCommon = true :=
  match s.offer f, s.offers f with
  | _, .sent h => send_common h
  | _, .unsent _ => List.forall_mem_nil _

/-- What is left for later, after what is common. -/
theorem andThen_common {n : Next} (h : ∀ t ∈ n.tasks, t.isCommon = true) {tasks : List Task}
    {P : Task → Prop} (hs : ∀ t ∈ tasks, t.isCommon = true ∨ P t) :
    ∀ t ∈ (n.andThen tasks).tasks, t.isCommon = true ∨ P t := fun t ht =>
  (List.mem_append.1 ht).elim (fun ht => .inl (h t ht)) (hs t)

theorem reply_tasks (s : Store) (f : Frame) (tasks : List Task) :
    ∀ t ∈ (s.reply f tasks).tasks, t.isCommon = true ∨ t ∈ tasks :=
  match s.reply f tasks, s.replies f tasks with
  | _, .sent h => andThen_common (send_common h) fun _ => .inr
  | _, .unsent _ => List.forall_mem_nil _

/-- A frame is sent with a handle held, which is then let go of. -/
theorem send_releaseHandle_common {s : Store} {f : Frame} {n : Next} (h : s.send f = .ok n) :
    ∀ t ∈ (n.andThen [.releaseHandle]).tasks, t.isCommon = true := by
  intro t ht
  rcases List.mem_append.1 ht with ht | ht
  · exact send_common h t ht
  · rw [List.mem_singleton.1 ht]; rfl

theorem closeChannel_common (s : Store) (c : Nat) :
    ∀ t ∈ (s.closeChannel c).2.tasks, t.isCommon = true :=
  match (s.closeChannel c).2, s.closesChannel c with
  | _, .aside _ => List.forall_mem_nil _
  | _, .unsent _ _ => List.forall_mem_nil _
  | _, .sent _ _ h => send_releaseHandle_common h

theorem sendOn_common {s : Store} {c : Nat} {body : Body} {n : Next} (h : s.sendOn c body = .ok n) :
    ∀ t ∈ n.tasks, t.isCommon = true := by
  obtain ⟨-, -, m, hm, rfl⟩ := sendOn_eq_ok h
  exact send_releaseHandle_common hm

theorem DropsChannel.common {s : Store} {c : Nat} {n : Next} (h : s.DropsChannel c n) :
    ∀ t ∈ n.tasks, t.isCommon = true := by
  cases h with
  | aside => exact List.forall_mem_nil _
  | unsent => simp [Next.follow, Task.isCommon]
  | sent _ _ h =>
    intro t ht
    rcases List.mem_append.1 ht with ht | ht
    · exact send_common h t ht
    · simp only [List.mem_cons, List.not_mem_nil, or_false] at ht
      rcases ht with rfl | rfl <;> rfl

theorem whenLost_common (s : Store) (e : EndpointRef) :
    ∀ t ∈ (s.whenLost e).tasks, t.isCommon = true :=
  match e, s.whenLost e, s.loses e with
  | _, _, .aside _ => List.forall_mem_nil _
  | _, _, .last _ h => h.common

theorem openChannel_tasks (s : Store) :
    ∀ t ∈ s.openChannel.2.tasks, t.isCommon = true ∨ t = .handOver s.channels.length := by
  obtain ⟨e, h, -⟩ | ⟨id, r, n, -, -, hn, h⟩ := s.openChannel_cases
  · rw [h]
    exact List.forall_mem_nil _
  · rw [h]
    exact andThen_common (send_common hn) fun t ht => .inr (List.mem_singleton.1 ht)

theorem sendClose_tasks (s : Store) (hs : s.connection.state = .connected) :
    ∀ t ∈ s.sendClose.tasks, s.connection.Closes t := by
  intro t ht
  simp only [sendClose, Next.follow, List.mem_cons, List.not_mem_nil, or_false] at ht
  exact ⟨hs, ht.symm.imp id fun h => ⟨_, h⟩⟩

theorem close_tasks {s : Store} {n : Next} (h : s.close = .ok n) :
    ∀ t ∈ n.tasks, s.connection.Closes t := by
  cases closesConnection h with
  | begun _ hs => exact sendClose_tasks (s.mapConnection ({ · with closeRequested := true })) hs
  | noted => exact List.forall_mem_nil _

theorem Destroys.tasks {s : Store} {n : Next} (h : s.Destroys n) :
    ∀ t ∈ n.tasks, s.connection.TearsDown t := by
  have final (ha : s.connection.alive = true) {t : Task} (ht : t ∈ [.clearRegistry, .destroyed]) :
      s.connection.TearsDown t := by
    simp only [List.mem_cons, List.not_mem_nil, or_false] at ht
    exact ⟨ha, .inr ht⟩
  cases h with
  | aside => exact List.forall_mem_nil _
  | closing ha h =>
    intro t ht
    exact (List.mem_append.1 ht).elim (fun ht => ⟨ha, .inl (close_tasks h t ht)⟩) (final ha)
  | closed ha => exact fun t => final ha

theorem destroy_tasks (s : Store) : ∀ t ∈ s.destroy.tasks, s.connection.TearsDown t :=
  s.destroys.tasks

theorem releaseHandle_tasks (s : Store) :
    ∀ t ∈ s.releaseHandle.tasks, t = .loseHandle ∨ s.connection.TearsDown t :=
  match s.releaseHandle, s.releasesHandle with
  | _, .last _ => fun t ht => (List.mem_append.1 ht).elim
    (fun ht => .inr (s.destroys.tasks t ht)) fun ht => .inl (List.mem_singleton.1 ht)
  | _, .other _ => List.forall_mem_nil _

/-- What follows when the connection is shut. -/
theorem shut_tasks (s : Store) : ∀ t ∈ [Task.invalidateEach s.shut.2, .notifyAlive .closed],
    s.shut.1.connection.state = .closed ∧ (t = .notifyAlive .closed ∨ ∃ es, t = .invalidateEach es) := by
  intro t ht
  have hc : s.shut.1.connection.state = .closed := by rw [connection_shut]
  simp only [List.mem_cons, List.not_mem_nil, or_false] at ht
  exact ⟨hc, ht.symm.imp id fun h => ⟨_, h⟩⟩

theorem transportClosed_tasks (s : Store) :
    ∀ t ∈ s.transportClosed.tasks, s.transportClosed.store.connection.state = .closed ∧
      (t = .notifyAlive .closed ∨ ∃ es, t = .invalidateEach es) :=
  match s.transportClosed, s.losesTransport with
  | _, .aside _ => List.forall_mem_nil _
  | _, .shut _ => shut_tasks s

theorem endOfParse_tasks (processed : Nat) :
    ∀ t ∈ endOfParse processed, t.isCommon = true ∨ t = .answer (.consumed processed) := by
  simp [endOfParse, Task.isCommon]

theorem report_tasks (s : Store) (v : Violation) (processed : Nat) :
    ∀ t ∈ (s.report v processed).tasks, t.isCommon = true ∨ t = .answer (.consumed processed) ∨
      s.connection.Reports (s.report v processed).store.connection t := by
  have final {P : Task → Prop} {t : Task} (ht : t ∈ endOfParse processed) :
      t.isCommon = true ∨ t = .answer (.consumed processed) ∨ P t :=
    (endOfParse_tasks processed t ht).imp id .inl
  match s.report v processed, s.reportsFault v processed with
  | _, .late _ => exact fun t => final
  | _, .shut ha =>
    intro t ht
    rcases List.mem_append.1 ht with ht | ht
    · have hc : s.shut.1.connection.state = .closed := by rw [connection_shut]
      simp only [List.mem_cons, List.not_mem_nil, or_false] at ht
      exact .inr (.inr ⟨ha, hc, ht.imp (fun h => ⟨_, h⟩) fun h => ⟨v, h⟩⟩)
    · exact final ht

theorem OnConnection.tasks {s : Store} {body : Body} {n : Next} (h : s.OnConnection body n)
    (hb : body = .method (.connection .openOk) → s.connection.state ≠ .negotiatingTuning) :
    ∀ t ∈ n.tasks, t.isCommon = true ∨ n.store.connection.Receives t := by
  cases h with
  | heartbeat | fault => exact List.forall_mem_nil _
  | offered offer => exact fun t ht => (reply_tasks _ _ _ t ht).imp id nofun
  | tuned limits =>
    intro t ht
    simp only [receiveTune, Next.start, List.mem_cons, List.not_mem_nil, or_false] at ht
    rcases ht with rfl | rfl
    · exact .inl rfl
    · exact .inr (.inr (.inl ⟨_, rfl⟩))
  | opened hs | openedToClose hs => exact absurd hs (hb rfl)
  | closed reason =>
    intro t ht
    simp only [receiveClose, Next.start, List.mem_cons, List.not_mem_nil, or_false] at ht
    rcases ht with rfl | rfl
    · exact .inl rfl
    · exact .inr (.inr (.inr (.inl ⟨_, rfl⟩)))
  | confirmed => exact fun t ht => .inr (.inr (.inr (.inr (.inl (shut_tasks s t ht)))))
  | blocked | unblocked => simp [Next.start, Task.isCommon]

theorem OnChannel.tasks {s : Store} {c : Nat} {body : Body} {n : Next} (h : s.OnChannel c body n)
    (k' : Connection) : ∀ t ∈ n.tasks, t.isCommon = true ∨ k'.Receives t := by
  cases h with
  | closes reason =>
    intro t ht
    refine (reply_tasks _ _ _ t ht).imp id fun h => ?_
    rw [List.mem_singleton.1 h]
    exact .inr (.inr (.inr (.inr (.inl ⟨_, _, rfl⟩))))
  | opened | confirmed | content => simp [Next.start, Task.isCommon]
  | flow active =>
    intro t ht
    simp only [Next.start, List.mem_cons, List.not_mem_nil, or_false] at ht
    rcases ht with rfl | rfl
    · exact .inl rfl
    · exact .inr (.inr (.inr (.inr (.inr (.inr ⟨_, _, rfl⟩)))))
  | passedOver | fault => exact List.forall_mem_nil _

/-- What the handling of a frame leads to, and then that it was handled. -/
theorem within_tasks {n : Next} {k' : Connection} (h : ∀ t ∈ n.tasks, t.isCommon = true ∨ k'.Receives t)
    (f : Frame) (e : Option EndpointRef) (p : Parsing) :
    ∀ t ∈ (n.within f e p).tasks, t.isCommon = true ∨ k'.Receives t := fun t ht =>
  (List.mem_append.1 ht).elim (h t) fun ht => .inr (.inl ⟨_, _, _, List.mem_singleton.1 ht⟩)

/-- Not so at the end of negotiation. -/
theorem receive_tasks (s : Store) (f : Frame) (p : Parsing) :
    (∀ t ∈ (s.receive f p).tasks, t.isCommon = true ∨
      (s.receive f p).store.connection.Receives t) ∨ Connects s (s.receive f p) := by
  by_cases h : f.channel = 0 ∧ f.body = .method (.connection .openOk) ∧
      s.connection.state = .negotiatingTuning
  · exact .inr (receive_connects h.1 h.2.1 h.2.2)
  · obtain ⟨e, n, hn, hr⟩ := s.receive_takesIn f p
    rw [hr]
    refine .inl (within_tasks ?_ f e p)
    cases hn with
    | connection hf hn => exact hn.tasks fun hb hs => h ⟨hf, hb, hs⟩
    | ignored => exact List.forall_mem_nil _
    | channel _ _ _ hn => exact hn.tasks _
    | custom => simp [Next.start, Task.isCommon]

theorem parse_tasks (s : Store) (buffer : Bytes) (processed : Nat) :
    (∀ t ∈ (s.parse buffer processed).tasks, t.isCommon = true ∨
      (Task.parse buffer processed).LeadsTo s.connection
        (s.parse buffer processed).store.connection t) ∨
      Connects s (s.parse buffer processed) :=
  match s.parse buffer processed, s.parsesNext buffer processed with
  | _, .ended => .inl fun t ht => (endOfParse_tasks processed t ht).imp id .inl
  | _, .violated ha hs _ => .inl fun t ht => (report_tasks s _ processed t ht).imp id
      (.imp id fun h => ⟨ha, hs, .inl h⟩)
  | _, .received ha hs _ => (s.receive_tasks _ _).imp
      (fun h t ht => (h t ht).imp id fun h => .inr ⟨ha, hs, .inr h⟩) id

theorem rejectEndpoint_tasks (s : Store) (e : EndpointRef) :
    ∀ t ∈ (s.rejectEndpoint e).tasks, t.isCommon = true ∨ ∃ c, t = .notifyAlive (.channelClosed c) := by
  cases e <;> simp [rejectEndpoint, Next.start, Task.isCommon]

theorem evictNext_tasks {s : Store} (ha : s.connection.alive = true)
    (surplus : List (UInt16 × EndpointRef)) (limits : Tune) (k' : Connection) :
    ∀ t ∈ (s.evictNext surplus limits).tasks, t.isCommon = true ∨
      (Task.evict surplus limits).LeadsTo s.connection k' t :=
  match surplus, s.evictNext surplus limits, s.evictsNext surplus limits with
  | _, _, .done => fun t ht => (reply_tasks _ _ _ t ht).imp_right fun h =>
      ⟨ha, .inl (List.mem_singleton.1 h)⟩
  | _, _, .rejected id rest _ => by
    intro t ht
    rcases List.mem_append.1 ht with ht | ht
    · exact (rejectEndpoint_tasks _ _ t ht).imp_right fun h => ⟨ha, .inr (.inl h)⟩
    · simp only [List.mem_cons, List.not_mem_nil, or_false] at ht
      exact .inr ⟨ha, .inr (.inr (ht.imp (fun h => ⟨_, h⟩) fun h => ⟨_, h⟩))⟩
  | _, _, .gone id rest _ => fun t ht =>
      .inr ⟨ha, .inr (.inr (.inr ⟨_, List.mem_singleton.1 ht⟩))⟩

theorem closeEndpoint_common (s : Store) (e : EndpointRef) :
    ∀ t ∈ (s.closeEndpoint e).tasks, t.isCommon = true := by
  cases e with
  | channel c => exact closeChannel_common s c
  | custom n => simp [closeEndpoint, Next.start, Task.isCommon]

theorem invalidateEndpoint_common (s : Store) (e : EndpointRef) :
    ∀ t ∈ (s.invalidateEndpoint e).tasks, t.isCommon = true := by
  cases e <;> simp [invalidateEndpoint, Next.only, Next.start, Task.isCommon]

end Store

/-! ## Tasks and calls -/

open Store

/-- No task other than `parse` completes negotiation. -/
theorem Task.run_tasks {t : Task} {s : Store} {n : Next}
    (ht : ∀ buffer processed, t ≠ .parse buffer processed) (h : t.run s = some n) :
    ∀ t' ∈ n.tasks, t'.isCommon = true ∨ t.LeadsTo s.connection n.store.connection t' := by
  cases t with
  | user cb => cases h
  | parse buffer processed => exact absurd rfl (ht buffer processed)
  | notify cb => cases h; simp [Next.start, isCommon]
  | notifyAlive cb =>
    cases h
    split
    · simp [Next.start, isCommon]
    · simp [Next.only]
  | answer outcome => cases h; simp
  | releaseHandle =>
    cases h
    exact fun t' ht => .inr (releaseHandle_tasks s t' ht)
  | loseHandle => cases h; simp [Next.only]
  | release e => cases h; exact fun t' ht => .inl (whenLost_common _ e t' ht)
  | unregister e => cases h; simp [Next.only]
  | handled e p fault =>
    cases e with
    | some e => cases h; simp [Next.follow, LeadsTo]
    | none =>
      cases fault with
      | none => cases h; simp [Next.follow, LeadsTo]
      | some v => cases h; exact report_tasks s v p.processed
  | tuned limits =>
    cases h
    split
    · rename_i ha
      intro t' ht
      exact .inr ⟨ha, _, List.mem_singleton.1 ht⟩
    · simp [Next.only]
  | evict surplus limits =>
    cases h
    split
    · rename_i ha; exact evictNext_tasks ha surplus limits _
    · simp [Next.only]
  | requestHost =>
    cases h
    split
    · intro t' ht
      exact (reply_tasks _ _ _ t' ht).imp id fun h => by cases h
    · simp [Next.only]
  | announce =>
    cases h
    split
    · rename_i ha; simp [Next.start, isCommon, LeadsTo, ha]
    · simp [Next.only]
  | flush =>
    cases h
    split
    · split
      · rename_i ha; simp [isCommon, LeadsTo, ha]
      · simp [Next.only]
    · simp [Next.only]
  | closeEach es =>
    cases es with
    | nil => cases h; simp [Next.only]
    | cons e es =>
      cases h
      split
      · rename_i ha
        intro t' ht
        rcases List.mem_append.1 ht with ht | ht
        · exact .inl (closeEndpoint_common s e t' ht)
        · simp only [List.mem_cons, List.not_mem_nil, or_false] at ht
          exact .inr (ht.imp (fun h => ⟨_, h⟩) fun h => ⟨ha, _, h⟩)
      · intro t' ht
        obtain ⟨e', -, rfl⟩ := List.mem_map.1 ht
        exact .inr (.inl ⟨e', rfl⟩)
  | sendClose =>
    cases h
    split
    · rename_i ha
      intro t' ht
      rcases List.mem_append.1 ht with ht | ht
      · exact .inl (offer_common s _ t' ht)
      · exact .inr ⟨ha, List.mem_singleton.1 ht⟩
    · simp [Next.only]
  | awaitCloseOk => cases h; split <;> simp [Next.only]
  | clearRegistry => cases h; simp [Next.follow, LeadsTo]
  | invalidateEach es =>
    cases es with
    | nil => cases h; simp [Next.only]
    | cons e es =>
      cases h
      intro t' ht
      rcases List.mem_append.1 ht with ht | ht
      · exact .inl (invalidateEndpoint_common s e t' ht)
      · simp only [List.mem_cons, List.not_mem_nil, or_false] at ht
        exact .inr (ht.imp (fun h => ⟨_, h⟩) fun h => ⟨_, h⟩)
  | destroyed => cases h; simp [Next.only]
  | closedByPeer reason =>
    cases h
    split
    · rename_i ha
      have hc : s.shut.1.connection.state = .closed := by rw [connection_shut]
      intro t' ht
      refine .inr ⟨ha, hc, ?_⟩
      rcases List.mem_cons.1 ht with ht | ht
      · exact .inl ⟨_, ht⟩
      · unfold afterPeersClose at ht
        split at ht
        · exact .inr (.inr (.inl (List.mem_singleton.1 ht)))
        · simp only [List.mem_cons, List.not_mem_nil, or_false] at ht
          exact .inr (ht.imp (fun h => ⟨_, h⟩) .inr)
    · simp [Next.only]
  | channelClosedByPeer c text => cases h; simp [Next.start, isCommon, LeadsTo]
  | flowReply c active =>
    cases h
    split
    · intro t' ht
      exact (reply_tasks _ _ _ t' ht).imp id fun h => by cases h
    · simp [Next.only]
  | handOver c => cases h; simp [Next.only]
  | handOverConnection => cases h; simp [Next.only]

theorem Task.run_leadsTo {t : Task} {s : Store} {n : Next} (h : t.run s = some n) :
    (∀ t' ∈ n.tasks, t'.isCommon = true ∨ t.LeadsTo s.connection n.store.connection t') ∨
      Connects s n := by
  by_cases ht : ∃ buffer processed, t = .parse buffer processed
  · obtain ⟨buffer, processed, rfl⟩ := ht
    cases h
    exact parse_tasks s buffer processed
  · exact .inl (run_tasks (fun buffer processed he => ht ⟨buffer, processed, he⟩) h)

namespace Session

theorem onConnection_tasks {s : Store} {n : Store → Next} {P : Task → Prop}
    (h : ∀ t ∈ (n s.holdHandle).tasks, P t) :
    ∀ t ∈ (onConnection s n).tasks,
      t.isCommon = true ∨ (∃ outcome, t = .answer outcome) ∨ P t := by
  intro t ht
  rcases List.mem_append.1 ht with ht | ht
  · exact .inr (.inr (h t ht))
  · simp only [List.mem_cons, List.not_mem_nil, or_false] at ht
    rcases ht with rfl | rfl
    · exact .inl rfl
    · exact .inr (.inl ⟨_, rfl⟩)

theorem tryOnConnection_tasks {ε : Type} {s : Store} (outcome : Except ε Unit → Outcome)
    {n : Store → Except ε Next} {P : Task → Prop}
    (h : ∀ m, n s.holdHandle = .ok m → ∀ t ∈ m.tasks, P t) :
    ∀ t ∈ (tryOnConnection s outcome n).tasks,
      t.isCommon = true ∨ (∃ outcome, t = .answer outcome) ∨ P t :=
  match tryOnConnection s outcome n, tries s outcome n with
  | _, .accepted hm => by
    intro t ht
    rcases List.mem_append.1 ht with ht | ht
    · exact .inr (.inr (h _ hm t ht))
    · simp only [List.mem_cons, List.not_mem_nil, or_false] at ht
      rcases ht with rfl | rfl
      · exact .inl rfl
      · exact .inr (.inl ⟨_, rfl⟩)
  | _, .refused _ => fun _ ht => .inr (.inl ⟨_, List.mem_singleton.1 ht⟩)

theorem onChannel_tasks {s : Store} {c : Nat} {n : Store → Except ChannelError Unit × Next}
    (h : ∀ t ∈ (n (s.hold (.channel c))).2.tasks, t.isCommon = true) :
    ∀ t ∈ (onChannel s c n).tasks,
      t.isCommon = true ∨ (∃ outcome, t = .answer outcome) ∨ t = .release (.channel c) := by
  intro t ht
  rcases List.mem_append.1 ht with ht | ht
  · exact .inl (h t ht)
  · simp only [List.mem_cons, List.not_mem_nil, or_false] at ht
    exact .inr (ht.symm.imp (fun h => ⟨_, h⟩) id)

theorem Call.run_leadsTo (c : Call) (s : Store) :
    ∀ t ∈ (c.run s).tasks, t.isCommon = true ∨
      s.connection.CallLeadsTo (c.run s).store.connection t := by
  cases c with
  | parse buffer => simp [Call.run, Next.follow, Connection.CallLeadsTo]
  | send f =>
    intro t ht
    rcases tryOnConnection_tasks .sent (fun m hm => send_common hm) t ht with h | h | h
    · exact .inl h
    · exact .inr (.inl h)
    · exact .inl h
  | close =>
    intro t ht
    rcases tryOnConnection_tasks .closed (fun m hm => close_tasks hm) t ht with h | h | h
    · exact .inl h
    · exact .inr (.inl h)
    · exact .inr (.inr (.inr (.inr (.inr (.inl h)))))
  | destroy =>
    intro t ht
    rcases onConnection_tasks (destroy_tasks s.holdHandle) t ht with h | h | h
    · exact .inl h
    · exact .inr (.inl h)
    · exact .inr (.inr (.inr (.inr (.inr (.inr (.inl h))))))
  | transportClosed =>
    intro t ht
    rcases onConnection_tasks (transportClosed_tasks s.holdHandle) t ht with h | h | h
    · exact .inl h
    · exact .inr (.inl h)
    · exact .inr (.inr (.inr (.inr (.inr (.inr (.inr h))))))
  | openChannel =>
    intro t ht
    rcases List.mem_append.1 ht with ht | ht
    · exact (openChannel_tasks _ t ht).imp id fun h => .inr (.inr (.inl ⟨_, h⟩))
    · simp only [List.mem_cons, List.not_mem_nil, or_false] at ht
      rcases ht with rfl | rfl
      · exact .inl rfl
      · exact .inr (.inl ⟨_, rfl⟩)
  | sendOn c body =>
    intro t ht
    refine (onChannel_tasks (c := c) ?_ t ht).imp id ?_
    · split
      · rename_i n h; exact sendOn_common h
      · simp [Next.only]
    · rintro (h | h)
      · exact .inl h
      · exact .inr (.inl ⟨c, h⟩)
  | closeChannel c =>
    intro t ht
    rcases onChannel_tasks (closeChannel_common _ c) t ht with h | h | h
    · exact .inl h
    · exact .inr (.inl h)
    · exact .inr (.inr (.inl ⟨c, h⟩))
  | dropChannel c =>
    intro t ht
    rcases List.mem_append.1 ht with ht | ht
    · exact .inl (whenLost_common _ _ t ht)
    · exact .inr (.inl ⟨_, List.mem_singleton.1 ht⟩)
  | register n | unregister n | cloneHandle | cloneChannel | newEndpoint | setEndpointId
    | dropEndpoint => simp [Call.run, Next.follow, Connection.CallLeadsTo]
  | dropHandle => simp [Call.run, Next.follow, Connection.CallLeadsTo, Task.isCommon]

end Session

/-! ## Notices -/

open Connection

/-- Notices that are put off are of the end of the connection or of a channel. -/
theorem Task.LeadsTo.notice {t t' : Task} {k k' : Connection} {cb : Callback}
    (h : t.LeadsTo k k' t') (ht' : t' = .notify cb ∨ t' = .notifyAlive cb) :
    (k'.state = .closed ∧ (cb = .closed ∨ ∃ text, cb = .error text)) ∨ ∃ c, cb = .channelClosed c := by
  unfold LeadsTo at h
  rcases ht' with rfl | rfl <;> split at h <;> grind [TearsDown, Closes, Reports, Receives]

theorem Connection.CallLeadsTo.notice {t : Task} {k k' : Connection} {cb : Callback}
    (h : k.CallLeadsTo k' t) (ht : t = .notify cb ∨ t = .notifyAlive cb) :
    k'.state = .closed ∧ cb = .closed := by
  rcases ht with rfl | rfl <;> grind [CallLeadsTo, TearsDown, Closes]

theorem Task.LeadsTo.ne_unregister {t t' : Task} {k k' : Connection} (h : t.LeadsTo k k' t')
    (e : EndpointRef) : t' ≠ .unregister e := by
  rintro rfl
  unfold LeadsTo at h
  split at h <;> grind [TearsDown, Closes, Reports, Receives]

theorem Connection.CallLeadsTo.ne_unregister {t : Task} {k k' : Connection} (h : k.CallLeadsTo k' t)
    (e : EndpointRef) : t ≠ .unregister e := by
  rintro rfl
  grind [CallLeadsTo, TearsDown, Closes]

/-! ## Proper tasks -/

theorem Task.isProper_iff (t : Task) : t.isProper = true ↔
    (∀ cb, t = .notify cb ∨ t = .notifyAlive cb → cb.isNotice = true) ∧
      ∀ n, t ≠ .unregister (.custom n) := by
  cases t with
  | unregister e => cases e <;> simp [isProper]
  | _ => simp [isProper]

theorem Task.isProper_of_isCommon {t : Task} (h : t.isCommon = true) : t.isProper = true := by
  cases t with
  | notify | notifyAlive => cases h
  | unregister e =>
    cases e with
    | custom => cases h
    | channel => rfl
  | _ => rfl

theorem Task.LeadsTo.isProper {t t' : Task} {k k' : Connection} (h : t.LeadsTo k k' t') :
    t'.isProper = true := by
  rw [isProper_iff]
  refine ⟨fun cb hcb => ?_, fun n => h.ne_unregister _⟩
  obtain ⟨-, rfl | ⟨text, rfl⟩⟩ | ⟨c, rfl⟩ := h.notice hcb <;> rfl

theorem Connection.CallLeadsTo.isProper {t : Task} {k k' : Connection} (h : k.CallLeadsTo k' t) :
    t.isProper = true := by
  rw [Task.isProper_iff]
  refine ⟨fun cb hcb => ?_, fun n => h.ne_unregister _⟩
  obtain ⟨-, rfl⟩ := h.notice hcb
  rfl

end AmqpSession
