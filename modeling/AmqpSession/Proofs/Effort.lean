/-
Work comes to rest. A task is worth the steps that it can come to (`Task.effort`), and the connection keeps
in reserve what its queue, its registry and its closes can still set going (`Connection.reserve`). Every step
that is not a call makes the sum of both smaller (`effort_lt_of_next?`). So a run without calls is no
longer than this sum (`Trail.length_le_effort`), and if user code only returns, all work is done in the
end (`exists_settles`).
-/
import AmqpSession.Proofs.Allocation
import AmqpSession.Proofs.Incremental
import AmqpSession.Proofs.Passive
import AmqpSession.Proofs.Trail
import Mathlib.Algebra.GroupWithZero.Nat

namespace AmqpSession

open Wire

/-! ## What work is worth -/

/-- How many steps a task comes to at most, with all that follows from it and is not paid for by the
reserve of the connection. A list costs its own end and so much for each of its members. -/
@[simp] def Task.effort : Task → Nat
  | .notify _ | .notifyAlive _ | .clearRegistry => 2
  | .requestHost | .announce | .flowReply _ _ => 3
  | .sendClose | .channelClosedByPeer _ _ => 4
  | .releaseHandle => 5
  | .closedByPeer _ => 6
  | .tuned _ => 7
  | .release _ => 9
  | .invalidateEach es => 1 + 11 * es.length
  | .evict surplus _ => 6 + 13 * surplus.length
  | .closeEach es => 1 + 17 * es.length
  | .parse buffer _ => 10 + 20 * buffer.length
  | .handled none p _ => 11 + 20 * (p.buffer.length - p.size)
  | .handled (some _) p _ => 21 + 20 * (p.buffer.length - p.size)
  | _ => 1

/-- What all tasks of a stack are worth. -/
def efforts (tasks : List Task) : Nat := (tasks.map Task.effort).sum

@[simp] theorem efforts_nil : efforts [] = 0 := rfl

@[simp] theorem efforts_cons (t : Task) (tasks : List Task) :
    efforts (t :: tasks) = t.effort + efforts tasks := by
  simp [efforts]

@[simp] theorem efforts_append (tasks tasks' : List Task) :
    efforts (tasks ++ tasks') = efforts tasks + efforts tasks' := by
  simp [efforts]

theorem efforts_map_release (es : List EndpointRef) : efforts (es.map .release) = 9 * es.length := by
  induction es with
  | nil => rfl
  | cons e es ih =>
    rw [List.map_cons, efforts_cons, ih, List.length_cons]
    show 9 + 9 * es.length = 9 * (es.length + 1)
    omega

/-- What a callback returns does not change what the work below it is worth. -/
theorem efforts_of_map_plain {tasks tasks' : List Task}
    (h : tasks'.map Task.plain = tasks.map Task.plain) : efforts tasks' = efforts tasks := by
  have hplain : ∀ t : Task, t.plain.effort = t.effort := by
    intro t
    cases t with
    | handled e => cases e <;> rfl
    | _ => rfl
  exact congrArg List.sum (Session.map_eq_of_map_plain hplain h)

namespace Connection

/-- How often all channels can still be closed at once: by a close that is not asked for yet, and when
negotiation completes. -/
def closings (k : Connection) : Nat :=
  (if k.closeRequested then 0 else 1) + (if k.state.rank < 2 then 1 else 0)

/-- What the connection can still set going: every frame that it holds back goes out, every entry of its
registry is turned away or cut off, and each of its closings begins with all entries. -/
def reserve (k : Connection) : Nat :=
  2 * k.queue.length + 13 * k.registry.size + k.closings * (5 + 17 * k.registry.size)

variable {k l : Connection}

/-- What becomes of the reserve where entries are taken out and closings are begun. -/
theorem reserve_add_le {m j : Nat} (hq : l.queue.length ≤ k.queue.length)
    (hr : l.registry.size + m ≤ k.registry.size) (hc : l.closings + j ≤ k.closings) :
    l.reserve + 13 * m + j * (5 + 17 * l.registry.size) ≤ k.reserve := by
  have hclosings : (l.closings + j) * (5 + 17 * l.registry.size) ≤
      k.closings * (5 + 17 * k.registry.size) := Nat.mul_le_mul hc (by omega)
  rw [Nat.add_mul] at hclosings
  unfold reserve
  omega

theorem reserve_le (hq : l.queue.length ≤ k.queue.length) (hr : l.registry.size ≤ k.registry.size)
    (hc : l.closings ≤ k.closings) : l.reserve ≤ k.reserve :=
  Nat.le_trans (by omega) (reserve_add_le (m := 0) (j := 0) hq hr hc)

/-- A frame that is held back is worth two steps. -/
theorem reserve_queue (k : Connection) (q : List Frame) :
    reserve { k with queue := q } + 2 * k.queue.length = k.reserve + 2 * q.length := by
  show 2 * q.length + 13 * k.registry.size + k.closings * (5 + 17 * k.registry.size) + _ = _
  rw [reserve]
  omega

end Connection

/-- What work is worth after a task or a call. -/
def Next.effort (n : Next) : Nat := efforts n.tasks + n.store.connection.reserve

/-- So much effort, with the reserve of the connection, pays for what is left to do. -/
def Next.Costs (s : Store) (w : Nat) (n : Next) : Prop := n.effort ≤ w + s.connection.reserve

namespace Next.Costs

variable {s s' : Store} {w w' : Nat} {n : Next}

theorem mono (h : Costs s w n) (hw : w ≤ w') : Costs s w' n :=
  Nat.le_trans h (Nat.add_le_add_right hw _)

theorem lt (h : Costs s w n) (hw : w < w') : n.effort < w' + s.connection.reserve :=
  Nat.lt_of_le_of_lt h (Nat.add_lt_add_right hw _)

/-- The same from a store that has no less in reserve. -/
theorem from_le (h : Costs s' w n) (hs : s'.connection.reserve ≤ s.connection.reserve) : Costs s w n :=
  Nat.le_trans h (Nat.add_le_add_left hs _)

theorem only (hs : s'.connection.reserve ≤ s.connection.reserve) : Costs s w (.only s') :=
  Nat.add_le_add (Nat.zero_le w) hs

theorem follow (tasks : List Task) (hs : s'.connection.reserve ≤ s.connection.reserve) :
    Costs s (efforts tasks) (.follow s' tasks) :=
  Nat.add_le_add_left hs _

/-- A callback costs one step. -/
theorem start (cb : Callback) (tasks : List Task) (hs : s'.connection.reserve ≤ s.connection.reserve) :
    Costs s (1 + efforts tasks) (.start s' cb tasks) := by
  unfold Costs effort
  show efforts (.user cb :: tasks) + s'.connection.reserve ≤ _
  rw [efforts_cons]
  exact Nat.add_le_add_left hs _

theorem andThen (h : Costs s w n) (tasks : List Task) :
    Costs s (w + efforts tasks) (n.andThen tasks) := by
  unfold Costs effort at h ⊢
  show efforts (n.tasks ++ tasks) + n.store.connection.reserve ≤ _
  rw [efforts_append]
  omega

end Next.Costs

/-! ## Operations -/

namespace Store

open Next (Costs)

variable {s : Store} {n : Next}

/-- Nothing new can be set going once negotiation is completed, or as long as it was not. -/
theorem reserve_setState (s : Store) {state : ConnectionState}
    (h : 2 ≤ state.rank ∨ s.connection.state.rank < 2) :
    (s.setState state).connection.reserve ≤ s.connection.reserve := by
  refine Connection.reserve_le (Nat.le_refl _) (Nat.le_refl _) (Nat.add_le_add_left ?_ _)
  show (if state.rank < 2 then 1 else 0) ≤ if s.connection.state.rank < 2 then 1 else 0
  split <;> split <;> omega

/-- A frame goes out at once, or it is held back and the reserve grows. -/
theorem send_costs {f : Frame} (h : s.send f = .ok n) : Costs s 2 n := by
  obtain ⟨octets, -, -, ⟨-, rfl⟩ | ⟨-, rfl⟩⟩ := send_cases h
  · show 1 + s.connection.reserve ≤ 2 + s.connection.reserve
    omega
  · have hreserve : (s.enqueue f).connection.reserve + 2 * s.connection.queue.length =
        s.connection.reserve + 2 * (s.connection.queue ++ [f]).length := s.connection.reserve_queue _
    rw [List.length_append, List.length_singleton] at hreserve
    show 0 + (s.enqueue f).connection.reserve ≤ 2 + s.connection.reserve
    omega

theorem offer_costs (s : Store) (f : Frame) : Costs s 2 (s.offer f) :=
  match s.offer f, s.offers f with
  | _, .sent h => send_costs h
  | _, .unsent _ => .only (Nat.le_refl _)

theorem reply_costs (s : Store) (f : Frame) (tasks : List Task) :
    Costs s (2 + efforts tasks) (s.reply f tasks) :=
  match s.reply f tasks, s.replies f tasks with
  | _, .sent h => (send_costs h).andThen tasks
  | _, .unsent _ => .only (Nat.le_refl _)

theorem closeChannel_costs (s : Store) (c : Nat) : Costs s 7 (s.closeChannel c).2 :=
  match (s.closeChannel c).2, s.closesChannel c with
  | _, .aside _ => .only (Nat.le_refl _)
  | _, .unsent _ _ => .only (Nat.le_refl _)
  | _, .sent _ _ h => ((send_costs h).andThen [.releaseHandle]).from_le (Nat.le_refl _)

theorem closeEndpoint_costs (s : Store) (e : EndpointRef) : Costs s 7 (s.closeEndpoint e) := by
  cases e with
  | channel c => exact s.closeChannel_costs c
  | custom k => exact (Costs.start (.endpointClose k) [] (Nat.le_refl _)).mono (by decide)

theorem DropsChannel.costs {c : Nat} (h : s.DropsChannel c n) : Costs s 8 n := by
  cases h with
  | aside => exact .only (Nat.le_refl _)
  | unsent =>
    exact (Costs.follow [.unregister (.channel c), .releaseHandle] (Nat.le_refl _)).mono
      (by simp)
  | sent _ _ h =>
    exact ((send_costs h).andThen [.unregister (.channel c), .releaseHandle]).from_le (Nat.le_refl _)

theorem whenLost_costs (s : Store) (e : EndpointRef) : Costs s 8 (s.whenLost e) :=
  match e, s.whenLost e, s.loses e with
  | _, _, .aside _ => .only (Nat.le_refl _)
  | _, _, .last _ h => h.costs

/-! ## Closing -/

theorem length_holdRegistered (s : Store) :
    s.holdRegistered.2.length ≤ s.connection.registry.size := by
  refine Nat.le_trans (List.length_filter_le _ _) (Nat.le_of_eq ?_)
  rw [Registry.endpoints_eq_map, List.length_map, Std.TreeMap.length_toList]
  rfl

/-- A close of all channels is paid for by the closing that it is. -/
theorem sendClose_costs {k : Connection} (hq : s.connection.queue = k.queue)
    (hr : s.connection.registry = k.registry) (hc : s.connection.closings < k.closings) :
    s.sendClose.effort ≤ k.reserve := by
  have hreserve := Connection.reserve_add_le (k := k) (l := s.connection) (m := 0) (j := 1)
    (Nat.le_of_eq (congrArg List.length hq)) (Nat.le_of_eq (congrArg Registry.size hr)) hc
  have hlength := s.length_holdRegistered
  show (1 + 17 * s.holdRegistered.2.length) + (4 + 0) + s.holdRegistered.1.connection.reserve ≤ _
  rw [connection_holdRegistered]
  omega

theorem close_costs (h : s.close = .ok n) : Costs s 0 n := by
  have hclosings : s.connection.closeRequested = false →
      (s.mapConnection ({ · with closeRequested := true })).connection.closings < s.connection.closings := by
    intro hc
    unfold Connection.closings
    rw [hc]
    exact Nat.add_lt_add_right Nat.zero_lt_one _
  cases closesConnection h with
  | begun hc =>
    exact Nat.le_trans (sendClose_costs (k := s.connection) rfl rfl (hclosings hc)) (Nat.le_add_left _ _)
  | noted hc =>
    exact .only (Connection.reserve_le (Nat.le_refl _) (Nat.le_refl _) (Nat.le_of_lt (hclosings hc)))

theorem Destroys.costs (h : s.Destroys n) : Costs s 3 n := by
  cases h with
  | aside => exact .only (Nat.le_refl _)
  | closing _ h => exact (close_costs h).andThen [.clearRegistry, .destroyed]
  | closed => exact .follow [.clearRegistry, .destroyed] (Nat.le_refl _)

theorem ReleasesHandle.costs (h : s.ReleasesHandle n) : Costs s 4 n := by
  cases h with
  | last => exact s.destroys.costs.andThen [.loseHandle]
  | other => exact .only (Nat.le_refl _)

/-- Entries that are cut off are paid for by their place in the registry. -/
theorem clearRegistry_costs (s : Store) (tasks : List Task) :
    Costs s (1 + efforts tasks) (.follow s.clearRegistry.1 (.invalidateEach s.clearRegistry.2 :: tasks)) := by
  have hlength : s.clearRegistry.2.length ≤ s.connection.registry.size := s.length_holdRegistered
  have hreserve := Connection.reserve_add_le (k := s.connection) (l := s.clearRegistry.1.connection)
    (m := s.connection.registry.size) (j := 0) (by rw [connection_clearRegistry])
    (by rw [connection_clearRegistry]; exact Nat.le_of_eq (Nat.zero_add _))
    (by rw [connection_clearRegistry]; exact Nat.le_refl _)
  show 1 + 11 * s.clearRegistry.2.length + efforts tasks + s.clearRegistry.1.connection.reserve ≤ _
  omega

theorem shut_costs (s : Store) (tasks : List Task) :
    Costs s (1 + efforts tasks) (.follow s.shut.1 (.invalidateEach s.shut.2 :: tasks)) :=
  ((s.setState .closed).clearRegistry_costs tasks).from_le (s.reserve_setState (.inl (by decide)))

@[simp] theorem efforts_endOfParse (processed : Nat) : efforts (endOfParse processed) = 6 := rfl

theorem report_costs (s : Store) (v : Violation) (processed : Nat) :
    Costs s 9 (s.report v processed) :=
  match s.report v processed, s.reportsFault v processed with
  | _, .late _ => (Costs.follow (endOfParse processed) (Nat.le_refl _)).mono (by simp)
  | _, .shut _ => s.shut_costs (.notify (.error v.message) :: endOfParse processed)

/-! ## Received frames -/

theorem OnConnection.costs {body : Body} (h : s.OnConnection body n) : Costs s 8 n := by
  cases h with
  | heartbeat | fault => exact .only (Nat.le_refl _)
  | offered offer hs =>
    have hrank : s.connection.state.rank < 2 := by rw [hs]; decide
    exact ((reply_costs (s.setState .negotiatingTuning) _ []).from_le
      (s.reserve_setState (.inr hrank))).mono (by simp)
  | tuned theirs => exact .start _ [.tuned _] (Nat.le_refl _)
  | opened =>
    exact (Costs.follow [.announce] (s.reserve_setState (.inl (by decide)))).mono (by simp)
  | openedToClose hs =>
    have hclosings : (s.setState .connected).connection.closings < s.connection.closings := by
      unfold Connection.closings
      rw [hs]
      exact Nat.add_lt_add_left Nat.zero_lt_one _
    have hclose : Costs s 0 (s.setState .connected).sendClose :=
      Nat.le_trans (sendClose_costs (k := s.connection) rfl rfl hclosings) (Nat.le_add_left _ _)
    exact (hclose.andThen [.announce]).mono (by simp)
  | closed reason =>
    exact (Costs.start _ [.closedByPeer reason] (Nat.le_refl _)).mono (by simp)
  | confirmed => exact (s.shut_costs [.notifyAlive .closed]).mono (by simp)
  | blocked | unblocked => exact (Costs.start _ [] (Nat.le_refl _)).mono (by simp)

theorem size_unregister_le (s : Store) (e : EndpointRef) :
    (s.unregister e).connection.registry.size ≤ s.connection.registry.size := by
  show (s.connection.registry.release _ _).size ≤ _
  unfold Registry.release
  split
  · exact Std.TreeMap.size_erase_le
  · exact Nat.le_refl _

theorem reserve_unregister (s : Store) (e : EndpointRef) :
    (s.unregister e).connection.reserve ≤ s.connection.reserve :=
  Connection.reserve_le (Nat.le_refl _) (s.size_unregister_le e) (Nat.le_refl _)

theorem OnChannel.costs {c : Nat} {body : Body} (h : s.OnChannel c body n) : Costs s 8 n := by
  cases h with
  | closes reason => exact (s.reply_costs _ [.channelClosedByPeer c _]).mono (by simp)
  | opened | content => exact (Costs.start _ [] (Nat.le_refl _)).mono (by simp)
  | confirmed =>
    exact (Costs.start _ [] (reserve_unregister (s.detach c) (.channel c))).mono (by simp)
  | flow active => exact (Costs.start _ [.flowReply c active] (Nat.le_refl _)).mono (by simp)
  | passedOver | fault => exact .only (Nat.le_refl _)

theorem TakesIn.costs {f : Frame} {e : Option EndpointRef} (h : s.TakesIn f e n) : Costs s 8 n := by
  have held : ∀ e, (s.hold e).connection.reserve ≤ s.connection.reserve := by
    intro e
    rw [connection_hold]
  cases h with
  | connection _ h => exact h.costs
  | ignored => exact .only (Nat.le_refl _)
  | channel _ _ _ h => exact h.costs.from_le (held _)
  | custom => exact (Costs.start _ [] (held _)).mono (by simp)

/-- The octets of a frame pay for its handling. -/
theorem receive_costs (s : Store) (f : Frame) {p : Parsing}
    (hp : Frame.overhead ≤ p.size ∧ p.size ≤ p.buffer.length) :
    Costs s (9 + 20 * p.buffer.length) (s.receive f p) := by
  obtain ⟨e, n, hn, hr⟩ := s.receive_takesIn f p
  have h := hn.costs.andThen [.handled e p n.fault]
  rw [hr]
  refine Next.Costs.mono (n := n.within f e p) h ?_
  obtain ⟨hoverhead, hbuffer⟩ := hp
  have hhandled : (Task.handled e p n.fault).effort ≤ 21 + 20 * (p.buffer.length - p.size) := by
    cases e with
    | none => exact Nat.add_le_add_right (by decide) _
    | some e => exact Nat.le_refl _
  rw [efforts_cons, efforts_nil]
  unfold Frame.overhead at hoverhead
  omega

theorem parse_costs (s : Store) (buffer : Bytes) (processed : Nat) :
    Costs s (9 + 20 * buffer.length) (s.parse buffer processed) :=
  match s.parse buffer processed, s.parsesNext buffer processed with
  | _, .ended => (Costs.follow (endOfParse processed) (Nat.le_refl _)).mono (by simp; omega)
  | _, .violated _ _ _ => (s.report_costs _ _).mono (Nat.le_add_right _ _)
  | _, .received _ _ h => s.receive_costs _ (Frame.size_of_decode h)

/-! ## Tuning -/

theorem evict_costs (s : Store) (limits : Tune) :
    Costs s 6 (.follow (s.mapRegistry .evict) [.evict s.connection.registry.surplus limits]) := by
  have hreserve := Connection.reserve_add_le (k := s.connection) (l := (s.mapRegistry .evict).connection)
    (m := s.connection.registry.surplus.length) (j := 0) (Nat.le_refl _)
    (Nat.le_of_eq s.connection.registry.size_evict) (Nat.le_refl _)
  show 6 + 13 * s.connection.registry.surplus.length + 0 + (s.mapRegistry .evict).connection.reserve ≤ _
  omega

theorem reserve_discard (s : Store) (id : UInt16) :
    (s.discard id).1.connection.reserve ≤ s.connection.reserve :=
  Connection.reserve_le (List.length_filter_le _ _) (Nat.le_refl _) (Nat.le_refl _)

theorem rejectEndpoint_costs (s : Store) (e : EndpointRef) : Costs s 3 (s.rejectEndpoint e) := by
  cases e with
  | channel c => exact .start _ [.notifyAlive (.channelClosed c)] (Nat.le_refl _)
  | custom k => exact (Costs.start _ [] (Nat.le_refl _)).mono (by simp)

theorem evictNext_costs (s : Store) (surplus : List (UInt16 × EndpointRef)) (limits : Tune) :
    Costs s (5 + 13 * surplus.length) (s.evictNext surplus limits) :=
  match surplus, s.evictNext surplus limits, s.evictsNext surplus limits with
  | _, _, .done => (s.reply_costs _ [.requestHost]).mono (by simp)
  | _, _, .rejected id (e := e) rest _ => by
    have hreserve : ((s.discard id).1.hold e).connection.reserve ≤ s.connection.reserve := by
      rw [connection_hold]
      exact s.reserve_discard id
    have h := ((rejectEndpoint_costs ((s.discard id).1.hold e) e).andThen
      [.release e, .evict rest limits]).from_le hreserve
    exact h.mono (w := _) (by simp; omega)
  | _, _, .gone id rest _ => by
    have h := Costs.follow [.evict rest limits] (s.reserve_discard id)
    exact h.mono (by simp; omega)

theorem invalidateEndpoint_costs (s : Store) (e : EndpointRef) : Costs s 1 (s.invalidateEndpoint e) := by
  cases e with
  | channel c => exact .only (Nat.le_refl _)
  | custom k => exact .start _ [] (Nat.le_refl _)

end Store

/-! ## Tasks -/

open Store Next

theorem Next.costs_ite {s : Store} {w : Nat} {c : Prop} [Decidable c] {n : Next} (h : Costs s w n) :
    Costs s w (if c then n else .only s) := by
  split
  · exact h
  · exact .only (Nat.le_refl _)

/-- A task is worth more than what it leads to. -/
theorem Task.effort_run_lt {t : Task} {s : Store} {n : Next} (h : t.run s = some n) :
    n.effort < t.effort + s.connection.reserve := by
  cases t with
  | user cb => cases h
  | notify cb => cases h; exact (Costs.start cb [] (Nat.le_refl _)).lt (by simp)
  | notifyAlive cb => cases h; exact (costs_ite (.start cb [] (Nat.le_refl _))).lt (by simp)
  | answer outcome => cases h; exact (Costs.only (w := 0) (Nat.le_refl _)).lt (by simp)
  | releaseHandle => cases h; exact s.releasesHandle.costs.lt (by simp)
  | loseHandle => cases h; exact (Costs.only (w := 0) (Nat.le_refl _)).lt (by simp)
  | release e =>
    cases h
    refine ((whenLost_costs (s.lose e) e).from_le ?_).lt (by simp)
    rw [connection_lose]
  | unregister e => cases h; exact (Costs.only (w := 0) (s.reserve_unregister e)).lt (by simp)
  | parse buffer processed => cases h; exact (s.parse_costs buffer processed).lt (by simp)
  | handled e p fault =>
    cases e with
    | some e =>
      cases h
      exact (Costs.follow [.release e, .handled none p fault] (Nat.le_refl _)).lt (by simp; omega)
    | none =>
      cases fault with
      | none =>
        cases h
        exact (Costs.follow [.parse (p.buffer.drop p.size) (p.processed + p.size)] (Nat.le_refl _)).lt
          (by simp)
      | some v =>
        cases h
        exact (s.report_costs v p.processed).lt (Nat.lt_add_right _ (by decide : 9 < 11))
  | tuned limits =>
    cases h
    have hevict := ((s.setLimits limits).evict_costs limits).from_le (s := s) (Nat.le_refl _)
    exact (costs_ite hevict).lt (by simp)
  | evict surplus limits => cases h; exact (costs_ite (s.evictNext_costs surplus limits)).lt (by simp)
  | requestHost => cases h; exact (costs_ite (s.reply_costs _ [])).lt (by simp)
  | announce => cases h; exact (costs_ite (.start .connected [.flush] (Nat.le_refl _))).lt (by simp)
  | flush =>
    cases h
    split
    · rename_i f rest hq
      -- the frame was worth the callback that it goes out with
      have hreserve : (s.mapConnection ({ · with queue := rest })).connection.reserve +
          2 * s.connection.queue.length = s.connection.reserve + 2 * rest.length :=
        s.connection.reserve_queue rest
      rw [hq, List.length_cons] at hreserve
      refine (costs_ite (w := 0) ?_).lt (by simp)
      show 1 + 1 + (s.mapConnection ({ · with queue := rest })).connection.reserve ≤ _
      omega
    · exact (Costs.only (w := 0) (Nat.le_refl _)).lt (by simp)
  | closeEach es =>
    cases es with
    | nil => cases h; exact (Costs.only (w := 0) (Nat.le_refl _)).lt (by simp)
    | cons e es =>
      cases h
      split
      · exact ((s.closeEndpoint_costs e).andThen [.release e, .closeEach es]).lt (by simp; omega)
      · refine (Costs.follow ((e :: es).map .release) (Nat.le_refl _)).lt ?_
        rw [efforts_map_release]
        simp only [Task.effort]
        omega
  | sendClose => cases h; exact (costs_ite ((s.offer_costs _).andThen [.awaitCloseOk])).lt (by simp)
  | awaitCloseOk =>
    cases h
    exact (costs_ite (w := 0) (.only (s.reserve_setState (.inl (by decide))))).lt (by simp)
  | clearRegistry => cases h; exact (s.clearRegistry_costs []).lt (by simp)
  | invalidateEach es =>
    cases es with
    | nil => cases h; exact (Costs.only (w := 0) (Nat.le_refl _)).lt (by simp)
    | cons e es =>
      cases h
      exact ((s.invalidateEndpoint_costs e).andThen [.release e, .invalidateEach es]).lt (by simp; omega)
  | destroyed =>
    cases h
    have hreserve : (s.setState .closed).connection.reserve ≤ s.connection.reserve :=
      s.reserve_setState (.inl (by decide))
    exact (Costs.only (w := 0) hreserve).lt (by simp)
  | closedByPeer reason =>
    cases h
    refine (costs_ite (s.shut_costs (Store.afterPeersClose reason))).lt ?_
    unfold Store.afterPeersClose
    split <;> simp
  | channelClosedByPeer c text =>
    cases h
    exact (Costs.start _ [.notifyAlive (.channelClosed c)]
      (reserve_unregister (s.detach c) (.channel c))).lt (by simp)
  | flowReply c active => cases h; exact (costs_ite (s.reply_costs _ [])).lt (by simp)
  | handOver c => cases h; exact (Costs.only (w := 0) (Nat.le_refl _)).lt (by simp)
  | handOverConnection => cases h; exact (Costs.only (w := 0) (Nat.le_refl _)).lt (by simp)

namespace Session

/-! ## Runs -/

/-- What the work of a session is worth. -/
def effort (σ : Session) : Nat := efforts σ.tasks + σ.store.connection.reserve

variable {σ τ : Session} {a : Option Act} {ms : List Moment}

theorem effort_proceed (n : Next) (log : List Event) (rest : List Task) :
    (proceed n log rest).effort = n.effort + efforts rest := by
  show efforts (n.tasks ++ below n rest) + n.store.connection.reserve = _
  rw [efforts_append, efforts_of_map_plain (map_plain_below n rest), Next.effort]
  omega

/-- Every step makes the work less, unless it is a call. -/
theorem effort_lt_of_next? (h : σ.next? a = some τ) (ha : ∀ c, a ≠ some (.call c)) :
    τ.effort < σ.effort := by
  obtain ⟨t, rest, n, rfl, ht, hn, rfl⟩ | ⟨c, rfl, -, -, rfl⟩ | ⟨r, cb, rest, rfl, ht, rfl⟩ :=
    next?_cases h
  · have hrun := Task.effort_run_lt hn
    rw [effort_proceed, effort, ht, efforts_cons]
    omega
  · exact absurd rfl (ha c)
  · rw [effort, effort, ht, efforts_cons, efforts_of_map_plain (map_plain_answerWith cb r rest)]
    exact Nat.add_lt_add_right (Nat.lt_add_of_pos_left Nat.zero_lt_one) _

/-- A run without calls is no longer than the work that it began with. -/
theorem Trail.length_le_effort {σ₀ : Session} (h : Trail σ₀ ms σ)
    (hc : ∀ m ∈ ms, ∀ c, m.act ≠ some (.call c)) : ms.length + σ.effort ≤ σ₀.effort := by
  induction h with
  | nil => exact Nat.le_of_eq (Nat.zero_add _)
  | cons a h hs ih =>
    obtain ⟨hca, hc⟩ := List.forall_mem_cons.1 hc
    have hlt := effort_lt_of_next? hs hca
    have hle := ih hc
    rw [List.length_cons]
    omega

/-- A step without a call is a task or a return. -/
theorem next?_of_passive? (h : σ.passive? = some τ) :
    ∃ a, σ.next? a = some τ ∧ ∀ c, a ≠ some (.call c) := by
  unfold passive? at h
  split at h
  · rename_i ht
    cases h
    exact ⟨none, ht, nofun⟩
  · exact ⟨some (.return .done), h, nofun⟩

/-- If user code only returns, all work is done in the end. -/
theorem exists_settles (σ : Session) : ∃ τ, σ.Settles τ := by
  induction hk : σ.effort using Nat.strong_induction_on generalizing σ with
  | _ k ih =>
    cases hs : σ.passive? with
    | none => exact ⟨σ, .refl, (passive?_eq_none_iff σ).1 hs⟩
    | some τ =>
      obtain ⟨a, ha, hcall⟩ := next?_of_passive? hs
      obtain ⟨υ, hp, hυ⟩ := ih τ.effort (hk ▸ effort_lt_of_next? ha hcall) τ rfl
      exact ⟨υ, .head hs hp, hυ⟩

end Session

end AmqpSession
