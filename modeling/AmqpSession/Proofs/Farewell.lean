/-
How often user code learns that the connection is closed. Every such notice goes back to a change
of the connection to closed. Two continuations undo or repeat such a change (`closesAgain`): the rest
of the peer's close, which does not look whether the connection was closed while its confirmation
went out, and a close under way, which takes a closed connection for closing. So user code is told
once at most, and once more at most for each of these.
-/
import AmqpSession.Proofs.Forward

namespace AmqpSession

open Wire

/-! ## Notices -/

/-- User code learns that the connection is closed. -/
def Event.isFarewell : Event → Bool
  | .started .closed => true
  | _ => false

/-- User code is to learn that the connection is closed. -/
def Task.isFarewell : Task → Bool
  | .notify .closed | .notifyAlive .closed => true
  | _ => false

/-- How often the connection counts as closed. -/
def Connection.ended (k : Connection) : Nat := if k.state = .closed then 1 else 0

theorem Connection.ended_of_closed {k : Connection} (h : k.state = .closed) : k.ended = 1 := if_pos h

theorem Connection.ended_of_ne {k : Connection} (h : k.state ≠ .closed) : k.ended = 0 := if_neg h

theorem Connection.ended_le_one (k : Connection) : k.ended ≤ 1 := by
  unfold ended
  split <;> omega

theorem Connection.ended_le_of_rank_le {k k' : Connection} (h : k.state.rank ≤ k'.state.rank) :
    k.ended ≤ k'.ended := by
  by_cases hk : k.state = .closed
  · rw [hk] at h
    rw [ended_of_closed hk, ended_of_closed (ConnectionState.eq_closed h)]
  · rw [ended_of_ne hk]
    exact Nat.zero_le _

theorem Task.isFarewell_iff (t : Task) :
    t.isFarewell = true ↔ t = .notify .closed ∨ t = .notifyAlive .closed := by
  cases t with
  | notify cb => cases cb <;> simp [isFarewell]
  | notifyAlive cb => cases cb <;> simp [isFarewell]
  | _ => simp [isFarewell]

theorem Task.isFarewell_of_isCommon {t : Task} (h : t.isCommon = true) : t.isFarewell = false := by
  cases t with
  | notify | notifyAlive => cases h
  | _ => rfl

/-- Notices of the end are left behind by received frames and by the rest of the peer's close. -/
theorem Task.LeadsTo.of_isFarewell {t t' : Task} {k k' : Connection} (h : t.LeadsTo k k' t')
    (hf : t'.isFarewell = true) :
    (∃ buffer processed, t = .parse buffer processed) ∨ ∃ reason, t = .closedByPeer reason := by
  rw [isFarewell_iff] at hf
  unfold LeadsTo at h
  rcases hf with rfl | rfl <;> split at h <;>
    grind [Connection.TearsDown, Connection.Closes, Connection.Reports, Connection.Receives]

theorem Connection.Moves.countP_isFarewell {t : Option Task} {k k' : Connection} {es : List Event}
    (h : Connection.Moves t k es k') (ht : t.all (!·.isFarewell) = true) :
    es.countP Event.isFarewell = 0 := by
  rw [List.countP_eq_zero]
  intro e he hf
  have hstart : e = .started .closed := by
    cases e with
    | started cb => cases cb <;> first | rfl | cases hf
    | _ => cases hf
  rw [hstart] at he
  rcases Task.eq_notify_closed (h.isNoteOf (by simp) he) with rfl | rfl <;> cases ht

/-! ## What makes notices due -/

/-- How many notices are due. -/
def farewellsOf (tasks : List Task) : Nat := tasks.countP Task.isFarewell

@[simp] theorem farewellsOf_append (tasks tasks' : List Task) :
    farewellsOf (tasks ++ tasks') = farewellsOf tasks + farewellsOf tasks' :=
  List.countP_append

theorem farewellsOf_cons (t : Task) (tasks : List Task) :
    farewellsOf (t :: tasks) = farewellsOf [t] + farewellsOf tasks := by
  rw [← List.singleton_append, farewellsOf_append]

theorem farewellsOf_eq_zero {tasks : List Task} (h : ∀ t ∈ tasks, t.isFarewell = false) :
    farewellsOf tasks = 0 := by
  refine List.countP_eq_zero.2 fun t ht => ?_
  simp [h t ht]

theorem farewellsOf_map_plain {tasks tasks' : List Task}
    (h : tasks'.map Task.plain = tasks.map Task.plain) : farewellsOf tasks' = farewellsOf tasks := by
  have hplain : ∀ t : Task, t.plain.isFarewell = t.isFarewell := by
    intro t
    cases t <;> rfl
  exact Session.countP_eq_of_map_plain hplain h

namespace Store

theorem ended_shut (s : Store) : s.shut.1.connection.ended = 1 :=
  Connection.ended_of_closed (by rw [connection_shut])

theorem report_farewells (s : Store) (v : Violation) (processed : Nat) :
    farewellsOf (s.report v processed).tasks = 0 := by
  refine farewellsOf_eq_zero fun t ht => ?_
  rcases report_tasks s v processed t ht with h | rfl | ⟨-, -, ⟨es, rfl⟩ | ⟨v, rfl⟩⟩
  · exact Task.isFarewell_of_isCommon h
  · rfl
  · rfl
  · rfl

/-- One notice is due for the confirmation of a close. -/
theorem OnConnection.farewells {s : Store} {body : Body} {n : Next} (h : s.OnConnection body n) :
    farewellsOf n.tasks ≤ n.store.connection.ended := by
  cases h with
  | offered =>
    refine Nat.le_trans (Nat.le_of_eq (farewellsOf_eq_zero fun t ht => ?_)) (Nat.zero_le _)
    exact (reply_tasks _ _ _ t ht).elim Task.isFarewell_of_isCommon fun h => by cases h
  | confirmed => exact Nat.le_of_eq s.ended_shut.symm
  | heartbeat | fault | tuned | opened | openedToClose | closed | blocked | unblocked =>
    exact Nat.zero_le _

theorem OnChannel.farewells {s : Store} {c : Nat} {body : Body} {n : Next} (h : s.OnChannel c body n) :
    farewellsOf n.tasks = 0 := by
  refine farewellsOf_eq_zero fun t ht => ?_
  -- the frame goes to a channel, whatever becomes of the connection
  rcases h.tasks (.new .standard) t ht with
    h | ⟨e, p, v, rfl⟩ | ⟨limits, rfl⟩ | ⟨reason, rfl⟩ | ⟨hs, -⟩ | ⟨c, text, rfl⟩ | ⟨c, active, rfl⟩
  · exact Task.isFarewell_of_isCommon h
  · rfl
  · rfl
  · rfl
  · cases hs
  · rfl
  · rfl

theorem receive_farewells (s : Store) (f : Frame) (p : Parsing) :
    farewellsOf (s.receive f p).tasks ≤ (s.receive f p).store.connection.ended := by
  obtain ⟨e, n, hn, hr⟩ := s.receive_takesIn f p
  have hdue : farewellsOf (n.within f e p).tasks = farewellsOf n.tasks := farewellsOf_append ..
  rw [hr, hdue]
  cases hn with
  | connection _ h => exact h.farewells
  | ignored | custom => exact Nat.zero_le _
  | channel _ _ _ h => exact h.farewells ▸ Nat.zero_le _

/-- No frame is taken off a buffer on a closed connection. -/
theorem parse_farewells (s : Store) (buffer : Bytes) (processed : Nat) :
    farewellsOf (s.parse buffer processed).tasks + s.connection.ended ≤
      (s.parse buffer processed).store.connection.ended := by
  match s.parse buffer processed, s.parsesNext buffer processed with
  | _, .ended => exact Nat.le_of_eq (Nat.zero_add _)
  | _, .violated _ hs _ =>
    rw [Connection.ended_of_ne hs, report_farewells]
    exact Nat.zero_le _
  | _, .received _ hs _ =>
    rw [Connection.ended_of_ne hs]
    exact receive_farewells s _ _

theorem transportClosed_farewells (s : Store) :
    farewellsOf s.transportClosed.tasks + s.connection.ended ≤
      s.transportClosed.store.connection.ended := by
  match s.transportClosed, s.losesTransport with
  | _, .aside _ => exact Nat.le_of_eq (Nat.zero_add _)
  | _, .shut hs =>
    rw [Connection.ended_of_ne hs]
    exact Nat.le_of_eq s.ended_shut.symm

theorem afterPeersClose_farewells (reason : Close) : farewellsOf (afterPeersClose reason) = 1 := by
  unfold afterPeersClose
  split <;> rfl

end Store

/-! ## Tasks and calls -/

open Store

/-- A notice is due only after a change to closed, but for the two continuations that do not look. -/
theorem Task.run_farewells {t : Task} {s : Store} {n : Next} (ht : t.isProper = true)
    (ha : t ≠ .awaitCloseOk) (hp : ∀ reason, t ≠ .closedByPeer reason) (h : t.run s = some n) :
    n.log.countP Event.isFarewell + farewellsOf n.tasks + s.connection.ended ≤
      farewellsOf [t] + n.store.connection.ended := by
  by_cases hf : t.isFarewell = true
  · rcases (isFarewell_iff t).1 hf with rfl | rfl
    · cases h
      exact Nat.le_refl _
    · cases h
      split
      · exact Nat.le_refl _
      · exact Nat.add_le_add_right (Nat.zero_le _) _
  · rw [Bool.not_eq_true] at hf
    rcases Task.run_moves ht h with hm | hc
    · have hlog : n.log.countP Event.isFarewell = 0 := hm.countP_isFarewell (by simp [hf])
      have hrank := Connection.ended_le_of_rank_le (hm.rank_le (by simpa using ha))
      by_cases hparse : ∃ buffer processed, t = .parse buffer processed
      · obtain ⟨buffer, processed, rfl⟩ := hparse
        cases h
        have := parse_farewells s buffer processed
        omega
      · -- of what can leave a notice behind, parsing and the peer's close are left out here
        have hnone : farewellsOf n.tasks = 0 := by
          refine farewellsOf_eq_zero fun t' ht' => Bool.eq_false_iff.2 fun hf' => ?_
          rcases Task.run_tasks (fun b p he => hparse ⟨b, p, he⟩) h t' ht' with hcommon | hl
          · rw [isFarewell_of_isCommon hcommon] at hf'
            cases hf'
          · rcases hl.of_isFarewell hf' with ⟨b, p, rfl⟩ | ⟨reason, rfl⟩
            · exact hparse ⟨b, p, rfl⟩
            · exact hp reason rfl
        omega
    · -- negotiation is completed, and nothing was closed
      obtain ⟨f, hlog⟩ := hc.log
      obtain ⟨p, htasks⟩ := hc.tasks
      have hended : s.connection.ended = 0 := Connection.ended_of_ne (by rw [hc.tuning]; simp)
      have hnone : farewellsOf n.tasks = 0 := by
        rcases htasks with htasks | ⟨es, htasks⟩ <;> rw [htasks] <;> rfl
      have hnote : n.log.countP Event.isFarewell = 0 := by rw [hlog]; rfl
      omega

theorem Task.run_closedByPeer_farewells {reason : Close} {s : Store} {n : Next}
    (h : (Task.closedByPeer reason).run s = some n) :
    n.log.countP Event.isFarewell + farewellsOf n.tasks + s.connection.ended ≤
      n.store.connection.ended +
        if s.connection.alive = true ∧ s.connection.state = .closed then 1 else 0 := by
  cases h
  split
  · rename_i ha
    have hdue : farewellsOf (.invalidateEach s.shut.2 :: afterPeersClose reason) = 1 :=
      (farewellsOf_cons _ _).trans (by rw [afterPeersClose_farewells]; rfl)
    dsimp only [Next.follow]
    rw [ended_shut, hdue, List.countP_nil]
    by_cases hs : s.connection.state = .closed
    · rw [Connection.ended_of_closed hs, if_pos ⟨ha, hs⟩]
    · rw [Connection.ended_of_ne hs]
      exact Nat.le_add_right _ _
  · show 0 + s.connection.ended ≤ s.connection.ended + _
    omega

namespace Session

theorem TearsDown.isFarewell {k : Connection} {t : Task} (h : k.TearsDown t) :
    t.isFarewell = false := by
  obtain ⟨-, ⟨-, rfl | ⟨es, rfl⟩⟩ | rfl | rfl⟩ := h <;> rfl

/-- Of all calls only one makes a notice due. -/
theorem Call.isFarewell_of_mem {c : Call} (hc : c ≠ .transportClosed) {s : Store} {t : Task}
    (ht : t ∈ (c.run s).tasks) : t.isFarewell = false := by
  have answered : ∀ {P : Prop}, (P → t.isFarewell = false) →
      (t.isCommon = true ∨ (∃ outcome, t = .answer outcome) ∨ P) → t.isFarewell = false := by
    rintro P hP (h | ⟨outcome, rfl⟩ | h)
    · exact Task.isFarewell_of_isCommon h
    · rfl
    · exact hP h
  cases c with
  | transportClosed => exact absurd rfl hc
  | send f =>
    exact answered Task.isFarewell_of_isCommon
      (tryOnConnection_tasks .sent (fun m hm => send_common hm) t ht)
  | close =>
    refine answered ?_ (tryOnConnection_tasks .closed (fun m hm => close_tasks hm) t ht)
    rintro ⟨-, rfl | ⟨es, rfl⟩⟩ <;> rfl
  | destroy =>
    exact answered TearsDown.isFarewell (onConnection_tasks (destroy_tasks s.holdHandle) t ht)
  | openChannel =>
    rcases List.mem_append.1 ht with ht | ht
    · rcases openChannel_tasks _ t ht with h | rfl
      · exact Task.isFarewell_of_isCommon h
      · rfl
    · simp only [List.mem_cons, List.not_mem_nil, or_false] at ht
      rcases ht with rfl | rfl <;> rfl
  | sendOn c body =>
    refine answered ?_ (onChannel_tasks (c := c) ?_ t ht)
    · rintro rfl; rfl
    · split
      · rename_i n h; exact sendOn_common h
      · simp [Next.only]
  | closeChannel c =>
    refine answered ?_ (onChannel_tasks (closeChannel_common _ c) t ht)
    rintro rfl; rfl
  | dropChannel c =>
    rcases List.mem_append.1 ht with ht | ht
    · exact Task.isFarewell_of_isCommon (whenLost_common _ _ t ht)
    · rw [List.mem_singleton.1 ht]; rfl
  | parse buffer => rw [List.mem_singleton.1 ht]; rfl
  | dropHandle =>
    simp only [Call.run, Next.follow, List.mem_cons, List.not_mem_nil, or_false] at ht
    rcases ht with rfl | rfl <;> rfl
  | register | unregister | cloneHandle | cloneChannel | newEndpoint | setEndpointId
    | dropEndpoint => rw [List.mem_singleton.1 ht]; rfl

/-- A call makes one notice due at most, and none on a closed connection. -/
theorem Call.run_farewells (c : Call) (s : Store) :
    (c.run s).log.countP Event.isFarewell + farewellsOf (c.run s).tasks + s.connection.ended ≤
      (c.run s).store.connection.ended := by
  have hm := c.run_moves (t := none) s fun _ => rfl
  have hlog := hm.countP_isFarewell rfl
  by_cases hc : c = .transportClosed
  · subst hc
    have h := transportClosed_farewells s.holdHandle
    have hdue : farewellsOf (Call.run .transportClosed s).tasks =
        farewellsOf s.holdHandle.transportClosed.tasks := farewellsOf_append _ _
    rw [hlog, hdue, Nat.zero_add]
    exact h
  · have hnone : farewellsOf (c.run s).tasks = 0 :=
      farewellsOf_eq_zero fun t ht => Call.isFarewell_of_mem hc ht
    have hrank := Connection.ended_le_of_rank_le (hm.rank_le (by simp))
    omega

/-! ## One step -/

/-- The step closes a connection that is closed already, or takes it for closing. -/
def closesAgain (σ : Session) : Bool :=
  σ.overtaken || match σ.tasks with
    | .closedByPeer _ :: _ => σ.store.connection.alive && σ.state = .closed
    | _ => false

/-- The notices that user code got or is to get. -/
def farewells (σ : Session) : Nat := σ.log.countP Event.isFarewell + farewellsOf σ.tasks

theorem farewells_proceed (n : Next) (log : List Event) (rest : List Task) :
    farewells (proceed n log rest) =
      n.log.countP Event.isFarewell + farewellsOf n.tasks +
        (log.countP Event.isFarewell + farewellsOf rest) := by
  have hlog : (proceed n log rest).log = n.log.reverse ++ log := rfl
  rw [farewells, proceed_tasks, hlog, List.countP_append, List.countP_reverse, farewellsOf_append,
    farewellsOf_map_plain (map_plain_below n rest)]
  omega

/-- A new notice needs a connection that was not closed before, or a step that closes it again. -/
theorem Step.farewells_le {σ τ : Session} (hσ : σ.Reachable) (h : Step σ τ) :
    farewells τ + σ.store.connection.ended ≤
      farewells σ + τ.store.connection.ended + if σ.closesAgain then 1 else 0 := by
  obtain ⟨t, rest, n, ht, hn, rfl⟩ | ⟨c, -, -, rfl⟩ | ⟨cb, r, rest, ht, rfl⟩ := h.cases_on_stack
  · have hdue : farewells σ =
        farewellsOf [t] + (σ.log.countP Event.isFarewell + farewellsOf rest) := by
      rw [farewells, ht, farewellsOf_cons]
      omega
    have hstore : (proceed n σ.log rest).store = n.store := rfl
    rw [farewells_proceed, hdue, hstore]
    cases t with
    | awaitCloseOk =>
      have hno : n.log.countP Event.isFarewell + farewellsOf n.tasks = 0 := by
        cases hn
        split <;> rfl
      by_cases ho : σ.overtaken = true
      · -- a closed connection counts as closing from now on, and this is the step that is paid for
        have hagain : σ.closesAgain = true := by rw [closesAgain, ho, Bool.true_or]
        have hle := σ.store.connection.ended_le_one
        rw [if_pos hagain]
        omega
      · have hrank := Connection.ended_le_of_rank_le
          ((h.rank_le_iff hσ).2 (Bool.not_eq_true _ ▸ ho))
        rw [hstore] at hrank
        omega
    | closedByPeer reason =>
      have hagain : σ.closesAgain = true ↔
          σ.store.connection.alive = true ∧ σ.store.connection.state = .closed := by
        simp only [closesAgain, overtaken, ht, Bool.false_or, Bool.and_eq_true, decide_eq_true_eq]
        exact Iff.rfl
      have hle := Task.run_closedByPeer_farewells hn
      simp only [hagain]
      omega
    | _ =>
      have hproper := hσ.isProper _ (by rw [ht]; exact List.mem_cons_self)
      have hle := Task.run_farewells hproper (by simp) (by simp) hn
      omega
  · have hle := c.run_farewells σ.store
    have hstore : (proceed (c.run σ.store) σ.log σ.tasks).store = (c.run σ.store).store := rfl
    rw [farewells_proceed, hstore, farewells]
    omega
  · have hdue : farewells { σ with tasks := answerWith cb r rest } = farewells σ := by
      rw [farewells, farewells, farewellsOf_map_plain (map_plain_answerWith cb r rest), ht,
        farewellsOf_cons]
      exact congrArg _ (Nat.zero_add _).symm
    rw [hdue]
    exact Nat.le_add_right _ _

/-! ## Whole runs -/

theorem farewells_le_of_isChain {σ : Session} {run : List Session} (hσ : σ.Reachable)
    (h : (σ :: run).IsChain Step) :
    farewells ((σ :: run).getLast (List.cons_ne_nil σ run)) + σ.store.connection.ended ≤
      farewells σ + 1 + (σ :: run).dropLast.countP closesAgain := by
  induction run generalizing σ with
  | nil =>
    simpa using σ.store.connection.ended_le_one
  | cons τ run ih =>
    rw [List.isChain_cons_cons] at h
    have hrest := ih (hσ.step h.1) h.2
    have hstep := h.1.farewells_le hσ
    rw [List.getLast_cons (List.cons_ne_nil τ run), List.dropLast_cons_cons, List.countP_cons]
    omega

theorem farewells_connect (o : Options) : farewells (connect o) = 0 := by
  have hlog : (connect o).log.countP Event.isFarewell = 0 := by
    rw [← List.countP_reverse]
    exact (connect_works o).1.countP_isFarewell rfl
  have hdue : farewellsOf (connect o).tasks = 0 :=
    farewellsOf_eq_zero (connect_tasks o (fun _ => Task.isFarewell_of_isCommon) rfl rfl)
  rw [farewells, hlog, hdue]

/-- User code learns that the connection is closed once at most, and once more at most for each step
that closes it again. -/
theorem run_farewells_le {o : Options} {run : List Session} (h : (connect o :: run).IsChain Step) :
    ((connect o :: run).getLast (List.cons_ne_nil _ run)).log.countP Event.isFarewell ≤
      1 + (connect o :: run).dropLast.countP closesAgain := by
  have hle := farewells_le_of_isChain ⟨o, .refl⟩ h
  rw [farewells_connect, farewells] at hle
  omega

/-- What the peer sends to close the connection. -/
def peersClose : Bytes := (Frame.ofConnection (.close (.plain replySuccess "bye"))).toWire.octets

/-- User code that does nothing meanwhile is told once. -/
theorem run_farewells_passive :
    ∃ run : List Session, (connect .standard :: run).IsChain Step ∧
      (∃ σ ∈ run, σ.log.countP Event.isFarewell = 1) ∧
      ((connect .standard :: run).getLast (List.cons_ne_nil _ run)).log.countP Event.isFarewell ≤ 1 := by
  have hchain := isChain_visits (connect .standard)
    (establish ++ [some (.call (.parse peersClose)), none] ++ pass 0 ++ pass 3)
  refine ⟨_, hchain, by decide +kernel, ?_⟩
  have hagain : (connect .standard :: (connect .standard).visits
      (establish ++ [some (.call (.parse peersClose)), none] ++ pass 0 ++ pass 3)).dropLast.countP
        closesAgain = 0 := by decide +kernel
  have hle := run_farewells_le hchain
  rwa [hagain] at hle

/-- If the transport fails while the confirmation of the peer's close goes out, user code is told
twice. -/
theorem told_twice_of_peers_close :
    ∃ σ : Session, σ.Reachable ∧ σ.log.countP Event.isFarewell = 2 := by
  obtain ⟨σ, hσ, he⟩ := exists_reaches_of_play
    (establish ++ [some (.call (.parse peersClose)), none, some (.call .transportClosed)] ++ pass 2 ++
      [none, none] ++ pass 0 ++ pass 3) (connect .standard)
    (fun σ => σ.log.countP Event.isFarewell) (a := 2) (by decide +kernel)
  exact ⟨σ, ⟨.standard, hσ⟩, he⟩

end Session

end AmqpSession
