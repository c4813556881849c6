/-
Handles that work holds. Every handle of the connection that user code does not own belongs to one
task that is left to do (`Reachable.held_eq`), so a connection that user code has a handle of is not
destroyed for want of handles.
-/
import AmqpSession.Proofs.Step
import Mathlib.Algebra.GroupWithZero.Nat

namespace AmqpSession

open Wire

/-! ## Who holds a handle -/

/-- How many handles a task holds until it is done, or passes on. -/
def Task.handles : Task → Nat
  | .releaseHandle | .loseHandle | .parse _ _ | .handled _ _ _ | .handOverConnection => 1
  | _ => 0

/-- How many handles the work that is left holds or passes on. -/
def handlesOf (tasks : List Task) : Nat := (tasks.map Task.handles).sum

@[simp] theorem handlesOf_cons (t : Task) (tasks : List Task) :
    handlesOf (t :: tasks) = t.handles + handlesOf tasks := by
  simp [handlesOf]

@[simp] theorem handlesOf_append (tasks tasks' : List Task) :
    handlesOf (tasks ++ tasks') = handlesOf tasks + handlesOf tasks' := by
  simp [handlesOf]

theorem handlesOf_map_release (es : List EndpointRef) : handlesOf (es.map .release) = 0 := by
  induction es with
  | nil => rfl
  | cons e es ih => rw [List.map_cons, handlesOf_cons, ih]; rfl

/-- What work in place of `w` handles does to their count. -/
def Next.Holds (s : Store) (w : Nat) (n : Next) : Prop :=
  n.store.connection.held + w = s.connection.held + handlesOf n.tasks

namespace Next.Holds

variable {s s' : Store} {w : Nat} {n : Next}

theorem follow (tasks : List Task) (h : s'.connection.held = s.connection.held) :
    Holds s (handlesOf tasks) (.follow s' tasks) := by
  show s'.connection.held + handlesOf tasks = s.connection.held + handlesOf tasks
  rw [h]

theorem andThen (h : Holds s w n) (tasks : List Task) :
    Holds s (w + handlesOf tasks) (n.andThen tasks) := by
  unfold Holds at h ⊢
  show n.store.connection.held + (w + handlesOf tasks) =
    s.connection.held + handlesOf (n.tasks ++ tasks)
  rw [handlesOf_append]
  omega

/-- A handle is held until the work is done. -/
theorem released (h : Holds s.holdHandle w n) (tasks : List Task) (ht : handlesOf tasks = 0) :
    Holds s w (n.andThen (.releaseHandle :: tasks)) := by
  unfold Holds at h ⊢
  show n.store.connection.held + w =
    s.connection.held + handlesOf (n.tasks ++ .releaseHandle :: tasks)
  rw [handlesOf_append, handlesOf_cons, ht]
  rw [Store.connection_holdHandle] at h
  show n.store.connection.held + w = s.connection.held + (handlesOf n.tasks + (1 + 0))
  dsimp only at h
  omega

/-- The same from a store that holds as many handles. -/
theorem from_eq (h : Holds s' w n) (hs : s'.connection.held = s.connection.held) : Holds s w n := by
  unfold Holds at h ⊢
  rw [h, hs]

end Next.Holds

/-! ## Operations -/

namespace Store

open Next (Holds)

theorem send_holds {s : Store} {f : Frame} {n : Next} (h : s.send f = .ok n) : Holds s 0 n := by
  obtain ⟨octets, -, -, ⟨-, rfl⟩ | ⟨-, rfl⟩⟩ := send_cases h <;> rfl

theorem offer_holds (s : Store) (f : Frame) : Holds s 0 (s.offer f) :=
  match s.offer f, s.offers f with
  | _, .sent h => send_holds h
  | _, .unsent _ => rfl

theorem reply_holds (s : Store) (f : Frame) {tasks : List Task} (ht : handlesOf tasks = 0) :
    Holds s 0 (s.reply f tasks) :=
  match s.reply f tasks, s.replies f tasks with
  | _, .sent h => by
    have := (send_holds h).andThen tasks
    rwa [ht] at this
  | _, .unsent _ => rfl

theorem held_setChannelState (s : Store) (c : Nat) (state : ChannelState) :
    (s.setChannelState c state).connection.held = s.connection.held := rfl

theorem closeChannel_holds (s : Store) (c : Nat) : Holds s 0 (s.closeChannel c).2 :=
  match (s.closeChannel c).2, s.closesChannel c with
  | _, .aside _ => rfl
  | _, .unsent _ _ => rfl
  | _, .sent _ _ h =>
    ((send_holds h).released [] rfl).from_eq (s.held_setChannelState c .closing)

theorem sendOn_holds {s : Store} {c : Nat} {body : Body} {n : Next} (h : s.sendOn c body = .ok n) :
    Holds s 0 n := by
  obtain ⟨-, -, m, hm, rfl⟩ := sendOn_eq_ok h
  exact (send_holds hm).released [] rfl

theorem DropsChannel.holds {s : Store} {c : Nat} {n : Next} (h : s.DropsChannel c n) :
    Holds s 0 n := by
  cases h with
  | aside | unsent => rfl
  | sent _ _ h =>
    have := ((send_holds h).andThen [.unregister (.channel c)]).released [] rfl
    rwa [Next.andThen, Next.andThen, List.append_assoc] at this

theorem whenLost_holds (s : Store) (e : EndpointRef) : Holds s 0 (s.whenLost e) :=
  match e, s.whenLost e, s.loses e with
  | _, _, .aside _ => rfl
  | _, _, .last _ h => h.holds

theorem openChannel_holds (s : Store) : Holds s 0 s.openChannel.2 := by
  obtain ⟨e, h, -⟩ | ⟨id, r, n, -, -, hn, h⟩ := s.openChannel_cases
  · rw [h]
    rfl
  · rw [h]
    exact ((send_holds hn).andThen [.handOver s.channels.length] : Holds _ 0 _)

theorem sendClose_holds (s : Store) : Holds s 0 s.sendClose := by
  refine Holds.follow [.closeEach _, .sendClose] ?_
  show s.holdRegistered.1.connection.held = _
  rw [connection_holdRegistered]

theorem close_holds {s : Store} {n : Next} (h : s.close = .ok n) : Holds s 0 n := by
  cases closesConnection h with
  | begun => exact (sendClose_holds _).from_eq rfl
  | noted => rfl

theorem Destroys.holds {s : Store} {n : Next} (h : s.Destroys n) : Holds s 0 n := by
  cases h with
  | aside | closed => rfl
  | closing _ h => exact (close_holds h).andThen [.clearRegistry, .destroyed]

theorem held_shut (s : Store) : s.shut.1.connection.held = s.connection.held := by
  rw [connection_shut]

theorem shut_holds (s : Store) :
    Holds s 0 (.follow s.shut.1 [.invalidateEach s.shut.2, .notifyAlive .closed]) :=
  Holds.follow [.invalidateEach _, .notifyAlive .closed] s.held_shut

theorem transportClosed_holds (s : Store) : Holds s 0 s.transportClosed :=
  match s.transportClosed, s.losesTransport with
  | _, .aside _ => rfl
  | _, .shut _ => s.shut_holds

theorem report_holds (s : Store) (v : Violation) (processed : Nat) :
    Holds s 1 (s.report v processed) := by
  match s.report v processed, s.reportsFault v processed with
  | _, .late _ => exact Holds.follow (endOfParse processed) rfl
  | _, .shut _ => exact Holds.follow ([.invalidateEach _, .notify _] ++ endOfParse processed) s.held_shut

/-! ## Received frames -/

theorem OnConnection.holds {s : Store} {body : Body} {n : Next} (h : s.OnConnection body n) :
    Holds s 0 n := by
  cases h with
  | offered => exact (reply_holds (s.setState .negotiatingTuning) _ rfl).from_eq rfl
  | openedToClose => exact ((sendClose_holds (s.setState .connected)).andThen [.announce]).from_eq rfl
  | confirmed => exact s.shut_holds
  | heartbeat | fault | tuned | opened | closed | blocked | unblocked => rfl

theorem OnChannel.holds {s : Store} {c : Nat} {body : Body} {n : Next} (h : s.OnChannel c body n) :
    Holds s 0 n := by
  cases h with
  | closes reason => exact reply_holds s _ rfl
  | opened | confirmed | flow | content | passedOver | fault => rfl

theorem receive_holds (s : Store) (f : Frame) (p : Parsing) : Holds s 1 (s.receive f p) := by
  obtain ⟨e, n, hn, hr⟩ := s.receive_takesIn f p
  have h : Holds s 0 n := by
    cases hn with
    | connection _ h => exact h.holds
    | ignored => rfl
    | channel _ _ _ h => exact h.holds.from_eq (by rw [connection_hold])
    | @custom _ _ k =>
      have hk : Holds (s.hold (.custom k)) 0 (.start (s.hold (.custom k)) (.endpointFrame k f) []) :=
        rfl
      exact hk.from_eq (by rw [connection_hold])
  rw [hr]
  exact (h.andThen [.handled e p n.fault] : Holds s 1 _)

theorem parse_holds (s : Store) (buffer : Bytes) (processed : Nat) :
    Holds s 1 (s.parse buffer processed) :=
  match s.parse buffer processed, s.parsesNext buffer processed with
  | _, .ended => rfl
  | _, .violated _ _ _ => report_holds s _ _
  | _, .received _ _ _ => receive_holds s _ _

/-! ## Tuning and closing -/

theorem evictNext_holds (s : Store) (surplus : List (UInt16 × EndpointRef)) (limits : Tune) :
    Holds s 0 (s.evictNext surplus limits) :=
  match surplus, s.evictNext surplus limits, s.evictsNext surplus limits with
  | _, _, .done => reply_holds s _ rfl
  | _, _, .rejected id (e := e) rest _ => by
    have h : Holds ((s.discard id).1.hold e) 0
        ((((s.discard id).1.hold e).rejectEndpoint e).andThen [.release e, .evict rest limits]) := by
      cases e <;> rfl
    exact h.from_eq (by rw [connection_hold]; rfl)
  | _, _, .gone id rest _ => rfl

theorem closeEndpoint_holds (s : Store) (e : EndpointRef) : Holds s 0 (s.closeEndpoint e) := by
  cases e with
  | channel c => exact closeChannel_holds s c
  | custom n => rfl

end Store

/-! ## Tasks and calls -/

open Store Next

theorem Next.holds_ite {s : Store} {c : Prop} [Decidable c] {n : Next} (h : Holds s 0 n) :
    Holds s 0 (if c then n else .only s) := by
  split
  · exact h
  · rfl

/-- A task passes on the handles that it holds, or lets go of them. -/
theorem Task.run_holds {t : Task} {s : Store} {n : Next} (ht : t.handles ≤ s.connection.held)
    (h : t.run s = some n) : Holds s t.handles n := by
  cases t with
  | user cb => cases h
  | notify cb => cases h; rfl
  | notifyAlive cb => cases h; exact holds_ite rfl
  | answer outcome => cases h; rfl
  | releaseHandle =>
    cases h
    match s.releaseHandle, s.releasesHandle with
    | _, .last _ => exact s.destroys.holds.andThen [.loseHandle]
    | _, .other _ => exact Nat.sub_add_cancel ht
  | loseHandle => cases h; exact Nat.sub_add_cancel ht
  | release e =>
    cases h
    exact (whenLost_holds (s.lose e) e).from_eq (by rw [connection_lose])
  | unregister e => cases h; rfl
  | parse buffer processed => cases h; exact parse_holds s buffer processed
  | handled e p fault =>
    cases e with
    | some e => cases h; rfl
    | none =>
      cases fault with
      | none => cases h; rfl
      | some v => cases h; exact report_holds s v _
  | tuned limits => cases h; exact holds_ite rfl
  | evict surplus limits => cases h; exact holds_ite (evictNext_holds s surplus limits)
  | requestHost => cases h; exact holds_ite (reply_holds s _ rfl)
  | announce => cases h; exact holds_ite rfl
  | flush =>
    cases h
    split
    · exact holds_ite rfl
    · rfl
  | closeEach es =>
    cases es with
    | nil => cases h; rfl
    | cons e es =>
      cases h
      split
      · exact (closeEndpoint_holds s e).andThen [.release e, .closeEach es]
      · have := Holds.follow ((e :: es).map .release) (rfl : s.connection.held = _)
        rwa [handlesOf_map_release] at this
  | sendClose => cases h; exact holds_ite ((offer_holds s _).andThen [.awaitCloseOk])
  | awaitCloseOk => cases h; split <;> rfl
  | clearRegistry =>
    cases h
    refine Holds.follow [.invalidateEach _] ?_
    show s.clearRegistry.1.connection.held = _
    rw [connection_clearRegistry]
  | invalidateEach es =>
    cases es with
    | nil => cases h; rfl
    | cons e es => cases h; cases e <;> rfl
  | destroyed => cases h; rfl
  | closedByPeer reason =>
    cases h
    refine holds_ite ?_
    have := Holds.follow (.invalidateEach s.shut.2 :: Store.afterPeersClose reason) s.held_shut
    have hz : handlesOf (.invalidateEach s.shut.2 :: Store.afterPeersClose reason) = 0 := by
      unfold afterPeersClose
      split <;> rfl
    rwa [hz] at this
  | channelClosedByPeer c text => cases h; rfl
  | flowReply c active => cases h; exact holds_ite (reply_holds s _ rfl)
  | handOver c => cases h; rfl
  | handOverConnection => cases h; exact Nat.sub_add_cancel ht

namespace Session

theorem onChannel_holds {s : Store} {c : Nat} {n : Store → Except ChannelError Unit × Next}
    (h : Holds (s.hold (.channel c)) 0 (n (s.hold (.channel c))).2) : Holds s 0 (onChannel s c n) := by
  refine Holds.from_eq (h.andThen [.release (.channel c), .answer (.channel _)]) ?_
  rw [connection_hold]

theorem tryOnConnection_holds {ε : Type} {s : Store} (outcome : Except ε Unit → Outcome)
    {n : Store → Except ε Next} (h : ∀ m, n s.holdHandle = .ok m → Holds s.holdHandle 0 m) :
    Holds s 0 (tryOnConnection s outcome n) :=
  match tryOnConnection s outcome n, tries s outcome n with
  | _, .accepted hm => (h _ hm).released [.answer _] rfl
  | _, .refused _ => rfl

theorem Call.run_holds (c : Call) (s : Store) : Holds s 0 (c.run s) := by
  cases c with
  | send f => exact tryOnConnection_holds _ fun m hm => send_holds hm
  | close => exact tryOnConnection_holds _ fun m hm => close_holds hm
  | destroy => exact (destroys _).holds.released [.answer .done] rfl
  | transportClosed => exact (transportClosed_holds _).released [.answer .done] rfl
  | register n =>
    show (s.register (.custom n)).2.connection.held + 0 = _
    unfold Store.register
    split
    · rfl
    · split <;> rfl
  | openChannel => exact (openChannel_holds s.holdHandle).released [.answer _] rfl
  | sendOn c body =>
    refine onChannel_holds ?_
    split
    · rename_i n h; exact sendOn_holds h
    · rfl
  | closeChannel c => exact onChannel_holds (closeChannel_holds _ c)
  | dropChannel c =>
    exact (whenLost_holds (s.mapChannel c fun ch => { ch with owned := ch.owned - 1 }) _).andThen
      [.answer .done]
  | _ => rfl

/-! ## Throughout a run -/

theorem handlesOf_of_map_plain {tasks tasks' : List Task}
    (h : tasks'.map Task.plain = tasks.map Task.plain) : handlesOf tasks' = handlesOf tasks := by
  have hplain : ∀ t : Task, t.plain.handles = t.handles := by
    intro t
    cases t <;> rfl
  exact congrArg List.sum (map_eq_of_map_plain hplain h)

/-- Work holds as many handles as its tasks do. -/
theorem Reachable.held_eq {σ : Session} (h : σ.Reachable) :
    σ.store.connection.held = handlesOf σ.tasks := by
  refine h.induction (P := fun σ => σ.store.connection.held = handlesOf σ.tasks) ?_ ?_
  · intro o
    -- the only handle of a new connection is the one that it hands over
    have h := (offer_holds (.new o) .greeting).andThen [.handOverConnection, .answer .done]
    unfold Holds at h
    exact Nat.add_right_cancel (m := 1) (h.trans (Nat.add_comm 1 _))
  · intro σ τ _ hσ hs
    obtain ⟨t, rest, n, ht, hn, rfl⟩ | ⟨c, -, -, rfl⟩ | ⟨cb, r, rest, ht, rfl⟩ := hs.cases_on_stack
    · rw [ht, handlesOf_cons] at hσ
      have hw := Task.run_holds (by omega) hn
      unfold Holds at hw
      rw [proceed_tasks, handlesOf_append, handlesOf_of_map_plain (map_plain_below n rest)]
      show n.store.connection.held = _
      omega
    · have hw := c.run_holds σ.store
      unfold Holds at hw
      rw [proceed_tasks, handlesOf_append, handlesOf_of_map_plain (map_plain_below _ _)]
      show (c.run σ.store).store.connection.held = _
      omega
    · rw [ht, handlesOf_cons] at hσ
      rw [handlesOf_of_map_plain (map_plain_answerWith cb r rest)]
      show σ.store.connection.held = _
      rw [hσ]
      exact Nat.zero_add _

end Session

/-! ## Handles of user code -/

theorem Connection.Moves.owned_le {t : Task} {k k' : Connection} {es : List Event}
    (h : Connection.Moves (some t) k es k') (ht : t.isUser = false) : k.owned ≤ k'.owned := by
  induction h with
  | refl => exact Nat.le_refl _
  | tail _ hm ih =>
    refine Nat.le_trans ih ?_
    cases hm with
    | handles owned held ho =>
      refine ho.resolve_right fun hu => ?_
      rw [Option.all_some, ht] at hu
      cases hu
    | _ => exact Nat.le_refl _

namespace Session

/-- Work takes no handle from user code. -/
theorem owned_le_of_tick {σ τ : Session} (hσ : σ.IsProper) (h : σ.tick = some τ) :
    σ.store.connection.owned ≤ τ.store.connection.owned := by
  obtain ⟨t, rest, n, ht, hn, rfl⟩ := tick_eq_some_iff.1 h
  have hu : t.isUser = false := by
    cases t with
    | user cb => cases hn
    | _ => rfl
  rcases Task.run_moves (hσ t (by rw [ht]; exact List.mem_cons_self)) hn with hm | hc
  · exact hm.owned_le hu
  · have ho : n.store.connection.owned = σ.store.connection.owned := by rw [hc.connection]
    exact Nat.le_of_eq ho.symm

/-- User code loses a handle only by dropping it. -/
theorem owned_le_of_act {σ τ : Session} {a : Act} (ha : a ≠ .call .dropHandle)
    (h : σ.act? a = some τ) : σ.store.connection.owned ≤ τ.store.connection.owned := by
  cases a with
  | call c =>
    obtain ⟨-, -, rfl⟩ := call?_eq_some_iff.1 h
    refine Connection.Moves.owned_le (t := .flush) (c.run_moves σ.store fun hc => ?_) rfl
    exact absurd (congrArg Act.call hc) ha
  | «return» r =>
    obtain ⟨cb, rest, -, rfl⟩ := return?_eq_some_iff.1 h
    exact Nat.le_refl _

end Session

end AmqpSession
