/-
Calls that are refused. Whether a call is refused is decided before user code runs, so a refusal runs
no user code, and it leaves everything as it was (`refused_changes_nothing_iff`). There is one
exception: a channel that is to be closed counts as closing before its close is sent, and it stays so
where the close cannot be sent any more (`Call.FailsHalfway`).
-/
import AmqpSession.Proofs.Answers
import AmqpSession.Proofs.Spent

namespace AmqpSession

open Wire

/-- The same connection, registry and queue included, and the same channels and endpoints. What is left
of a channel that could not be opened is no channel. -/
structure Store.SameAs (s s' : Store) : Prop where
  connection : s'.connection = s.connection
  channel : ∀ c, s'.channel c = s.channel c
  endpoint : ∀ n, s'.endpoint n = s.endpoint n

/-- The channel is up, on a connection that takes no more frames. -/
def Store.ClosesTooLate (s : Store) (c : Nat) : Prop :=
  s.reaches c = true ∧ ((s.channel c).state = .opening ∨ (s.channel c).state = .open) ∧
    ¬ s.connection.isOpen

/-- An error is returned. -/
def Outcome.isRefusal : Outcome → Bool
  | .sent (.error _) | .closed (.error _) | .registered (.error _) | .opened _ (.error _)
  | .channel (.error _) => true
  | _ => false

namespace Session

/-- A call that may return an error. -/
def Call.mayRefuse : Call → Bool
  | .send _ | .close | .register _ | .openChannel | .sendOn _ _ | .closeChannel _ => true
  | _ => false

/-- A channel is to be closed, and its close cannot be sent any more. -/
def Call.FailsHalfway (c : Call) (s : Store) : Prop := ∃ d, c = .closeChannel d ∧ s.ClosesTooLate d

/-! ## Returning -/

/-- The run goes on above so many tasks. -/
def RunsAbove (height : Nat) : Session → Session → Prop :=
  Relation.ReflTransGen fun σ τ => height < σ.tasks.length ∧ Step σ τ

/-- The run goes on above so many tasks, without user code. -/
def TicksAbove (height : Nat) : Session → Session → Prop :=
  Relation.ReflTransGen fun σ τ => height < σ.tasks.length ∧ σ.tick = some τ

/-- User code calls an operation, which returns this. -/
def CallReturns (σ : Session) (c : Call) (o : Outcome) (υ : Session) : Prop :=
  ∃ τ ρ rest, σ.call? c = some τ ∧ RunsAbove σ.tasks.length τ ρ ∧
    ρ.tasks = .answer o :: rest ∧ rest.length = σ.tasks.length ∧ ρ.tick = some υ

variable {σ τ ρ υ : Session} {height : Nat}

theorem TicksAbove.head {t : Task} {s : Store} {n : Next} {base : List Task} {log : List Event}
    (rest : List Task) (hn : t.run s = some n) (h : TicksAbove base.length (proceed n log (rest ++ base)) τ) :
    TicksAbove base.length ⟨s, t :: (rest ++ base), log⟩ τ := by
  refine Relation.ReflTransGen.head ⟨?_, tick_eq_some_iff.2 ⟨t, rest ++ base, n, rfl, hn, rfl⟩⟩ h
  rw [List.length_cons, List.length_append]
  omega

/-- Work that goes on by itself leaves no choice. -/
theorem TicksAbove.of_runsAbove (h : TicksAbove height σ υ) (hυ : υ.tasks.length ≤ height)
    (hr : RunsAbove height σ ρ) : TicksAbove height ρ υ := by
  induction hr with
  | refl => exact h
  | tail _ hs ih =>
    obtain rfl | ⟨τ, ⟨-, hτ⟩, h⟩ := Relation.ReflTransGen.cases_head ih
    · exact absurd hs.1 (Nat.not_lt.2 hυ)
    · obtain ⟨t, rest, n, ht, hn, rfl⟩ := tick_eq_some_iff.1 hτ
      have hu : ∀ cb, t ≠ .user cb := by
        rintro cb rfl
        cases hn
      obtain ⟨n', hn', rfl⟩ := hs.2.eq_proceed ht hu
      rw [hn] at hn'
      cases hn'
      exact h

/-- An answer that waits, and what waits below it, but for what the answer of a callback changes there. -/
def Waits (o : Outcome) (base : List Task) (σ : Session) : Prop :=
  (Task.answer o :: base).map Task.plain <:+ σ.tasks.map Task.plain

theorem Waits.step {o : Outcome} {base : List Task} (h : Waits o base σ) (hs : Step σ τ) :
    Waits o base τ ∨ τ.tasks.length ≤ base.length := by
  have push : ∀ (n : Next) (log : List Event) {rest : List Task},
      (Task.answer o :: base).map Task.plain <:+ rest.map Task.plain → Waits o base (proceed n log rest) := by
    intro n log rest hrest
    rw [Waits, proceed_tasks, List.map_append, map_plain_below]
    exact hrest.trans (List.suffix_append _ _)
  -- a task that is taken off the stack is the answer itself or waits above it
  have taken : ∀ {t : Task} {rest : List Task}, σ.tasks = t :: rest →
      (t = .answer o ∧ rest.length = base.length) ∨
        (Task.answer o :: base).map Task.plain <:+ rest.map Task.plain := by
    intro t rest ht
    rw [Waits, ht, List.map_cons, List.map_cons] at h
    obtain he | hrest := List.suffix_cons_iff.1 h
    · obtain ⟨ht', hrest'⟩ := List.cons.inj he
      refine .inl ⟨Task.eq_of_plain_eq ht'.symm rfl, ?_⟩
      rw [← List.length_map Task.plain, ← hrest', List.length_map]
    · exact .inr hrest
  obtain ⟨t, rest, n, ht, hn, rfl⟩ | ⟨c, -, -, rfl⟩ | ⟨cb, r, rest, ht, rfl⟩ := hs.cases_on_stack
  · obtain ⟨rfl, hlen⟩ | hrest := taken ht
    · cases hn
      exact .inr (Nat.le_of_eq hlen)
    · exact .inl (push n _ hrest)
  · exact .inl (push _ _ h)
  · obtain ⟨hcb, -⟩ | hrest := taken ht
    · cases hcb
    · left
      show _ <:+ (answerWith cb r rest).map Task.plain
      rwa [map_plain_answerWith]

theorem RunsAbove.waits {o : Outcome} {base : List Task} (h : RunsAbove base.length σ ρ)
    (hσ : Waits o base σ) : Waits o base ρ ∨ ρ.tasks.length ≤ base.length := by
  induction h with
  | refl => exact .inl hσ
  | tail _ hs ih => exact (ih.resolve_right (Nat.not_le.2 hs.1)).step hs.2

/-- A call whose answer waits returns that. -/
theorem Waits.eq_of_top {o o' : Outcome} {base rest : List Task} (h : Waits o base ρ)
    (hρ : ρ.tasks = .answer o' :: rest) (hlen : rest.length = base.length) : o' = o := by
  rw [Waits, hρ] at h
  have he := h.eq_of_length (by simp only [List.length_map, List.length_cons, hlen])
  exact (Task.answer.inj (List.cons.inj he).1).symm

/-! ## Accepted or refused -/

/-- The call begins, and will return this. -/
structure Call.Accepts (c : Call) (s : Store) (o : Outcome) : Prop where
  fault : (c.run s).fault = none
  waits : ∃ front, (c.run s).tasks = front ++ [.answer o]
  fine : o.isRefusal = false

/-- The call comes by itself to where it returns this. -/
structure Call.Refuses (c : Call) (s : Store) (o : Outcome) (s' : Store) : Prop where
  ends : ∀ log base, TicksAbove base.length (proceed (c.run s) log base) ⟨s', .answer o :: base, log⟩
  left : (¬ c.FailsHalfway s ∧ s.SameAs s') ∨
    (c.FailsHalfway s ∧ o = .channel (.error (.send .closed)) ∧
      ∃ d, c = .closeChannel d ∧ s' = s.setChannelState d .closing)

variable {c : Call} {s s' : Store} {o : Outcome} {d : Nat}

theorem not_failsHalfway (hc : ∀ d, c ≠ .closeChannel d) : ¬ c.FailsHalfway s := fun ⟨d, h, _⟩ => hc d h

namespace Call.Refuses

/-- The call answers at once. -/
theorem of_answer (hrun : c.run s = .follow s [.answer o]) (hc : ∀ d, c ≠ .closeChannel d) :
    c.Refuses s o s where
  ends log base := by
    rw [hrun]
    exact .refl
  left := .inl ⟨not_failsHalfway hc, ⟨rfl, fun _ => rfl, fun _ => rfl⟩⟩

/-- The call lets go of a handle of the connection, which is not the last. -/
theorem ends_of_handle (hh : s'.handles ≠ 0)
    (hrun : c.run s = .follow s'.holdHandle [.releaseHandle, .answer o]) (log : List Event)
    (base : List Task) :
    TicksAbove base.length (proceed (c.run s) log base) ⟨s', .answer o :: base, log⟩ := by
  have hne : s'.holdHandle.handles ≠ 1 := by
    show s'.connection.owned + (s'.connection.held + 1) ≠ 1
    unfold Store.handles at hh
    omega
  have hrelease : Task.run .releaseHandle s'.holdHandle = some (.only s') := by
    show some s'.holdHandle.releaseHandle = _
    rw [Store.releaseHandle, if_neg hne, s'.loseHandle_holdHandle]
  rw [hrun]
  exact .head [.answer o] hrelease .refl

/-- The call lets go of the channel, which stays. -/
theorem ends_of_channel (hl : s'.isLive (.channel d) = true)
    (hrun : c.run s = .follow (s'.hold (.channel d)) [.release (.channel d), .answer o])
    (log : List Event) (base : List Task) :
    TicksAbove base.length (proceed (c.run s) log base) ⟨s', .answer o :: base, log⟩ := by
  have hrelease : Task.run (.release (.channel d)) (s'.hold (.channel d)) = some (.only s') := by
    show some (((s'.hold (.channel d)).lose (.channel d)).whenLost (.channel d)) = _
    rw [s'.lose_hold, Store.whenLost_eq_only s' fun d' hd => .inl (by cases hd; exact hl)]
  rw [hrun]
  exact .head [.answer o] hrelease .refl

/-- The call does return. -/
theorem returns {σ : Session} (h : c.Refuses σ.store o s') (hi : σ.isIdle = true)
    (hl : c.isLegal σ.store = true) : CallReturns σ c o ⟨s', σ.tasks, .answered o :: σ.log⟩ := by
  have hruns : RunsAbove σ.tasks.length (proceed (c.run σ.store) σ.log σ.tasks)
      ⟨s', .answer o :: σ.tasks, σ.log⟩ :=
    Relation.ReflTransGen.mono (fun _ _ hs => ⟨hs.1, .tick hs.2⟩) _ _ (h.ends σ.log σ.tasks)
  exact ⟨_, _, σ.tasks, call?_eq_some_iff.2 ⟨hi, hl, rfl⟩, hruns, rfl, rfl, rfl⟩

/-- The call returns nothing else. -/
theorem eq_of_returns {σ υ : Session} {o' : Outcome} (h : c.Refuses σ.store o s')
    (hr : CallReturns σ c o' υ) : o' = o ∧ υ = ⟨s', σ.tasks, .answered o :: σ.log⟩ := by
  obtain ⟨τ, ρ, rest, hcall, hrun, hρ, hlen, htick⟩ := hr
  obtain ⟨-, -, rfl⟩ := call?_eq_some_iff.1 hcall
  have hanswer : TicksAbove σ.tasks.length (proceed (c.run σ.store) σ.log σ.tasks)
      ⟨s', σ.tasks, .answered o :: σ.log⟩ :=
    (h.ends σ.log σ.tasks).tail ⟨Nat.lt_succ_self _, rfl⟩
  obtain ⟨t, rest', n, ht, hn, rfl⟩ := tick_eq_some_iff.1 htick
  rw [hρ] at ht
  cases ht
  cases hn
  have hυ : proceed { store := ρ.store, log := [.answered o'] } ρ.log rest =
      ⟨s', σ.tasks, .answered o :: σ.log⟩ := by
    obtain rfl | ⟨υ, ⟨-, hυ⟩, hends⟩ := Relation.ReflTransGen.cases_head
      (hanswer.of_runsAbove (Nat.le_refl _) hrun)
    · exact absurd (congrArg List.length hρ) (by simp [hlen])
    · rw [htick] at hυ
      cases hυ
      -- nothing goes on above where the call has ended
      obtain hυ | ⟨-, ⟨hlt, -⟩, -⟩ := Relation.ReflTransGen.cases_head hends
      · exact hυ
      · exact absurd hlt (Nat.not_lt.2 (Nat.le_of_eq hlen))
  have hlog := congrArg Session.log hυ
  exact ⟨Event.answered.inj (List.cons.inj hlog).1, hυ⟩

end Call.Refuses

/-- What a call returns is settled when it begins. -/
theorem Call.Accepts.eq_of_returns {σ υ : Session} {o' : Outcome} (h : c.Accepts σ.store o)
    (hr : CallReturns σ c o' υ) : o' = o := by
  obtain ⟨τ, ρ, rest, hcall, hrun, hρ, hlen, -⟩ := hr
  obtain ⟨-, -, rfl⟩ := call?_eq_some_iff.1 hcall
  obtain ⟨front, hfront⟩ := h.waits
  have hwaits : Waits o σ.tasks (proceed (c.run σ.store) σ.log σ.tasks) := by
    rw [Waits, proceed_tasks_of_fault_none h.fault, hfront, List.append_assoc, List.map_append]
    exact List.suffix_append _ _
  have hρlen : σ.tasks.length < ρ.tasks.length := by
    rw [hρ, List.length_cons, hlen]
    exact Nat.lt_succ_self _
  exact ((hrun.waits hwaits).resolve_right (Nat.not_le.2 hρlen)).eq_of_top hρ hlen

end Session

namespace Store

variable (s : Store) (c : Nat)

theorem sameAs_withChannel_gone : s.SameAs (s.withChannel .gone) where
  connection := rfl
  channel d := by
    by_cases hd : d = s.channels.length
    · rw [hd, s.channel_withChannel, s.channel_of_length_le (Nat.le_refl _)]
    · exact s.channel_withChannel_of_ne _ hd
  endpoint _ := rfl

theorem register_of_error {e : EndpointRef} {err : AllocError} (h : (s.register e).1 = .error err) :
    s.register e = (.error err, s) := by
  unfold register at h ⊢
  split at h
  · rename_i hended
    cases h
    rw [if_pos hended]
  · rename_i hended
    rw [if_neg hended]
    split at h
    · cases h
      rfl
    · cases h

theorem closeChannel_of_tooLate (h : s.ClosesTooLate c) :
    s.closeChannel c = (.error (.send .closed), .only (s.setChannelState c .closing)) := by
  obtain ⟨hr, hst, ho⟩ := h
  have hn := send_of_not_isOpen (s := (s.setChannelState c .closing).holdHandle) ho
    ((s.setChannelState c .closing).channelClose c)
  rcases hst with hst | hst <;> simp only [closeChannel, hst, hr, if_true, hn]

/-- A channel is closed, or nothing is done, or its close comes too late. -/
theorem closeChannel_result :
    (∃ n, s.closeChannel c = (.ok (), n)) ∨
    (∃ e, s.closeChannel c = (.error e, .only s) ∧ ¬ s.ClosesTooLate c) ∨ s.ClosesTooLate c := by
  by_cases hlate : s.ClosesTooLate c
  · exact .inr (.inr hlate)
  cases hst : (s.channel c).state with
  | closing => exact .inl ⟨.only s, by simp only [closeChannel, hst]⟩
  | closed => exact .inr (.inl ⟨.notOpen, by simp only [closeChannel, hst], hlate⟩)
  | opening | «open» =>
    by_cases hr : s.reaches c = true
    · have ho : s.connection.isOpen := by
        by_contra ho
        exact hlate ⟨hr, by simp only [hst, reduceCtorEq, or_true, true_or], ho⟩
      -- the close always has a form on the wire
      obtain ⟨octets, hw⟩ := exists_toWire_closeRequest ((s.setChannelState c .closing).channel c).id
      obtain ⟨n, hn⟩ := exists_send (s := (s.setChannelState c .closing).holdHandle) ho hw
      have hn' : (s.setChannelState c .closing).holdHandle.send
          ((s.setChannelState c .closing).channelClose c) = .ok n := hn
      exact .inl ⟨n.andThen [.releaseHandle], by simp only [closeChannel, hst, hr, if_true, hn']⟩
    · refine .inr (.inl ⟨.detached, ?_, hlate⟩)
      simp only [closeChannel, hst, hr, Bool.false_eq_true, if_false]

theorem closesTooLate_hold (hlt : c < s.channels.length) :
    (s.hold (.channel c)).ClosesTooLate c ↔ s.ClosesTooLate c := by
  unfold ClosesTooLate reaches
  rw [s.channel_hold hlt]
  rfl

end Store

namespace Session

variable {c : Call} {s s' : Store} {o : Outcome}

theorem failsHalfway_closeChannel {d : Nat} :
    (Call.closeChannel d).FailsHalfway s ↔ s.ClosesTooLate d :=
  ⟨fun ⟨_, h, hs⟩ => by cases h; exact hs, fun h => ⟨d, rfl, h⟩⟩

/-- The close comes too late, and the channel counts as closing. -/
theorem closeChannel_refuses {d : Nat} (hl : s.isLive (.channel d) = true) (hlate : s.ClosesTooLate d) :
    (Call.closeChannel d).Refuses s (.channel (.error (.send .closed))) (s.setChannelState d .closing) := by
  have hlt := Store.lt_length_of_hasHolder (Store.isLive_channel_iff.1 hl)
  have hn := (s.hold (.channel d)).closeChannel_of_tooLate d ((s.closesTooLate_hold d hlt).2 hlate)
  have hrun : Call.run (.closeChannel d) s = .follow ((s.setChannelState d .closing).hold (.channel d))
      [.release (.channel d), .answer (.channel (.error (.send .closed)))] := by
    rw [← s.setChannelState_hold]
    simp only [Call.run, onChannel, hn]
    rfl
  exact ⟨Call.Refuses.ends_of_channel (Store.isLive_setChannelState hl _) hrun,
    .inr ⟨failsHalfway_closeChannel.2 hlate, rfl, d, rfl, rfl⟩⟩

theorem closeChannel_accepts_or_refuses {d : Nat} (hl : s.isLive (.channel d) = true) :
    (∃ o, (Call.closeChannel d).Accepts s o) ∨ ∃ o s', (Call.closeChannel d).Refuses s o s' := by
  have hlt := Store.lt_length_of_hasHolder (Store.isLive_channel_iff.1 hl)
  have hrun : Call.run (.closeChannel d) s = ((s.hold (.channel d)).closeChannel d).2.andThen
      [.release (.channel d), .answer (.channel ((s.hold (.channel d)).closeChannel d).1)] := rfl
  obtain ⟨n, hn⟩ | ⟨e, hn, hlate⟩ | hlate := (s.hold (.channel d)).closeChannel_result d
  · refine .inl ⟨.channel (.ok ()), (Call.run_isAside _ s).fault, ⟨n.tasks ++ [.release (.channel d)], ?_⟩,
      rfl⟩
    rw [hrun, hn]
    simp only [Next.andThen, List.append_assoc, List.cons_append, List.nil_append]
  · rw [s.closesTooLate_hold d hlt] at hlate
    rw [hn] at hrun
    refine .inr ⟨.channel (.error e), s, Call.Refuses.ends_of_channel hl hrun, .inl ⟨?_, ?_⟩⟩
    · rwa [failsHalfway_closeChannel]
    · exact ⟨rfl, fun _ => rfl, fun _ => rfl⟩
  · exact .inr ⟨_, _, closeChannel_refuses hl ((s.closesTooLate_hold d hlt).1 hlate)⟩

theorem Call.accepts_or_refuses (hm : c.mayRefuse = true) (hl : c.isLegal s = true) :
    (∃ o, c.Accepts s o) ∨ ∃ o s', c.Refuses s o s' := by
  have hfault := (c.run_isAside s).fault
  cases c with
  | send f =>
    cases hn : s.holdHandle.send f with
    | ok n =>
      refine .inl ⟨.sent (.ok ()), hfault, ⟨n.tasks ++ [.releaseHandle], ?_⟩, rfl⟩
      simp [Call.run, tryOnConnection, hn, Next.andThen]
    | error e =>
      refine .inr ⟨.sent (.error e), s, .of_answer ?_ (by simp)⟩
      simp only [Call.run, tryOnConnection, hn]
  | close =>
    cases hn : s.holdHandle.close with
    | ok n =>
      refine .inl ⟨.closed (.ok ()), hfault, ⟨n.tasks ++ [.releaseHandle], ?_⟩, rfl⟩
      simp [Call.run, tryOnConnection, hn, Next.andThen]
    | error e =>
      refine .inr ⟨.closed (.error e), s, .of_answer ?_ (by simp)⟩
      simp only [Call.run, tryOnConnection, hn]
  | register n =>
    cases hr : (s.register (.custom n)).1 with
    | ok id =>
      exact .inl ⟨.registered (.ok id), hfault, ⟨[], by simp [Call.run, hr, Next.follow]⟩, rfl⟩
    | error e =>
      refine .inr ⟨.registered (.error e), s, .of_answer ?_ (by simp)⟩
      simp only [Call.run, s.register_of_error hr]
  | openChannel =>
    obtain ⟨e, hn, -⟩ | ⟨id, r, n, -, -, -, hn⟩ := s.holdHandle.openChannel_cases
    · refine .inr ⟨.opened s.channels.length (.error (.alloc e)), s.withChannel .gone,
        Call.Refuses.ends_of_handle (bne_iff_ne.1 hl) ?_,
        .inl ⟨not_failsHalfway (by simp), s.sameAs_withChannel_gone⟩⟩
      simp only [Call.run, hn]
      rfl
    · refine .inl ⟨.opened s.channels.length (.ok ()), hfault,
        ⟨n.tasks ++ [.handOver s.channels.length, .releaseHandle], ?_⟩, rfl⟩
      simp only [Call.run, hn, Next.andThen, List.append_assoc]
      rfl
  | sendOn d body =>
    cases hn : (s.hold (.channel d)).sendOn d body with
    | ok n =>
      refine .inl ⟨.channel (.ok ()), hfault, ⟨n.tasks ++ [.release (.channel d)], ?_⟩, rfl⟩
      simp [Call.run, onChannel, hn, Next.andThen]
    | error e =>
      refine .inr ⟨.channel (.error e), s, Call.Refuses.ends_of_channel (d := d) hl ?_,
        .inl ⟨not_failsHalfway (by simp), rfl, fun _ => rfl, fun _ => rfl⟩⟩
      simp only [Call.run, onChannel, hn]
      rfl
  | closeChannel d => exact closeChannel_accepts_or_refuses hl
  | _ => cases hm

/-- A call that returns an error has run no user code and has changed nothing, unless it was to close a
channel whose close could not be sent any more: that channel then counts as closing, and nothing else
changes. -/
theorem refused_changes_nothing_iff {σ υ : Session} {c : Call} {o : Outcome} (hm : c.mayRefuse = true)
    (hr : CallReturns σ c o υ) (ho : o.isRefusal = true) :
    υ.tasks = σ.tasks ∧ υ.log = .answered o :: σ.log ∧
    (σ.store.SameAs υ.store ↔ ¬ c.FailsHalfway σ.store) ∧
    (c.FailsHalfway σ.store → o = .channel (.error (.send .closed)) ∧
      ∃ d, c = .closeChannel d ∧ υ.store = σ.store.setChannelState d .closing) := by
  obtain ⟨τ, -, -, hcall, -⟩ := id hr
  obtain ⟨-, hl, -⟩ := call?_eq_some_iff.1 hcall
  obtain ⟨o', haccepts⟩ | ⟨o', s', hrefuses⟩ := Call.accepts_or_refuses hm hl
  · rw [haccepts.eq_of_returns hr, haccepts.fine] at ho
    cases ho
  · obtain ⟨rfl, rfl⟩ := hrefuses.eq_of_returns hr
    refine ⟨rfl, rfl, ?_⟩
    obtain ⟨hhalf, hsame⟩ | ⟨hhalf, ho, d, rfl, rfl⟩ := hrefuses.left
    · exact ⟨⟨fun _ => hhalf, fun _ => hsame⟩, fun h => absurd h hhalf⟩
    · refine ⟨⟨fun hsame => ?_, fun h => absurd hhalf h⟩, fun _ => ⟨ho, d, rfl, rfl⟩⟩
      -- the channel was not closing before
      obtain ⟨hr, hst, -⟩ := failsHalfway_closeChannel.1 hhalf
      have hlt := Store.lt_length_of_attached (Bool.and_eq_true_iff.1 hr).1
      have hstate := congrArg Channel.state (hsame.channel d)
      rw [Store.setChannelState, σ.store.channel_mapChannel hlt] at hstate
      rcases hst with hst | hst <;> cases hstate.trans hst

/-- The transport is lost. While user code is told so, it sends a frame, which is refused. -/
theorem refused_changes_nothing_closed : ∃ σ υ : Session, σ.Reachable ∧
    σ.tasks.head?.isSome ∧ CallReturns σ (.send .heartbeat) (.sent (.error .closed)) υ ∧
    υ.tasks = σ.tasks ∧ σ.store.SameAs υ.store := by
  obtain ⟨σ, hσ, he⟩ := exists_reaches_of_play
    (establish ++ [some (.call .transportClosed), none, none]) (connect .standard)
    (fun σ => (σ.tasks.head?.isSome, σ.store.connection.state, σ.isIdle,
      (Call.send .heartbeat).isLegal σ.store))
    (a := (true, .closed, true, true)) (by decide +kernel)
  simp only [Prod.mk.injEq] at he
  obtain ⟨htasks, hstate, hidle, hlegal⟩ := he
  have hsend : σ.store.holdHandle.send .heartbeat = .error .closed :=
    Store.send_of_not_isOpen (s := σ.store.holdHandle) (fun ho => ho.2 hstate) _
  have hrefuses : (Call.send .heartbeat).Refuses σ.store (.sent (.error .closed)) σ.store :=
    .of_answer (by simp only [Call.run, tryOnConnection, hsend]) (by simp)
  have hreturns := hrefuses.returns hidle hlegal
  obtain ⟨hrest, -, hsame, -⟩ := refused_changes_nothing_iff rfl hreturns rfl
  exact ⟨σ, _, ⟨.standard, hσ⟩, htasks, hreturns, hrest, hsame.2 (not_failsHalfway (by simp))⟩

/-- User code closes the connection, and opens a channel while the close goes out. -/
def openWhileClosing : List (Option Act) :=
  establish ++ [some (.call .close), none, none, some (.call .openChannel)] ++ pass 0 ++ pass 3 ++
    [none, none, none]

/-- The channel is to be closed then. That fails, but the channel counts as closing. -/
theorem refused_halfway : ∃ σ υ : Session, σ.Reachable ∧ σ.tasks = [] ∧
    CallReturns σ (.closeChannel 0) (.channel (.error (.send .closed))) υ ∧
    (σ.store.channel 0).state = .opening ∧ (υ.store.channel 0).state = .closing := by
  obtain ⟨σ, hσ, he⟩ := exists_reaches_of_play openWhileClosing (connect .standard)
    (fun σ => (σ.tasks.isEmpty, σ.store.connection.state, σ.store.reaches 0,
      (σ.store.channel 0).state, σ.store.isLive (.channel 0)))
    (a := (true, .closing, true, .opening, true)) (by decide +kernel)
  simp only [Prod.mk.injEq] at he
  obtain ⟨htasks, hstate, hreaches, hopening, hlive⟩ := he
  have htasks := List.isEmpty_iff.1 htasks
  have hlt := Store.lt_length_of_hasHolder (Store.isLive_channel_iff.1 hlive)
  have hlate : σ.store.ClosesTooLate 0 := ⟨hreaches, .inl hopening, fun ho => ho.1 hstate⟩
  have hreturns := (closeChannel_refuses hlive hlate).returns (by rw [isIdle, htasks]) hlive
  refine ⟨σ, _, ⟨.standard, hσ⟩, htasks, hreturns, hopening, ?_⟩
  rw [Store.setChannelState, σ.store.channel_mapChannel hlt]

end Session

end AmqpSession
