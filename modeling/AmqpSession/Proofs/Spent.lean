/-
A connection that is closed, with no id in use and every channel that somebody holds cut off. There is
nobody left to tell, so a call on it does its work without user code, and what it answers is known
beforehand (`IsSpent.answers`). No call brings such a connection back, so nothing else happens any more
(`spent_reaches`).
-/
import AmqpSession.Proofs.Client
import AmqpSession.Proofs.Laden
import AmqpSession.Proofs.Teardown

namespace AmqpSession

open Wire

/-- The channel is closed and does not know its connection. -/
structure Channel.IsCut (ch : Channel) : Prop where
  closed : ch.state = .closed
  detached : ch.attached = false

namespace Store

/-- The connection is closed, and there is nobody left to tell. -/
structure IsSpent (s : Store) : Prop where
  closed : s.connection.state = .closed
  free : s.connection.registry.entries.isEmpty = true
  cut : ∀ c, (s.channel c).HasHolder → (s.channel c).IsCut

namespace IsSpent

variable {s s' : Store} {c : Nat}

/-! ## What changes nothing -/

theorem of_channels (h : s.IsSpent) (hc : s'.channels = s.channels)
    (hs : s'.connection.state = .closed) (hr : s'.connection.registry.entries.isEmpty = true) :
    s'.IsSpent where
  closed := hs
  free := hr
  cut c := by
    rw [channel, hc]
    exact h.cut c

theorem holdHandle (h : s.IsSpent) : s.holdHandle.IsSpent := h.of_channels rfl h.closed h.free

theorem regrips (h : s.IsSpent) (hlt : c < s.channels.length) {f : Channel → Channel}
    (hf : Regrips (s.channel c) (f (s.channel c))) : (s.mapChannel c f).IsSpent where
  closed := h.closed
  free := h.free
  cut d hd := by
    by_cases hdc : d = c
    · subst hdc
      rw [s.channel_mapChannel hlt] at hd ⊢
      have hcut := h.cut d (hf.hasHolder hd)
      exact ⟨hf.state.trans hcut.closed, hf.attached.trans hcut.detached⟩
    · rw [s.channel_mapChannel_of_ne hdc] at hd ⊢
      exact h.cut d hd

/-- A channel that somebody holds may be held by others. -/
theorem owned (h : s.IsSpent) (hc : (s.channel c).HasHolder) (f : Nat → Nat) :
    (s.mapChannel c fun ch => { ch with owned := f ch.owned }).IsSpent :=
  h.regrips (lt_length_of_hasHolder hc) ⟨rfl, rfl, rfl, fun _ => hc⟩

theorem hold (h : s.IsSpent) (hc : (s.channel c).HasHolder) : (s.hold (.channel c)).IsSpent :=
  h.regrips (lt_length_of_hasHolder hc) ⟨rfl, rfl, rfl, fun _ => hc⟩

theorem hasHolder_hold (hc : (s.channel c).HasHolder) : ((s.hold (.channel c)).channel c).HasHolder := by
  rw [s.channel_hold (lt_length_of_hasHolder hc)]
  exact Nat.succ_ne_zero _

theorem withChannel (h : s.IsSpent) : (s.withChannel .gone).IsSpent where
  closed := h.closed
  free := h.free
  cut c hc := by
    by_cases hlen : c = s.channels.length
    · rw [hlen, s.channel_withChannel] at hc
      exact absurd rfl hc
    · rw [s.channel_withChannel_of_ne _ hlen] at hc ⊢
      exact h.cut c hc

/-! ## Operations -/

theorem send (h : s.IsSpent) (f : Frame) : s.send f = .error .closed := by
  simp [Store.send, h.closed]

theorem close (h : s.IsSpent) : s.close = .error .alreadyClosed := by
  simp [Store.close, h.closed]

theorem transportClosed (h : s.IsSpent) : s.transportClosed = .only s := by
  simp [Store.transportClosed, h.closed]

theorem register (h : s.IsSpent) (e : EndpointRef) : s.register e = (.error .illegalState, s) := by
  simp [Store.register, h.closed]

theorem openChannel (h : s.IsSpent) :
    s.openChannel = (.error (.alloc .illegalState), .only (s.withChannel .gone)) := by
  unfold Store.openChannel
  dsimp only
  rw [if_pos (.inr h.closed), ← s.lose_detach_withChannel]
  rfl

theorem reaches (h : s.IsSpent) (hc : (s.channel c).HasHolder) : s.reaches c = false := by
  rw [Store.reaches, (h.cut c hc).detached]
  rfl

theorem sendOn (h : s.IsSpent) (hc : (s.channel c).HasHolder) (body : Body) :
    s.sendOn c body = .error .detached := by
  simp [Store.sendOn, h.reaches hc]

theorem closeChannel (h : s.IsSpent) (hc : (s.channel c).HasHolder) :
    s.closeChannel c = (.error .notOpen, .only s) := by
  simp [Store.closeChannel, (h.cut c hc).closed]

/-- The last holder lets go of a channel that has nothing to send. -/
theorem whenLost (h : s.IsSpent) (hc : (s.channel c).HasHolder) (f : Nat → Nat) :
    (s.mapChannel c fun ch => { ch with owned := f ch.owned }).whenLost (.channel c) =
      .only (s.mapChannel c fun ch => { ch with owned := f ch.owned }) := by
  refine whenLost_eq_only _ fun d hd => .inr ?_
  cases hd
  rw [Store.reaches, s.channel_mapChannel (lt_length_of_hasHolder hc), (h.cut c hc).detached]
  rfl

end IsSpent

end Store

namespace Session

/-- So it is with a connection at rest that was closed and not destroyed. -/
theorem Reachable.isSpent {σ : Session} (h : σ.Reachable) (ht : σ.tasks = [])
    (ha : σ.store.connection.alive = true) (hc : σ.store.connection.state = .closed) :
    σ.store.IsSpent where
  closed := hc
  free := Registry.isEmpty_of_get? (h.free_of_closed ha hc)
  cut c hh := by
    have hheld := (h.tracks c).held
    rw [ht, stakes_nil, zero_add, records_eq] at hheld
    have ho : (σ.store.channel c).owned ≠ 0 := by
      rwa [Channel.HasHolder, hheld] at hh
    obtain ⟨hs, hr⟩ := (h.tidy_of_alive ht ha hc).closed c ho
    rw [Store.reaches, ha, Bool.and_true] at hr
    exact ⟨hs, hr⟩

/-! ## Work without user code -/

/-- Work goes on by itself. -/
def GoesOn : Session → Session → Prop := StateTransition.Reaches tick

variable {s : Store} {rest : List Task} {log : List Event} {τ : Session}

theorem GoesOn.task {t : Task} {n : Next} (hn : t.run s = some n) (h : GoesOn (proceed n log rest) τ) :
    GoesOn ⟨s, t :: rest, log⟩ τ :=
  .head (tick_eq_some_iff.2 ⟨t, rest, n, rfl, hn, rfl⟩) h

theorem goesOn_answer (s : Store) (o : Outcome) (log : List Event) :
    GoesOn ⟨s, [.answer o], log⟩ ⟨s, [], .answered o :: log⟩ :=
  .task rfl .refl

/-- A call lets go of its handle, which is not the last. -/
theorem goesOn_endOfCall (hh : s.handles ≠ 0) (o : Outcome) (log : List Event) :
    GoesOn ⟨s.holdHandle, [.releaseHandle, .answer o], log⟩ ⟨s, [], .answered o :: log⟩ := by
  have hne : s.holdHandle.handles ≠ 1 := by
    show s.connection.owned + (s.connection.held + 1) ≠ 1
    unfold Store.handles at hh
    omega
  have hrun : Task.run .releaseHandle s.holdHandle = some (.only s) := by
    show some s.holdHandle.releaseHandle = _
    rw [Store.releaseHandle, if_neg hne, s.loseHandle_holdHandle]
  exact .task hrun (goesOn_answer s o log)

end Session

namespace Store.IsSpent

open Session

variable {s : Store} {c : Nat}

/-- Nobody is told that the connection is destroyed. -/
theorem goesOn_destroy (h : s.IsSpent) (log : List Event) (rest : List Task) :
    GoesOn (proceed s.destroy log rest) ⟨s.mapConnection ({ · with alive := false }), rest, log⟩ := by
  cases ha : s.connection.alive with
  | true =>
    have hd : s.destroy = .follow s [.clearRegistry, .destroyed] := by
      simp [Store.destroy, ha, h.close, Next.andThen, Next.only, Next.follow]
    have hclear : Task.run .clearRegistry s = some (.follow s [.invalidateEach []]) := by
      simp [Task.run, clearRegistry_of_isEmpty h.free]
    have hend : (s.setState .closed).mapConnection ({ · with alive := false }) =
        s.mapConnection ({ · with alive := false }) := by
      simp [setState, mapConnection, h.closed]
    rw [hd, ← hend]
    exact .task hclear (.task rfl (.task rfl .refl))
  | false =>
    have hd : s.destroy = .only s := by simp [Store.destroy, ha]
    have hend : s.mapConnection ({ · with alive := false }) = s := by simp [mapConnection, ← ha]
    rw [hd, hend]
    exact .refl

/-- The last handle takes the connection with it. -/
theorem goesOn_releaseHandle (h : s.IsSpent) (log : List Event) (rest : List Task) :
    ∃ s', s'.IsSpent ∧ GoesOn ⟨s, .releaseHandle :: rest, log⟩ ⟨s', rest, log⟩ := by
  by_cases hh : s.handles = 1
  · have hrun : Task.run .releaseHandle s = some (s.destroy.andThen [.loseHandle]) := by
      simp [Task.run, Store.releaseHandle, hh]
    refine ⟨(s.mapConnection ({ · with alive := false })).loseHandle,
      h.of_channels rfl h.closed h.free, .task hrun ?_⟩
    rw [proceed_andThen (destroy_isAside s).fault]
    exact (h.goesOn_destroy log _).trans (GoesOn.task rfl .refl)
  · have hrun : Task.run .releaseHandle s = some (.only s.loseHandle) := by
      simp [Task.run, Store.releaseHandle, hh]
    exact ⟨s.loseHandle, h.of_channels rfl h.closed h.free, .task hrun .refl⟩

end Store.IsSpent

/-! ## Calls -/

/-- What a call answers when there is nobody left to tell. -/
def Session.Call.refusal (c : Session.Call) (s : Store) : Outcome :=
  match c with
  | .parse _ => .consumed 0
  | .send _ => .sent (.error .closed)
  | .close => .closed (.error .alreadyClosed)
  | .register _ => .registered (.error .illegalState)
  | .openChannel => .opened s.channels.length (.error (.alloc .illegalState))
  | .sendOn _ _ => .channel (.error .detached)
  | .closeChannel _ => .channel (.error .notOpen)
  | .newEndpoint _ => .endpoint s.endpoints.length
  | .destroy | .transportClosed | .unregister _ | .cloneHandle | .dropHandle | .cloneChannel _
  | .dropChannel _ | .setEndpointId _ _ | .dropEndpoint _ => .done

namespace Store.IsSpent

open Session

variable {s : Store} {c : Nat}

/-- A call on a channel lets go of it, and answers. -/
theorem goesOn_onChannel (hc : (s.channel c).HasHolder)
    {n : Store → Except ChannelError Unit × Next} {result : Except ChannelError Unit}
    (hn : n (s.hold (.channel c)) = (result, .only (s.hold (.channel c)))) (log : List Event) :
    GoesOn (proceed (onChannel s c n) log []) ⟨s, [], .answered (.channel result) :: log⟩ := by
  have hcall : onChannel s c n = .follow (s.hold (.channel c))
      [.release (.channel c), .answer (.channel result)] := by
    simp [onChannel, hn, Next.andThen, Next.only, Next.follow]
  have hrelease : Task.run (.release (.channel c)) (s.hold (.channel c)) = some (.only s) := by
    show some (((s.hold (.channel c)).lose (.channel c)).whenLost (.channel c)) = _
    rw [s.lose_hold, whenLost_eq_only s fun d hd => .inl (by cases hd; exact isLive_channel_iff.2 hc)]
  rw [hcall]
  exact .task hrelease (goesOn_answer s _ log)

/-- Every call comes to its end by itself, and answers what it has to. -/
theorem answers (h : s.IsSpent) (call : Call) (hl : call.isLegal s = true) (log : List Event) :
    ∃ s', s'.IsSpent ∧
      GoesOn (proceed (call.run s) log []) ⟨s', [], .answered (call.refusal s) :: log⟩ := by
  cases call with
  | parse buffer =>
    refine ⟨s, h, .task (n := .follow s.holdHandle (endOfParse 0)) ?_ ?_⟩
    · exact congrArg some (parse_of_closed (s := s.holdHandle) h.closed buffer 0)
    · exact goesOn_endOfCall (bne_iff_ne.1 hl) _ log
  | send f =>
    have hrun : Call.run (.send f) s = .follow s [.answer (.sent (.error .closed))] := by
      simp [Call.run, tryOnConnection, h.holdHandle.send]
    exact ⟨s, h, hrun ▸ goesOn_answer s _ log⟩
  | close =>
    have hrun : Call.run .close s = .follow s [.answer (.closed (.error .alreadyClosed))] := by
      simp [Call.run, tryOnConnection, h.holdHandle.close]
    exact ⟨s, h, hrun ▸ goesOn_answer s _ log⟩
  | destroy =>
    refine ⟨s.mapConnection ({ · with alive := false }), h.of_channels rfl h.closed h.free, ?_⟩
    show GoesOn (proceed (s.holdHandle.destroy.andThen [.releaseHandle, .answer .done]) log []) _
    rw [proceed_andThen (destroy_isAside s.holdHandle).fault]
    exact (h.holdHandle.goesOn_destroy log _).trans
      (goesOn_endOfCall (s := s.mapConnection ({ · with alive := false })) (bne_iff_ne.1 hl) .done log)
  | transportClosed =>
    have hrun : Call.run .transportClosed s = .follow s.holdHandle [.releaseHandle, .answer .done] := by
      simp [Call.run, onConnection, h.holdHandle.transportClosed, Next.andThen, Next.only, Next.follow]
    exact ⟨s, h, hrun ▸ goesOn_endOfCall (bne_iff_ne.1 hl) .done log⟩
  | register n =>
    have hrun : Call.run (.register n) s = .follow s [.answer (.registered (.error .illegalState))] := by
      simp [Call.run, h.register]
    exact ⟨s, h, hrun ▸ goesOn_answer s _ log⟩
  | unregister n =>
    refine ⟨_, ?_, goesOn_answer _ .done log⟩
    exact h.of_channels rfl h.closed (Registry.isEmpty_release h.free _ _)
  | openChannel =>
    have hrun : Call.run .openChannel s = .follow (s.withChannel .gone).holdHandle
        [.releaseHandle, .answer (.opened s.channels.length (.error (.alloc .illegalState)))] := by
      simp only [Call.run, h.holdHandle.openChannel]
      rfl
    exact ⟨_, h.withChannel, hrun ▸ goesOn_endOfCall (s := s.withChannel .gone) (bne_iff_ne.1 hl) _ log⟩
  | sendOn c body =>
    have hc := isLive_channel_iff.1 hl
    refine ⟨s, h, goesOn_onChannel hc ?_ log⟩
    simp only [(h.hold hc).sendOn (hasHolder_hold hc)]
  | closeChannel c =>
    have hc := isLive_channel_iff.1 hl
    exact ⟨s, h, goesOn_onChannel hc ((h.hold hc).closeChannel (hasHolder_hold hc)) log⟩
  | cloneHandle =>
    refine ⟨_, ?_, goesOn_answer _ .done log⟩
    exact h.of_channels rfl h.closed h.free
  | dropHandle =>
    let s₁ := s.mapConnection fun k => { k with owned := k.owned - 1, held := k.held + 1 }
    have h₁ : s₁.IsSpent := h.of_channels rfl h.closed h.free
    obtain ⟨s', hs', hgo⟩ := h₁.goesOn_releaseHandle log [.answer .done]
    exact ⟨s', hs', hgo.trans (goesOn_answer s' .done log)⟩
  | cloneChannel c =>
    refine ⟨_, ?_, goesOn_answer _ .done log⟩
    exact h.owned (isLive_channel_iff.1 hl) (· + 1)
  | dropChannel c =>
    have hc : (s.channel c).HasHolder := by
      have ho := bne_iff_ne.1 hl
      rw [Channel.HasHolder]
      omega
    refine ⟨_, h.owned hc (· - 1), ?_⟩
    have hrun : Call.run (.dropChannel c) s =
        .follow (s.mapChannel c fun ch => { ch with owned := ch.owned - 1 }) [.answer .done] := by
      simp only [Call.run, h.whenLost hc (· - 1)]
      rfl
    exact hrun ▸ goesOn_answer _ .done log
  | newEndpoint id | setEndpointId n id | dropEndpoint n =>
    refine ⟨_, ?_, goesOn_answer _ _ log⟩
    exact h.of_channels rfl h.closed h.free

end Store.IsSpent

namespace Session

/-! ## For good -/

/-- What happened stays on record. -/
theorem Step.suffix {σ τ : Session} (h : Step σ τ) : σ.log <:+ τ.log := by
  obtain ⟨t, rest, n, -, -, rfl⟩ | ⟨c, -, -, rfl⟩ | ⟨cb, r, rest, -, rfl⟩ := h.cases_on_stack
  · exact List.suffix_append _ _
  · exact List.suffix_append _ _
  · exact List.suffix_refl _

theorem GoesOn.suffix {σ τ : Session} (h : GoesOn σ τ) : σ.log <:+ τ.log := by
  induction h with
  | refl => exact List.suffix_refl _
  | tail _ hs ih => exact ih.trans (Step.tick hs).suffix

/-- Where no work is left, none goes on. -/
theorem GoesOn.eq_of_tasks_eq_nil {σ τ : Session} (h : GoesOn σ τ) (hσ : σ.tasks = []) : σ = τ := by
  rcases Relation.ReflTransGen.cases_head h with rfl | ⟨ρ, hρ, -⟩
  · rfl
  · have hnone : σ.tick = none := (tick_eq_none_iff σ).2 (by rw [isIdle, hσ])
    rw [hnone] at hρ
    cases hρ

/-- Work that goes on to where there is none passes the step that follows. -/
theorem GoesOn.of_step {σ τ υ : Session} (h : GoesOn σ υ) (hυ : υ.tasks = []) (hs : Step σ τ) :
    (σ = υ ∧ ∃ c, σ.call? c = some τ) ∨ GoesOn τ υ := by
  rcases Relation.ReflTransGen.cases_head h with rfl | ⟨ρ, hρ, hgo⟩
  · cases hs with
    | tick ht => rw [(tick_eq_none_iff σ).2 (by rw [isIdle, hυ])] at ht; cases ht
    | call c hc => exact .inl ⟨rfl, c, hc⟩
    | «return» r hr =>
      obtain ⟨cb, rest, ht, -⟩ := return?_eq_some_iff.1 hr
      rw [hυ] at ht
      cases ht
  · -- work that goes on leaves no choice
    have hρ' : σ.tick = some ρ := hρ
    have hidle : σ.isIdle ≠ true := by
      intro hi
      rw [(tick_eq_none_iff σ).2 hi] at hρ'
      cases hρ'
    right
    cases hs with
    | tick ht =>
      rw [hρ'] at ht
      cases ht
      exact hgo
    | call c hc => exact absurd (call?_eq_some_iff.1 hc).1 hidle
    | «return» r hr =>
      obtain ⟨cb, rest, ht, -⟩ := return?_eq_some_iff.1 hr
      exact absurd (by rw [isIdle, ht]) hidle

/-- The answers of calls that had nobody left to tell. -/
def AreRefusals (es : List Event) : Prop :=
  ∀ e ∈ es, ∃ (c : Call) (s : Store), e = .answered (c.refusal s)

/-- Once there is nobody left to tell, calls answer, and nothing else happens. -/
theorem spent_reaches {σ τ : Session} (h : σ.store.IsSpent) (ht : σ.tasks = []) (hr : Reaches σ τ) :
    (∃ es, τ.log = es ++ σ.log ∧ AreRefusals es) ∧ (τ.tasks = [] → τ.store.IsSpent) := by
  -- every session on the way is on the way to the end of a call
  obtain ⟨⟨es, hes⟩, s, es', hs, hes', hgo⟩ : σ.log <:+ τ.log ∧
      ∃ s es, s.IsSpent ∧ AreRefusals es ∧ GoesOn τ ⟨s, [], es ++ σ.log⟩ := by
    refine hr.induction (P := fun τ => σ.log <:+ τ.log ∧
      ∃ s es, s.IsSpent ∧ AreRefusals es ∧ GoesOn τ ⟨s, [], es ++ σ.log⟩) ?_ ?_
    · rintro τ υ ⟨hlog, s, es, hs, hes, hgo⟩ hstep
      refine ⟨hlog.trans hstep.suffix, ?_⟩
      obtain ⟨rfl, c, hc⟩ | hgo := hgo.of_step rfl hstep
      · obtain ⟨-, hl, rfl⟩ := call?_eq_some_iff.1 hc
        obtain ⟨s', hs', hgo⟩ := hs.answers c hl (es ++ σ.log)
        exact ⟨s', .answered (c.refusal s) :: es, hs', List.forall_mem_cons.2 ⟨⟨c, s, rfl⟩, hes⟩, hgo⟩
      · exact ⟨s, es, hs, hes, hgo⟩
    · obtain ⟨s, tasks, log⟩ := σ
      cases ht
      exact ⟨List.suffix_refl _, s, [], h, List.forall_mem_nil _, .refl⟩
  obtain ⟨es'', hlog⟩ := hgo.suffix
  rw [← hes, ← List.append_assoc] at hlog
  have hsplit : es'' ++ es = es' := List.append_cancel_right hlog
  refine ⟨⟨es, hes.symm, fun e he => ?_⟩, fun hτ => ?_⟩
  · exact hes' e (by rw [← hsplit]; exact List.mem_append_right _ he)
  · rw [hgo.eq_of_tasks_eq_nil hτ]
    exact hs

end Session

end AmqpSession
