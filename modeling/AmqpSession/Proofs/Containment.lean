/-
A violation is contained. If user code calls nothing from its callbacks, then `parse` stops in front of
the octets that break the protocol, whatever frames came before them: it reports the violation once,
and what the frames before did stands, but for the connection, which is closed, and its channels, which
are cut off (`parses_violation`). From then on nothing is noticed any more.
-/
import AmqpSession.Proofs.Spent
import AmqpSession.Proofs.Verdict
import AmqpSession.Proofs.Violation

namespace AmqpSession.Session

open Wire Store

variable {u : Script} {σ τ ρ υ : Session} {s : Store} {log : List Event} {rest : List Task}

/-! ## A report, step by step -/

theorem Script.IsPassive.stepBy_user (hu : u.IsPassive) (s : Store) (cb : Callback) (rest : List Task)
    (log : List Event) :
    ∃ r, stepBy u ⟨s, .user cb :: rest, log⟩ = some ⟨s, answerWith cb r rest, log⟩ := by
  obtain ⟨r, hr⟩ := hu log s
  have hact : stepBy u ⟨s, .user cb :: rest, log⟩ =
      if (u log s).keepsHandle s then act? ⟨s, .user cb :: rest, log⟩ (u log s) else none := rfl
  rw [hact, hr, if_pos (show (Act.return r).keepsHandle s = true from rfl)]
  exact ⟨r, rfl⟩

theorem Script.IsPassive.returns_user (hu : u.IsPassive) {cb : Callback}
    (hcb : ∀ r rest, answerWith cb r rest = rest) {n : Nat} (h : Returns u [] ⟨s, rest, log⟩ n υ) :
    Returns u [] ⟨s, .user cb :: rest, log⟩ n υ := by
  obtain ⟨r, hstep⟩ := hu.stepBy_user s cb rest log
  rw [hcb] at hstep
  exact .step (List.cons_ne_nil _ _) hstep h

theorem Returns.task {t : Task} {n : Next} {k : Nat} (hn : t.run s = some n) (hf : n.fault = none)
    (h : Returns u [] ⟨n.store, n.tasks ++ rest, n.log.reverse ++ log⟩ k υ) :
    Returns u [] ⟨s, t :: rest, log⟩ k υ :=
  .step (List.cons_ne_nil _ _) (stepBy_of_run hn hf) h

/-- Every endpoint learns that it is cut off, those of user code from a callback. -/
theorem exists_returns_invalidateEach (hu : u.IsPassive) (es : List EndpointRef) (s : Store)
    (log : List Event) (rest : List Task) :
    ∃ s' told, s'.connection = s.connection ∧
      (∀ e ∈ told, ∃ m, .custom m ∈ es ∧ e = .started (.endpointInvalidate m)) ∧
      ∀ n υ, Returns u [] ⟨s', rest, told ++ log⟩ n υ →
        Returns u [] ⟨s, .invalidateEach es :: rest, log⟩ n υ := by
  induction es generalizing s log with
  | nil => exact ⟨s, [], rfl, List.forall_mem_nil _, fun n υ h => .task rfl rfl h⟩
  | cons e es ih =>
    cases e with
    | custom m =>
      obtain ⟨s', told, hc, htold, h⟩ := ih (s.lose (.custom m)) (.started (.endpointInvalidate m) :: log)
      refine ⟨s', told ++ [.started (.endpointInvalidate m)], hc, ?_, fun n υ hr => ?_⟩
      · intro e he
        rcases List.mem_append.1 he with he | he
        · obtain ⟨m', hm', rfl⟩ := htold e he
          exact ⟨m', List.mem_cons_of_mem _ hm', rfl⟩
        · exact ⟨m, List.mem_cons_self, List.mem_singleton.1 he⟩
      · rw [List.append_assoc] at hr
        exact .task rfl rfl (hu.returns_user (fun _ _ => rfl) (.task rfl rfl (h n υ hr)))
    | channel c =>
      have hlost : Task.run (.release (.channel c)) (s.detach c) =
          some (.only ((s.detach c).lose (.channel c))) := by
        refine congrArg some (whenLost_eq_only _ fun d hd => ?_)
        cases hd
        exact .inr (s.reaches_lose_detach c)
      obtain ⟨s', told, hc, htold, h⟩ := ih ((s.detach c).lose (.channel c)) log
      refine ⟨s', told, hc, fun e he => ?_, fun n υ hr => ?_⟩
      · obtain ⟨m, hm, rfl⟩ := htold e he
        exact ⟨m, List.mem_cons_of_mem _ hm, rfl⟩
      · exact .task rfl rfl (.task hlost rfl (h n υ hr))

theorem isLive_of_mem_shut {e : EndpointRef} (h : e ∈ s.shut.2) : s.isLive e = true :=
  (List.mem_filter.1 (show e ∈ s.connection.registry.endpoints.filter s.isLive from h)).2

/-- The call goes on to a report of the violation, with `q` octets consumed. The connection is that of
`s`, without the handle that the call held. -/
def Reports (u : Script) (s : Store) (v : Violation) (q : Nat) (σ : Session) : Prop :=
  ∃ s' told, s'.connection =
      { s.connection with
        state := .closed
        registry := s.connection.registry.clear
        held := s.connection.held - 1 } ∧
    (∀ e ∈ told, ∃ m, s.isLive (.custom m) = true ∧ e = .started (.endpointInvalidate m)) ∧
    Returns u [] σ q ⟨s', [], .started (.error v.message) :: (told ++ σ.log)⟩

theorem reports_of_run (hu : u.IsPassive) {t : Task} {v : Violation} {q : Nat}
    (ht : t.run s = some (s.report v q)) (ha : s.connection.alive = true)
    (ho : s.connection.owned ≠ 0) (hh : s.connection.held ≠ 0) (log : List Event) :
    Reports u s v q ⟨s, [t], log⟩ := by
  obtain ⟨s', told, hc, htold, h⟩ := exists_returns_invalidateEach hu s.shut.2 s.shut.1 log
    (.notify (.error v.message) :: endOfParse q)
  rw [connection_shut] at hc
  have hend : Returns u [] ⟨s', endOfParse q, .started (.error v.message) :: (told ++ log)⟩ q
      ⟨s'.loseHandle, [], .started (.error v.message) :: (told ++ log)⟩ := by
    have ho' : s'.connection.owned ≠ 0 := by rw [hc]; exact ho
    have hh' : s'.connection.held ≠ 0 := by rw [hc]; exact hh
    exact (returns_endOfParse ho' hh').2 ⟨rfl, rfl⟩
  have hreport : s.report v q =
      .follow s.shut.1 (.invalidateEach s.shut.2 :: .notify (.error v.message) :: endOfParse q) := by
    rw [report, if_pos ha]
    rfl
  rw [hreport] at ht
  refine ⟨s'.loseHandle, told, ?_, fun e he => ?_, .task ht rfl (h q _ ?_)⟩
  · show { s'.connection with held := s'.connection.held - 1 } = _
    rw [hc]
  · obtain ⟨m, hm, rfl⟩ := htold e he
    exact ⟨m, isLive_of_mem_shut hm, rfl⟩
  · exact .task rfl rfl (hu.returns_user (fun _ _ => rfl) hend)

/-- An endpoint that still holds the refused frame lets go of it first. -/
theorem reports_of_refused (hu : u.IsPassive) {holder : Option EndpointRef} {s' : Store}
    (hr : Refused s holder s') (v : Violation) (p : Parsing) (ha : s.connection.alive = true)
    (ho : s.connection.owned ≠ 0) (hh : s.connection.held ≠ 0) (log : List Event) :
    Reports u s v p.processed ⟨s', [.handled holder p (some v)], log⟩ := by
  have hreport : ∀ state, Reports u s v p.processed
      ⟨s.setState state, [.handled none p (some v)], log⟩ := fun state =>
    reports_of_run (s := s.setState state) hu rfl ha ho hh log
  cases hr with
  | connection state => exact hreport state
  | channel c hl state =>
    have hrelease : Task.run (.release (.channel c)) ((s.setState state).hold (.channel c)) =
        some (.only (s.setState state)) := by
      show some ((((s.setState state).hold (.channel c)).lose (.channel c)).whenLost (.channel c)) = _
      rw [lose_hold, whenLost_eq_only _ fun d hd => .inl (by cases hd; exact hl)]
    obtain ⟨s'', told, hc, htold, h⟩ := hreport state
    exact ⟨s'', told, hc, htold, .task rfl rfl (.task hrelease rfl h)⟩

/-- A call that begins with a violation reports it. -/
theorem exists_parses_violation (hu : u.IsPassive) (hk : ρ.Kept) (ht : ρ.tasks = [])
    (hs : ρ.state ≠ .closed) {buffer : Bytes} {v : Violation}
    (hv : ρ.store.violation? buffer = some v) :
    ∃ υ es, Parses u ρ buffer 0 υ ∧ υ.tasks = [] ∧
      υ.log = .started (.error v.message) :: (es ++ ρ.log) ∧
      (∀ e ∈ es, (∃ f, e = .received f) ∨
        ∃ m, ρ.store.isLive (.custom m) = true ∧ e = .started (.endpointInvalidate m)) ∧
      υ.store.connection =
        { ρ.store.connection with state := .closed, registry := ρ.store.connection.registry.clear } := by
  obtain ⟨s, tasks, log⟩ := ρ
  cases ht
  have ha : s.connection.alive = true := by
    cases ha : s.connection.alive with
    | true => rfl
    | false => exact absurd (hk.state_of_not_alive ha) hs
  have hparse : (Task.parse buffer 0).run s.holdHandle = some (s.holdHandle.parse buffer 0) := rfl
  rw [parse_of_live (s := s.holdHandle) ha hs] at hparse
  have ho : s.holdHandle.connection.owned ≠ 0 := hk.owned
  have hh : s.holdHandle.connection.held ≠ 0 := Nat.succ_ne_zero _
  unfold violation? at hv
  dsimp only at hv
  split at hv
  · rename_i fault hd
    cases hv
    rw [show s.holdHandle.connection.maxFrameSize = s.connection.maxFrameSize from rfl, hd] at hparse
    obtain ⟨s', told, hc, htold, h⟩ := reports_of_run hu hparse ha ho hh log
    exact ⟨_, told, (parses_iff rfl hk.owned).2 h, rfl, rfl, fun e he => .inr (htold e he), hc⟩
  · cases hv
  · rename_i r hd
    rw [← fault?_holdHandle] at hv
    obtain ⟨holder, s', hr, hreceive⟩ := receive_of_fault? hv
    rw [show s.holdHandle.connection.maxFrameSize = s.connection.maxFrameSize from rfl, hd] at hparse
    dsimp only at hparse
    rw [hreceive] at hparse
    obtain ⟨s'', told, hc, htold, h⟩ := reports_of_refused hu hr v ⟨buffer, 0, r.size⟩ ha ho hh
      (.received r.frame :: log)
    refine ⟨_, told ++ [.received r.frame], (parses_iff rfl hk.owned).2 (.task hparse rfl h), rfl, ?_,
      ?_, hc⟩
    · rw [List.append_assoc]
      rfl
    · intro e he
      rcases List.mem_append.1 he with he | he
      · exact .inr (htold e he)
      · exact .inl ⟨_, List.mem_singleton.1 he⟩

/-! ## After other frames -/

/-- Frames that the connection handles one after the other, each in a call of its own, without being
closed by any. -/
inductive Applies (u : Script) : Session → List Bytes → Session → Prop where
  | nil (σ : Session) : Applies u σ [] σ
  | cons {σ τ υ : Session} {octets : Bytes} {frames : List Bytes} (f : Frame)
      (hd : Frame.decode octets σ.store.connection.maxFrameSize = .ok (some ⟨f, octets.length⟩))
      (h : Parses u σ octets octets.length τ) (ho : τ.state ≠ .closed) (hr : Applies u τ frames υ) :
      Applies u σ (octets :: frames) υ

variable {frames : List Bytes}

theorem Parses.tasks_eq {buffer : Bytes} {n : Nat} (h : Parses u σ buffer n υ) : υ.tasks = σ.tasks := by
  obtain ⟨τ, -, hr⟩ := h
  exact hr.tasks_eq

theorem Parses.kept {buffer : Bytes} {n : Nat} (h : Parses u σ buffer n υ) (hk : σ.Kept) : υ.Kept := by
  obtain ⟨τ, hc, hr⟩ := h
  exact (hk.call hc (by simp)).returns hr

/-- The session is as fit for a call as before, and user code was told nothing of an end. -/
theorem Applies.keeps (hu : u.IsPassive) (h : Applies u σ frames ρ) (hk : σ.Kept) (ht : σ.tasks = [])
    (hs : σ.state ≠ .closed) :
    ρ.Kept ∧ ρ.tasks = [] ∧ ρ.state ≠ .closed ∧ verdicts ρ.log = verdicts σ.log := by
  induction h with
  | nil σ => exact ⟨hk, ht, hs, rfl⟩
  | cons f hd h ho _ ih =>
    obtain ⟨hkρ, htρ, hsρ, hvρ⟩ := ih (h.kept hk) (h.tasks_eq.trans ht) ho
    exact ⟨hkρ, htρ, hsρ, hvρ.trans (h.verdicts_eq hu hk ht ho)⟩

/-- The frames may as well come in front of others, in one call. -/
theorem Applies.parses (h : Applies u σ frames ρ) (hk : σ.Kept) (ht : σ.tasks = []) {rest : Bytes}
    {n : Nat} (hp : Parses u ρ rest n υ) :
    Parses u σ (frames.flatten ++ rest) (frames.flatten.length + n) υ := by
  induction h with
  | nil σ => rwa [List.flatten_nil, List.nil_append, List.length_nil, Nat.zero_add]
  | cons f hd h ho _ ih =>
    rw [List.flatten_cons, List.append_assoc, List.length_append, Nat.add_assoc]
    refine (parses_append_iff hk (by rw [isIdle, ht])).2 ⟨_, _, h, _, rfl, ?_⟩
    rw [List.drop_length, List.nil_append]
    exact ih (h.kept hk) (h.tasks_eq.trans ht) hp

/-- User code calls nothing from its callbacks, and octets that break the protocol come behind frames
that leave the connection open. Then `parse` stops in front of these octets. What the frames did stands,
and after it user code is told of the violation, once, and not that the connection is closed. The
connection is closed and all its channels are cut off; whatever user code calls from then on, nothing
happens but that every call answers that there is nothing to do. -/
theorem parses_violation (hu : u.IsPassive) (hσ : σ.Reachable) (ht : σ.tasks = [])
    (ho : σ.store.connection.owned ≠ 0) (hs : σ.state ≠ .closed) (hf : Applies u σ frames ρ)
    {rest : Bytes} {v : Violation} (hv : ρ.store.violation? rest = some v) :
    ∃ υ es, Parses u σ (frames.flatten ++ rest) frames.flatten.length υ ∧
      υ.log = .started (.error v.message) :: (es ++ ρ.log) ∧
      (∀ e ∈ es, (∃ f, e = .received f) ∨
        ∃ m, ρ.store.isLive (.custom m) = true ∧ e = .started (.endpointInvalidate m)) ∧
      verdicts υ.log = .error v.message :: verdicts σ.log ∧
      υ.store.connection =
        { ρ.store.connection with state := .closed, registry := ρ.store.connection.registry.clear } ∧
      υ.store.IsSpent ∧
      ∀ ω, Reaches υ ω → (∃ es, ω.log = es ++ υ.log ∧ AreRefusals es) ∧
        ∀ c χ, ω.tasks = [] → ω.call? c = some χ →
          ∃ s, GoesOn χ ⟨s, [], .answered (c.refusal ω.store) :: ω.log⟩ := by
  have hk : σ.Kept := ⟨⟨σ.log, hσ⟩, ho⟩
  obtain ⟨hkρ, htρ, hsρ, hvρ⟩ := hf.keeps hu hk ht hs
  obtain ⟨υ, es, hp, htυ, hlog, hes, hconnection⟩ := exists_parses_violation hu hkρ htρ hsρ hv
  have hspent : υ.store.IsSpent := by
    obtain ⟨log, hr⟩ := (hp.kept hkρ).reachable
    refine hr.isSpent htυ ?_ (congrArg Connection.state hconnection)
    show υ.store.connection.alive = true
    rw [hconnection]
    cases ha : ρ.store.connection.alive with
    | true => rfl
    | false => exact absurd (hkρ.state_of_not_alive ha) hsρ
  refine ⟨υ, es, hf.parses hk ht hp, hlog, hes, ?_, hconnection, hspent, fun ω hω => ?_⟩
  · have hnone : verdicts es = [] := by
      rw [verdicts_eq_nil_iff]
      intro cb hcb
      obtain ⟨f, he⟩ | ⟨m, -, he⟩ := hes _ hcb
      · cases he
      · cases he
        rfl
    rw [hlog, ← List.singleton_append, verdicts_append, verdicts_append, hnone, hvρ]
    rfl
  · obtain ⟨hlog, hω⟩ := spent_reaches hspent htυ hω
    refine ⟨hlog, fun c χ htω hc => ?_⟩
    obtain ⟨-, hl, rfl⟩ := call?_eq_some_iff.1 hc
    obtain ⟨s, -, hgo⟩ := (hω htω).answers c hl ω.log
    exact ⟨s, by rw [htω]; exact hgo⟩

/-- A channel is opened, and its confirmation comes twice. -/
theorem parses_violation_openAnswer : ∃ σ ρ υ : Session, σ.Reachable ∧ σ.state = .connected ∧
    Applies quiet σ [(openAnswer 1).toWire.octets] ρ ∧ (ρ.store.channel 0).state = .open ∧
    Parses quiet σ ((openAnswer 1).toWire.octets ++ (openAnswer 1).toWire.octets) 16 υ ∧
    verdicts σ.log = [] ∧
    verdicts υ.log = [.error "Channel 1: unexpected method 20.11 in state Open"] ∧
    υ.store.IsSpent := by
  let after : Nat × Session → Nat × ConnectionState × ChannelState × Option Violation := fun r =>
    (r.1, r.2.state, (r.2.store.channel 0).state, r.2.store.violation? (openAnswer 1).toWire.octets)
  obtain ⟨σ, hσ, he⟩ := exists_reaches_of_play
    (establish ++ [some (.call .openChannel)] ++ pass 0 ++ [none, none, none]) (connect .standard)
    (fun σ => [σ.tasks.isEmpty, decide (σ.state = .connected), decide (σ.store.connection.owned = 1),
      decide (σ.store.connection.maxFrameSize = 131072), decide (verdicts σ.log = []),
      decide ((((σ.call? (.parse (openAnswer 1).toWire.octets)).bind (finish quiet 60)).map after) =
        some (16, .connected, .open, some (.channel 1 (.unexpectedMethod 20 11 .open))))])
    (a := [true, true, true, true, true, true]) (by decide +kernel)
  simp only [after, Prod.mk.injEq, List.cons.injEq, List.isEmpty_iff, decide_eq_true_eq,
    Option.map_eq_some_iff, Option.bind_eq_some_iff, and_true] at he
  obtain ⟨htasks, hstate, howned, hmax, hverdicts, ⟨n, ρ⟩, ⟨τ, hτ, hρ⟩, hn, hopen, hchannel, hv⟩ := he
  have hlen : (openAnswer 1).toWire.octets.length = 16 := by decide +kernel
  have hd : Frame.decode (openAnswer 1).toWire.octets σ.store.connection.maxFrameSize =
      .ok (some ⟨openAnswer 1, (openAnswer 1).toWire.octets.length⟩) := by
    rw [hmax]
    decide +kernel
  have hp : Parses quiet σ (openAnswer 1).toWire.octets (openAnswer 1).toWire.octets.length ρ := by
    refine ⟨τ, hτ, ?_⟩
    rw [htasks, hlen, ← hn]
    exact returns_of_finish hρ
  have hf : Applies quiet σ [(openAnswer 1).toWire.octets] ρ :=
    .cons (openAnswer 1) hd hp (by rw [hopen]; decide) (.nil ρ)
  have hu : quiet.IsPassive := fun _ _ => ⟨.done, rfl⟩
  obtain ⟨υ, es, hparses, -, -, htold, -, hspent, -⟩ := parses_violation hu ⟨.standard, hσ⟩ htasks
    (by rw [howned]; decide) (by rw [hstate]; decide) hf hv
  rw [List.flatten_singleton, hlen] at hparses
  refine ⟨σ, ρ, υ, ⟨.standard, hσ⟩, hstate, hf, hchannel, hparses, hverdicts, ?_, hspent⟩
  rw [htold, hverdicts]
  rfl

end AmqpSession.Session
