/-
The close of a connection by this side, over a whole run. It is due from the step on by which a close was
granted and the connection is established (`CloseDue`). Where no callback calls anything, it goes out
exactly then, once, behind all that was accepted before and the closes of the channels, and nothing
goes out after it but the answer to the peer's own close (`closed_once_and_last`). That it goes out in
the end is because all work comes to rest.
-/
import AmqpSession.Proofs.Effort
import AmqpSession.Proofs.Shutdown

namespace AmqpSession

open Wire

/-! ## Who asks for a close -/

namespace Store

variable {s : Store}

theorem closeRequested_of_close {n : Next} (h : s.close = .ok n) :
    n.store.connection.closeRequested = true := by
  cases closesConnection h with
  | begun => exact congrArg Connection.closeRequested (connection_holdRegistered _)
  | noted => rfl

theorem closeRequested_destroy (s : Store) : s.destroy.store.connection.closeRequested = true ↔
    s.connection.closeRequested = true ∨ (s.connection.alive = true ∧ ∃ n, s.close = .ok n) :=
  match s.destroy, s.destroys with
  | _, .aside ha => by simp [Next.only, ha]
  | _, .closing ha hc => by simp [Next.andThen, closeRequested_of_close hc, ha, hc]
  | _, .closed ha hc => by simp [Next.follow, hc]

theorem closeRequested_receive_openOk (hs : s.connection.state = .negotiatingTuning) (p : Parsing) :
    (s.receive (.ofConnection .openOk) p).store.connection.closeRequested =
      s.connection.closeRequested := by
  have hc := receive_connects (s := s) (f := .ofConnection .openOk) (p := p) rfl rfl hs
  rw [hc.connection]

theorem closeRequested_parse (s : Store) (buffer : Bytes) (processed : Nat) :
    (s.parse buffer processed).store.connection.closeRequested = s.connection.closeRequested := by
  obtain ⟨hn, -⟩ | ⟨p, hs, hn⟩ | ⟨reason, p, -, -, hn⟩ :=
    parse_isOrdinary (t := none) s buffer processed
  · exact hn.asked
  · rw [hn, closeRequested_receive_openOk hs]
  · rw [hn, receive_close]

theorem closeRequested_offer (s : Store) (f : Frame) :
    (s.offer f).store.connection.closeRequested = s.connection.closeRequested := by
  match s.offer f, s.offers f with
  | _, .sent hn =>
    obtain ⟨octets, -, -, ⟨-, rfl⟩ | ⟨-, rfl⟩⟩ := send_cases hn <;> rfl
  | _, .unsent _ => rfl

end Store

/-- A task asks for a close only by letting go of the last handle. -/
theorem Task.run_closeRequested {t : Task} {s : Store} {n : Next} (hp : t.isProper = true)
    (hn : t.run s = some n) : n.store.connection.closeRequested = true ↔
      s.connection.closeRequested = true ∨ (t = .releaseHandle ∧ s.handles = 1 ∧
        s.connection.alive = true ∧ ∃ n, s.close = .ok n) := by
  have kept : n.store.connection.closeRequested = s.connection.closeRequested → t ≠ .releaseHandle →
      (n.store.connection.closeRequested = true ↔ s.connection.closeRequested = true ∨
        (t = .releaseHandle ∧ s.handles = 1 ∧ s.connection.alive = true ∧ ∃ n, s.close = .ok n)) := by
    intro hkept hne
    rw [hkept, or_iff_left fun h => hne h.1]
  by_cases ho : t.isOrdinary = true
  · exact kept (Task.run_isOrdinary hp ho hn).asked (by rintro rfl; cases ho)
  · cases t with
    | parse buffer processed => cases hn; exact kept (Store.closeRequested_parse _ _ _) (by simp)
    | sendClose =>
      cases hn
      refine kept ?_ (by simp)
      split
      · exact Store.closeRequested_offer _ _
      · rfl
    | releaseHandle =>
      cases hn
      match s.releaseHandle, s.releasesHandle with
      | _, .last hh =>
        refine (Store.closeRequested_destroy s).trans (or_congr_right ?_)
        simp [hh]
      | _, .other hh => exact (or_iff_left fun h => hh h.2.1).symm
    | _ => exact absurd rfl ho

namespace Session

open Store

/-- User code asks for a close, or destroys the connection. -/
theorem Call.run_closeRequested {c : Call} (s : Store) (hb : ∀ body, c.sent? = some body →
    body ≠ connectionClose.body) : (c.run s).store.connection.closeRequested = true ↔
      s.connection.closeRequested = true ∨ (c = .close ∧ ∃ n, s.holdHandle.close = .ok n) ∨
        (c = .destroy ∧ s.connection.alive = true ∧ ∃ n, s.holdHandle.close = .ok n) := by
  by_cases hclose : c = .close
  · subst hclose
    show (tryOnConnection s .closed Store.close).store.connection.closeRequested = true ↔ _
    match tryOnConnection s .closed Store.close, tries s .closed Store.close with
    | _, .accepted hc => simp [Next.andThen, closeRequested_of_close hc, hc]
    | _, .refused hc => simp [Next.follow, hc]
  · by_cases hdestroy : c = .destroy
    · subst hdestroy
      refine (closeRequested_destroy s.holdHandle).trans ?_
      simp
    · rw [(Call.run_isOrdinary s hb hclose hdestroy).asked]
      simp [hclose, hdestroy]

/-- A close is granted in the step: user code asks for it, or the connection is destroyed, by user code or
with its last handle. -/
inductive Moment.GrantsClose (m : Moment) : Prop where
  | called (ha : m.act = some (.call .close)) (hc : ∃ n, m.before.store.holdHandle.close = .ok n)
  | destroyed (ha : m.act = some (.call .destroy)) (hl : m.before.store.connection.alive = true)
      (hc : ∃ n, m.before.store.holdHandle.close = .ok n)
  | dropped (ha : m.act = none) (ht : m.before.tasks.head? = some .releaseHandle)
      (hh : m.before.store.handles = 1) (hl : m.before.store.connection.alive = true)
      (hc : ∃ n, m.before.store.close = .ok n)

variable {σ₀ σ τ : Session} {a : Option Act} {ms : List Moment} {o : Options}

/-- A close that was granted stays so. -/
theorem closeRequested_next? (hσ : σ.Reachable) (hs : σ.next? a = some τ)
    (hp : Moment.IsPassive ⟨σ, a, τ⟩) : τ.store.connection.closeRequested = true ↔
      σ.store.connection.closeRequested = true ∨ Moment.GrantsClose ⟨σ, a, τ⟩ := by
  obtain ⟨t, rest, n, rfl, ht, hn, rfl⟩ | ⟨call, rfl, -, -, rfl⟩ | ⟨r, cb, rest, rfl, ht, rfl⟩ :=
    next?_cases hs
  · have hhead : σ.tasks.head? = some t := by rw [ht]; rfl
    have hproper := hσ.isProper t (by rw [ht]; exact List.mem_cons_self)
    refine (Task.run_closeRequested hproper hn).trans (or_congr_right ⟨?_, fun h => ?_⟩)
    · rintro ⟨rfl, hh, hl, hc⟩
      exact .dropped rfl hhead hh hl hc
    · cases h with
      | called ha | destroyed ha => cases ha
      | dropped _ hd hh hl hc => exact ⟨Option.some.inj (hhead.symm.trans hd), hh, hl, hc⟩
  · refine (Call.run_closeRequested σ.store fun body hbody he => ?_).trans (or_congr_right ⟨?_, fun h => ?_⟩)
    · have h := hp.body body hbody
      rw [he] at h
      cases h
    · rintro (⟨rfl, hc⟩ | ⟨rfl, hl, hc⟩)
      · exact .called rfl hc
      · exact .destroyed rfl hl hc
    · cases h with
      | called ha hc => cases ha; exact .inl ⟨rfl, hc⟩
      | destroyed ha hl hc => cases ha; exact .inr ⟨rfl, hl, hc⟩
      | dropped ha => cases ha
  · refine (or_iff_left fun h => ?_).symm
    cases h with
    | called ha | destroyed ha | dropped ha => cases ha

theorem granted_iff (h : Trail (connect o) ms σ) (hp : ∀ m ∈ ms, m.IsPassive) :
    σ.store.connection.closeRequested = true ↔ ∃ m ∈ ms, m.GrantsClose := by
  induction h with
  | nil =>
    have hnew : (connect o).store.connection.closeRequested = false :=
      (offer_isOrdinary (.new o) (by simp [connectionClose, Frame.ofConnection, Frame.greeting])).asked
    simp [hnew]
  | cons a h hs ih =>
    obtain ⟨hpa, hp⟩ := List.forall_mem_cons.1 hp
    rw [closeRequested_next? (h.reachable ⟨o, .refl⟩) hs hpa, ih hp, or_comm]
    simp

/-! ## When it is due -/

/-- After some step the connection is established, and a close was granted by then. -/
def CloseDue (ms : List Moment) : Prop :=
  ∃ later m earlier, ms = later ++ m :: earlier ∧ m.after.store.connection.state = .connected ∧
    ∃ m' ∈ m :: earlier, m'.GrantsClose

theorem closeDue_iff (h : Trail (connect o) ms σ) (hp : ∀ m ∈ ms, m.IsPassive) :
    CloseDue ms ↔ ∃ m ∈ ms, m.after.MustClose := by
  have granted : ∀ {later : List Moment} {m : Moment} {earlier : List Moment},
      ms = later ++ m :: earlier →
      (m.after.store.connection.closeRequested = true ↔ ∃ m' ∈ m :: earlier, m'.GrantsClose) := by
    rintro later m earlier rfl
    have hpast : ∀ m' ∈ m :: earlier, m'.IsPassive := fun m' hm => hp m' (List.mem_append_right _ hm)
    exact granted_iff (.cons m.act h.split.1 (h.moment ⟨o, .refl⟩ m (by simp)).2) hpast
  constructor
  · rintro ⟨later, m, earlier, hms, hc, hg⟩
    exact ⟨m, by rw [hms]; simp, (granted hms).2 hg, hc⟩
  · rintro ⟨m, hm, hr, hc⟩
    obtain ⟨later, earlier, hms⟩ := List.append_of_mem hm
    exact ⟨later, m, earlier, hms, hc, (granted hms).1 hr⟩

/-! ## The whole run -/

/-- The close went out once, behind these frames, and after it nothing but the answer to the peer's own
close. -/
def ClosesBehind (fs : List Frame) (log : List Event) : Prop :=
  ∃ later earlier, log = later ++ .started (.data connectionClose.toWire.octets) ::
    .handed connectionClose :: earlier ∧ handedOver earlier = fs ∧
    .handed connectionClose ∉ later ++ earlier ∧ (NothingOut later ∨ AnswersOnly later)

/-- The close is on its way behind the frames, or it went out behind them. -/
def Leaves (K : List Frame) (σ : Session) : Prop := σ.Telling K ∨ σ.Waiting K ∨ σ.Sent K

theorem Leaves.next? {K : List Frame} (h : σ.Leaves K) (hσ : σ.Reachable) (hs : σ.next? a = some τ)
    (hp : Moment.IsPassive ⟨σ, a, τ⟩) : τ.Leaves K := by
  rcases h with h | h | h
  · exact h.next? hσ hs hp
  · exact .inr (h.next? hσ hs hp)
  · exact .inr (.inr (h.next? hσ hs hp))

/-- Where user code only returns, nothing but the phases of the close comes next. -/
theorem Leaves.passes {K : List Frame} (h : σ.Leaves K) (hσ : σ.Reachable) (hp : σ.Passes τ) :
    τ.Reachable ∧ τ.Leaves K := by
  induction hp with
  | refl => exact ⟨hσ, h⟩
  | @tail υ τ _ hs ih =>
    obtain ⟨a, ha, hcall⟩ := next?_of_passive? hs
    exact ⟨ih.1.step (.next ha), ih.2.next? ih.1 ha (.of_not_call hcall)⟩

theorem Releases.ne_nil {state : ConnectionState} {front : List Task} (h : Releases state front) :
    front ≠ [] := by
  cases h <;> exact List.cons_ne_nil _ _

theorem mem_handedOver_of_handed {f : Frame} (hf : f.isPartOfHandshake = false) {log : List Event}
    (h : .handed f ∈ log) : f ∈ handedOver log := by
  obtain ⟨later, earlier, rfl⟩ := List.append_of_mem h
  rw [AmqpSession.handedOver_append, handedOver, hf]
  simp

/-- Until it went out the close is on its way, and then nothing is handed over but what precedes it. -/
theorem Leaves.closesBehind {K : List Frame} (h : σ.Leaves K) (hσ : σ.Reachable)
    (hK : connectionClose ∉ K) (hend : σ.tasks = [] ∨ .handed connectionClose ∈ σ.log) :
    ClosesBehind K σ.log := by
  have hbalance := hσ.delivers.balance
  -- nothing that is on its way was handed over
  have hunsent : handedOver σ.log <+: K → .handed connectionClose ∉ σ.log := fun hpre hm =>
    hK (hpre.subset (mem_handedOver_of_handed rfl hm))
  rcases h with h | h | h
  · obtain ⟨front, below, htasks, hfront, -⟩ := h.work
    rcases hend with hend | hend
    · rw [hend] at htasks
      cases front <;> cases htasks
    · refine absurd hend (hunsent ?_)
      cases hfront with
      | told hk => exact hk ▸ hbalance ▸ List.prefix_append _ _
      | left above es ha hd hk =>
        rw [← hk, ← hbalance, List.append_assoc]
        exact List.prefix_append _ _
  · obtain ⟨front, below, htasks, hfront, -⟩ := h.work
    rcases hend with hend | hend
    · rw [hend] at htasks
      exact absurd (List.append_eq_nil_iff.1 htasks.symm).1 hfront.ne_nil
    · refine absurd hend (hunsent ?_)
      obtain ⟨q, hq⟩ := h.queue
      rw [hq, h.kept, ← List.append_assoc] at hbalance
      exact List.append_cancel_right hbalance ▸ List.prefix_append _ _
  · obtain ⟨later, earlier, hlog, rfl, hafter⟩ := h
    have hlater : NothingOut later ∨ AnswersOnly later := by
      cases hafter with
      | awaiting _ _ _ _ _ _ _ hl | silent _ hl => exact .inl hl
      | answering _ _ _ _ _ _ hl | answered _ _ hl => exact .inr hl
    refine ⟨later, earlier, hlog, rfl, fun hm => ?_, hlater⟩
    rcases List.mem_append.1 hm with hm | hm
    · rcases hlater with hl | ⟨_, reason, _, rfl, hl, he⟩
      · exact hl.1 _ hm
      · simp only [List.mem_append, List.mem_cons, reduceCtorEq, false_or] at hm
        exact hm.elim (hl.1 _) (he.1 _)
    · exact hK (mem_handedOver_of_handed rfl hm)

theorem notDue_connect (o : Options) : (connect o).NotDue ∧ (connect o).HoldsOn := by
  have hn : ((Store.new o).offer .greeting).IsOrdinary false :=
    offer_isOrdinary (.new o) (by simp [connectionClose, Frame.ofConnection, Frame.greeting])
  have hlog : (connect o).log = ((Store.new o).offer .greeting).log.reverse := List.append_nil _
  refine ⟨⟨fun hdue => ?_, fun hm => ?_, ?_⟩, ?_⟩
  · have hasked : (connect o).store.connection.closeRequested = false := hn.asked
    rw [hdue.1] at hasked
    cases hasked
  · rw [hlog, List.mem_reverse] at hm
    exact hn.sent hm
  · exact connect_tasks o (fun _ hc => (Task.plain_of_isCommon hc).2.2) rfl rfl
  · exact connect_tasks o (fun _ hc hb => absurd hb (not_isBuffers_of_isCommon hc))
      (by simp [IsBuffers]) (by simp [IsBuffers])

/-- Either no close was ever due, or there is the step by which it became due. -/
theorem Trail.notDue_or_leaves (h : Trail (connect o) ms σ) (hp : ∀ m ∈ ms, m.IsPassive) :
    σ.HoldsOn ∧ ((σ.NotDue ∧ ∀ m ∈ ms, ¬ m.after.MustClose) ∨
      ∃ later m earlier, ms = later ++ m :: earlier ∧ m.before.NotDue ∧ m.after.MustClose ∧
        (∀ m' ∈ earlier, ¬ m'.after.MustClose) ∧
        σ.Leaves (kept m.before.log ++ m.before.store.closes)) := by
  induction h with
  | nil => exact ⟨(notDue_connect o).2, .inl ⟨(notDue_connect o).1, by simp⟩⟩
  | @cons ms σ τ a h hs ih =>
    obtain ⟨hpa, hp⟩ := List.forall_mem_cons.1 hp
    obtain ⟨hh, ih⟩ := ih hp
    have hσ : σ.Reachable := h.reachable ⟨o, .refl⟩
    refine ⟨hh.next? hσ hs hpa, ?_⟩
    rcases ih with ⟨hn, hnone⟩ | ⟨later, m, earlier, rfl, hm, hdue, hbefore, hl⟩
    · rcases hn.next? hh hσ hs hpa with hn' | ⟨hdue, ht⟩
      · exact .inl ⟨hn', List.forall_mem_cons.2 ⟨hn'.due, hnone⟩⟩
      · exact .inr ⟨[], ⟨σ, a, τ⟩, ms, rfl, hn, hdue, hnone, .inl ht⟩
    · exact .inr ⟨⟨σ, a, τ⟩ :: later, m, earlier, rfl, hm, hdue, hbefore, hl.next? hσ hs hpa⟩

/-- A run in which no callback calls anything and user code sends no method of the connection itself. Where
no close is due, none goes out. By the step with which it becomes due, the frames accepted so far and not
discarded are settled to go out first, in their order; then one close for each channel that is registered,
not gone, and opening or open at that time, in the order of the ids; then the close of the connection, once;
and after it nothing but the answer to the peer's own close. Once all work is done, it went out; and all
work is done in the end if user code only returns. -/
theorem closed_once_and_last (h : Trail (connect o) ms σ) (hp : ∀ m ∈ ms, m.IsPassive) :
    (¬ CloseDue ms → .handed connectionClose ∉ σ.log) ∧
    (CloseDue ms → ∃ later m earlier, ms = later ++ m :: earlier ∧ ¬ CloseDue earlier ∧
      CloseDue (m :: earlier) ∧ (m.before.store.closes.Pairwise fun f g => f.channel < g.channel) ∧
      (σ.tasks = [] ∨ .handed connectionClose ∈ σ.log →
        ClosesBehind (kept m.before.log ++ m.before.store.closes) σ.log) ∧
      ∃ τ, σ.Settles τ ∧ ClosesBehind (kept m.before.log ++ m.before.store.closes) τ.log) := by
  have hσ : σ.Reachable := h.reachable ⟨o, .refl⟩
  rw [closeDue_iff h hp]
  obtain ⟨-, ⟨hn, hnone⟩ | ⟨later, m, earlier, rfl, hm, hdue, hbefore, hl⟩⟩ := h.notDue_or_leaves hp
  · refine ⟨fun _ hmem => ?_, fun ⟨m, hm, hdue⟩ => absurd hdue (hnone m hm)⟩
    -- what goes out was accepted
    have hkept : connectionClose ∈ kept σ.log := by
      rw [← hσ.delivers.balance]
      exact List.mem_append_left _ (mem_handedOver_of_handed rfl hmem)
    exact hn.unsent (accepted_of_mem_kept hkept)
  · have htrail : Trail (connect o) (m :: earlier) m.after :=
      .cons m.act h.split.1 (h.moment ⟨o, .refl⟩ m (by simp)).2
    have hpast : ∀ m' ∈ m :: earlier, m'.IsPassive := fun m' hm => hp m' (List.mem_append_right _ hm)
    have hK : connectionClose ∉ kept m.before.log ++ m.before.store.closes := by
      rw [List.mem_append, not_or]
      exact ⟨fun hk => hm.unsent (accepted_of_mem_kept hk), connectionClose_notMem_closes _⟩
    obtain ⟨τ, hτ⟩ := exists_settles σ
    obtain ⟨hτr, hτl⟩ := hl.passes hσ hτ.1
    refine ⟨fun hno => absurd ⟨m, by simp, hdue⟩ hno, fun _ => ⟨later, m, earlier, rfl, ?_, ?_,
      closes_ascend _, hl.closesBehind hσ hK, τ, hτ, hτl.closesBehind hτr hK (.inl hτ.2)⟩⟩
    · rw [closeDue_iff h.split.1 (List.forall_mem_cons.1 hpast).2]
      rintro ⟨m', hm', hdue'⟩
      exact hbefore m' hm' hdue'
    · exact (closeDue_iff htrail hpast).2 ⟨m, List.mem_cons_self, hdue⟩

/-! ### A close during negotiation -/

instance (m : Moment) : Decidable m.IsPassive :=
  decidable_of_iff (m.CallsAtRest ∧ m.sent?.all (!·.isConnectionMethod) = true)
    ⟨fun h => ⟨h.1, fun body hb => by have := h.2; rw [hb] at this; simpa using this⟩, fun h => by
      refine ⟨h.rest, ?_⟩
      cases hb : m.sent? with
      | none => rfl
      | some body => simp [h.body body hb]⟩

/-- Two channels are opened, a heartbeat is sent and the connection is closed before the server answers. -/
def closeEarly : List (Option Act) :=
  greeted ++ openEarly ++ openEarly ++ [some (.call (.send .heartbeat)), none, none,
    some (.call .close), none, none, some (.call (.parse serverHandshake))] ++
    pass 1 ++ pass 2 ++ pass 2 ++ pass 1 ++ pass 12 ++ pass 1 ++ pass 1 ++ pass 1 ++ pass 1 ++ pass 1 ++
    pass 1 ++ [none, none, none, none, none]

theorem closed_once_and_last_early : ∃ (ms : List Moment) (σ : Session),
    Trail (connect .standard) ms σ ∧ (∀ m ∈ ms, m.IsPassive) ∧ σ.tasks = [] ∧ CloseDue ms ∧
      handedOver σ.log = [.ofChannel 1 .openRequest, .ofChannel 2 .openRequest, .heartbeat,
        .ofChannel 1 (.close (.plain replySuccess "")), .ofChannel 2 (.close (.plain replySuccess "")),
        connectionClose] ∧
      ∃ m ∈ ms, ClosesBehind (kept m.before.log ++ m.before.store.closes) σ.log := by
  obtain ⟨ms, σ, h, he⟩ := exists_trail_of_record closeEarly (connect .standard)
    (fun ms σ => (decide (∀ m ∈ ms, m.IsPassive), σ.tasks.isEmpty,
      ms.any fun m => m.after.store.connection.closeRequested &&
        m.after.store.connection.state == .connected, handedOver σ.log))
    (a := (true, true, true, [.ofChannel 1 .openRequest, .ofChannel 2 .openRequest, .heartbeat,
      .ofChannel 1 (.close (.plain replySuccess "")), .ofChannel 2 (.close (.plain replySuccess "")),
      connectionClose])) (by decide +kernel)
  simp only [Prod.mk.injEq] at he
  obtain ⟨hp, htasks, hdue, hout⟩ := he
  have hp := of_decide_eq_true hp
  have htasks := List.isEmpty_iff.1 htasks
  have hdue : CloseDue ms := by
    obtain ⟨m, hm, hc⟩ := List.any_eq_true.1 hdue
    rw [Bool.and_eq_true, beq_iff_eq] at hc
    exact (closeDue_iff h hp).2 ⟨m, hm, hc⟩
  obtain ⟨later, m, earlier, hms, -, -, -, hlast, -⟩ := (closed_once_and_last h hp).2 hdue
  exact ⟨ms, σ, h, hp, htasks, hdue, hout, m, by rw [hms]; simp, hlast (.inl htasks)⟩

end Session

end AmqpSession
