/-
Limits that are announced. A tune begins a talk about limits: user code is asked for an interval, the
limits are set, channels over them are turned away, and a tune-ok tells the peer (`Talk`). As long as no
callback parses, there is one talk at a time (`Stage`), so the limits that the peer is told are the ones
in force, from that moment until others are set (`announced_limits_in_force`).
-/
import AmqpSession.Proofs.Blame
import AmqpSession.Proofs.InTurn
import AmqpSession.Proofs.Limits
import AmqpSession.Proofs.Routing
import AmqpSession.Proofs.Tacit

namespace AmqpSession

open Wire

/-- The interval that a reply chooses when one is offered. -/
def Reply.chosen (r : Reply) (offered : UInt16) : UInt16 :=
  match r with
  | .interval seconds => seconds
  | _ => offered

namespace Session

/-- The interval that user code chooses is the one that is set. -/
theorem answerWith_negotiate (limits : Tune) (r : Reply) (rest : List Task) :
    answerWith (.negotiate limits.heartbeat) r (.tuned limits :: rest) =
      .tuned { limits with heartbeat := r.chosen limits.heartbeat } :: rest := by
  cases r <;> rfl

/-! ## Negotiation on record -/

namespace Moment

/-- The tune that is accepted in this step. -/
def proposal? (m : Moment) : Option Tune :=
  if m.before.store.connection.state = .negotiatingTuning then
    match m.before.takes? with
    | some ⟨0, .method (.connection (.tune theirs))⟩ => some theirs
    | _ => none
  else none

/-- The interval that user code was offered, and the one that it chooses in this step. -/
def choice? (m : Moment) : Option (UInt16 × UInt16) :=
  match m.act, m.before.tasks with
  | some (.return r), .user (.negotiate offered) :: _ => some (offered, r.chosen offered)
  | _, _ => none

/-- This side itself sends a tune-ok. -/
def Announces (m : Moment) (limits : Tune) : Prop :=
  m.act = none ∧ .handed (.ofConnection (.tuneOk limits)) ∈ m.noted

instance (m : Moment) (limits : Tune) : Decidable (m.Announces limits) :=
  decidable_of_iff ((m.act.isNone && m.noted.any fun
    | .handed f => f = .ofConnection (.tuneOk limits)
    | _ => false) = true) <| by
    unfold Announces
    rw [Bool.and_eq_true, Option.isNone_iff_eq_none, List.any_eq_true]
    refine and_congr_right fun _ => ⟨?_, fun h => ⟨_, h, decide_eq_true rfl⟩⟩
    rintro ⟨e, he, hf⟩
    split at hf
    · rwa [of_decide_eq_true hf] at he
    · cases hf

/-- Limits are set that were agreed on. -/
def Tunes (m : Moment) : Prop :=
  m.before.store.connection.alive = true ∧ ∃ limits, m.before.tasks.head? = some (.tuned limits)

instance (m : Moment) : Decidable m.Tunes :=
  decidable_of_iff ((m.before.store.connection.alive && m.before.tasks.head?.any fun
    | .tuned _ => true
    | _ => false) = true) <| by
    unfold Tunes
    rw [Bool.and_eq_true, Option.any_eq_true]
    refine and_congr_right fun _ => ⟨?_, fun ⟨limits, h⟩ => ⟨_, h, rfl⟩⟩
    rintro ⟨t, ht, hl⟩
    split at hl
    · exact ⟨_, ht⟩
    · cases hl

end Moment

/-- The tune that was accepted last, with the intervals that user code was offered since then and the
ones that it chose. -/
def negotiation : List Moment → Option (Tune × List (UInt16 × UInt16))
  | [] => none
  | m :: ms =>
    match m.proposal? with
    | some theirs => some (theirs, [])
    | none => (negotiation ms).map fun r => (r.1, m.choice?.toList ++ r.2)

variable {σ τ : Session} {a : Option Act} {ms : List Moment} {o : Options}

theorem Moment.proposal?_eq_some_iff {m : Moment} {theirs : Tune} : m.proposal? = some theirs ↔
    m.before.store.connection.state = .negotiatingTuning ∧
      m.before.takes? = some (.ofConnection (.tune theirs)) := by
  unfold proposal?
  split
  · rename_i hs
    constructor
    · intro h
      split at h
      · rename_i theirs' ht
        cases h
        exact ⟨hs, ht⟩
      · cases h
    · rintro ⟨-, ht⟩
      rw [ht]
      rfl
  · rename_i hs
    simp [hs]

/-- A tune is accepted by a task that goes on with a buffer. -/
theorem Moment.proposal?_eq_none {m : Moment}
    (h : ∀ buffer processed, m.before.tasks.head? ≠ some (.parse buffer processed)) :
    m.proposal? = none := by
  cases hp : m.proposal? with
  | none => rfl
  | some theirs =>
    obtain ⟨buffer, processed, rest, -, ht, -⟩ := exists_of_takes? (Moment.proposal?_eq_some_iff.1 hp).2
    rw [ht] at h
    exact absurd rfl (h buffer processed)

theorem negotiation_of_proposal {m : Moment} {theirs : Tune} (h : m.proposal? = some theirs) :
    negotiation (m :: ms) = some (theirs, []) := by
  rw [negotiation, h]

/-- A step that accepts no tune and in which user code chooses nothing is no part of a negotiation. -/
theorem negotiation_of_none {m : Moment} (hp : m.proposal? = none) (hc : m.choice? = none) :
    negotiation (m :: ms) = negotiation ms := by
  rw [negotiation, hp, hc]
  cases negotiation ms <;> rfl

theorem negotiation_of_choice {m : Moment} {theirs : Tune} {choice : UInt16 × UInt16}
    (hp : m.proposal? = none) (hc : m.choice? = some choice)
    (h : negotiation ms = some (theirs, [])) : negotiation (m :: ms) = some (theirs, [choice]) := by
  rw [negotiation, hp, hc, h]
  rfl

/-! ## Negotiation on the stack -/

/-- The limits follow from the tune that was accepted last, with the interval that user code chose when
it was asked once. -/
def Agreed (o : Options) (ms : List Moment) (limits : Tune) : Prop :=
  ∃ theirs, negotiation ms = some (theirs, [((o.agree theirs).heartbeat, limits.heartbeat)]) ∧
    limits = { o.agree theirs with heartbeat := limits.heartbeat }

/-- How far the talk about limits has come. -/
inductive Talk (o : Options) (ms : List Moment) (k : Connection) : List Task → Prop where
  | silent : Talk o ms k []
  | asking {theirs : Tune} (h : negotiation ms = some (theirs, [])) :
      Talk o ms k [.user (.negotiate (o.agree theirs).heartbeat), .tuned (o.agree theirs)]
  | chosen {limits : Tune} (h : Agreed o ms limits) : Talk o ms k [.tuned limits]
  | announcing {limits : Tune} (surplus : List (UInt16 × EndpointRef)) (h : Agreed o ms limits)
      (hk : k.limits = limits) : Talk o ms k [.evict surplus limits]

/-- There is one talk about limits at most, in one piece. -/
def Stage (o : Options) (ms : List Moment) (k : Connection) (tasks : List Task) : Prop :=
  ∃ front talk rest, tasks = front ++ (talk ++ rest) ∧ (∀ t ∈ front, t.isTalk = false) ∧
    (∀ t ∈ rest, t.isTalk = false) ∧ Talk o ms k talk

namespace Stage

variable {k k' : Connection} {tasks : List Task} {t : Task}

theorem of_calm (h : ∀ t ∈ tasks, t.isTalk = false) : Stage o ms k tasks :=
  ⟨[], [], tasks, rfl, by simp, h, .silent⟩

theorem of_talk {talk rest : List Task} (h : Talk o ms k talk) (hr : ∀ t ∈ rest, t.isTalk = false) :
    Stage o ms k (talk ++ rest) :=
  ⟨[], talk, rest, rfl, by simp, hr, h⟩

theorem append (h : Stage o ms k tasks) {new : List Task} (hn : ∀ t ∈ new, t.isTalk = false) :
    Stage o ms k (new ++ tasks) := by
  obtain ⟨front, talk, rest, rfl, hf, hr, ht⟩ := h
  exact ⟨new ++ front, talk, rest, by rw [List.append_assoc],
    fun t hm => (List.mem_append.1 hm).elim (hn t) (hf t), hr, ht⟩

/-- Other steps change nothing about it. -/
theorem congr (h : Stage o ms k tasks) {ms' : List Moment} (hms : negotiation ms' = negotiation ms)
    (hk : k'.limits = k.limits) : Stage o ms' k' tasks := by
  obtain ⟨front, talk, rest, rfl, hf, hr, ht⟩ := h
  have agreed : ∀ {limits}, Agreed o ms limits → Agreed o ms' limits := by
    rintro limits ⟨theirs, hn, hl⟩
    exact ⟨theirs, hms.trans hn, hl⟩
  refine ⟨front, talk, rest, rfl, hf, hr, ?_⟩
  cases ht with
  | silent => exact .silent
  | asking hn => exact .asking (hms.trans hn)
  | chosen h => exact .chosen (agreed h)
  | announcing surplus h hl => exact .announcing surplus (agreed h) (hk.trans hl)

/-- The next task is no part of the talk, or the talk goes on with it. -/
theorem uncons (h : Stage o ms k (t :: tasks)) : (t.isTalk = false ∧ Stage o ms k tasks) ∨
    ∃ talk rest, tasks = talk ++ rest ∧ (∀ t ∈ rest, t.isTalk = false) ∧ Talk o ms k (t :: talk) := by
  obtain ⟨front, talk, rest, he, hf, hr, ht⟩ := h
  cases front with
  | cons t' front =>
    cases he
    rw [List.forall_mem_cons] at hf
    exact .inl ⟨hf.1, front, talk, rest, rfl, hf.2, hr, ht⟩
  | nil =>
    cases talk with
    | cons t' talk =>
      cases he
      exact .inr ⟨talk, rest, rfl, hr, ht⟩
    | nil =>
      rw [List.nil_append, List.nil_append] at he
      subst he
      rw [List.forall_mem_cons] at hr
      exact .inl ⟨hr.1, of_calm hr.2⟩

/-- A fault is noted in no part of the talk. -/
theorem refuse (h : Stage o ms k tasks) (v : Violation) : Stage o ms k (Session.refuse v tasks) := by
  obtain he | ⟨e, p, f, rest, rfl, he⟩ := refuse_eq v tasks
  · rwa [he]
  · rw [he]
    obtain ⟨-, h⟩ | ⟨talk, rest', -, -, ht⟩ := h.uncons
    · have hn : ∀ t ∈ [Task.handled e p (some v)], t.isTalk = false := by simp [Task.isTalk]
      exact h.append hn
    · cases ht

theorem below (h : Stage o ms k tasks) (n : Next) : Stage o ms k (Session.below n tasks) := by
  unfold Session.below
  split
  · exact h.refuse _
  · exact h

/-- Below a task that goes on with a buffer there is no talk. -/
theorem calm_of_isOther (h : Stage o ms k tasks) (ho : ∀ t ∈ tasks, t.isOther) :
    ∀ t ∈ tasks, t.isTalk = false := by
  obtain ⟨front, talk, rest, rfl, hf, hr, ht⟩ := h
  have answering : ∀ t ∈ talk, t.isAnswering = false := fun t hm =>
    (ho t (List.mem_append_right _ (List.mem_append_left _ hm))).2
  have hnil : talk = [] := by
    cases ht with
    | silent => rfl
    | asking | chosen | announcing => simp at answering
  subst hnil
  intro t hm
  exact (List.mem_append.1 hm).elim (hf t) (hr t)

end Stage

/-! ## One step -/

/-- Limits stay as they are until others are set. -/
theorem limits_of_next? (hσ : σ.Reachable) (hs : σ.next? a = some τ)
    (ht : ¬ Moment.Tunes ⟨σ, a, τ⟩) : τ.store.connection.limits = σ.store.connection.limits := by
  rcases (Step.next hs).cases hσ.isProper with ⟨es, old, new, rest, rest', hw⟩ | hc
  · refine hw.moves.limits_eq fun limits hlimits => ?_
    rw [← Bool.not_eq_true]
    exact fun ha => ht ⟨ha, limits, hlimits⟩
  · rw [hc.connection]
    rfl

/-- Setting limits is part of the talk about them. -/
theorem not_tunes_of_isTalk {t : Task} {rest : List Task} (ht : σ.tasks = t :: rest)
    (hc : t.isTalk = false) : ¬ Moment.Tunes ⟨σ, a, τ⟩ := by
  rintro ⟨-, limits, hhead⟩
  rw [show Moment.before ⟨σ, a, τ⟩ = σ from rfl, ht] at hhead
  cases hhead
  cases hc

theorem negotiation_of_task {t : Task} {rest : List Task} (ht : σ.tasks = t :: rest)
    (hp : ∀ buffer processed, t ≠ .parse buffer processed) :
    negotiation (⟨σ, none, τ⟩ :: ms) = negotiation ms := by
  refine negotiation_of_none (Moment.proposal?_eq_none fun buffer processed => ?_) rfl
  rw [show Moment.before ⟨σ, none, τ⟩ = σ from rfl, ht]
  simpa using hp buffer processed

/-- A task that accepts no tune is tacit if it is no part of the talk itself. -/
theorem isTacit_of_run (hσ : σ.Reachable) {t : Task} {rest : List Task} {n : Next}
    (ht : σ.tasks = t :: rest) (hn : t.run σ.store = some n) (hc : t.isTalk = false)
    (hp : Moment.proposal? ⟨σ, none, τ⟩ = none) : Next.IsTacit true n := by
  have hproper : t.isProper = true := hσ.isProper t (by rw [ht]; exact List.mem_cons_self)
  by_cases hparse : ∃ buffer processed, t = .parse buffer processed
  · obtain ⟨buffer, processed, rfl⟩ := hparse
    obtain rfl : σ.store.parse buffer processed = n := Option.some.inj hn
    cases htake : σ.takes? with
    | none =>
      obtain h | ⟨v, h⟩ := parse_of_takes?_none ht htake
      · rw [h]
        exact .follow _ (by simp [Store.endOfParse, Task.isTalk])
      · rw [h]
        exact Store.report_isTacit _ v processed
    | some f =>
      obtain ⟨p, h⟩ := parse_of_takes? hσ htake ht
      rw [h]
      refine Store.receive_isTacit _ p fun theirs hf hs => ?_
      subst hf
      rw [Moment.proposal?_eq_some_iff.2 ⟨hs, htake⟩] at hp
      cases hp
  · exact Task.run_isTacit hproper hσ.delivers.ordinary hc (fun b p h => hparse ⟨b, p, h⟩) hn

/-- What is left to do once a tune is accepted. -/
theorem receive_tune {s : Store} (hs : s.connection.state = .negotiatingTuning) (theirs : Tune)
    (p : Parsing) : s.receive (.ofConnection (.tune theirs)) p =
      { store := s
        tasks := [.user (.negotiate (s.connection.options.agree theirs).heartbeat),
          .tuned (s.connection.options.agree theirs), .handled none p none]
        log := [.received (.ofConnection (.tune theirs)),
          .started (.negotiate (s.connection.options.agree theirs).heartbeat)] } := by
  simp [Store.receive, Frame.ofConnection, Store.receiveOnConnection, Store.receiveConnectionMethod, hs,
    Store.receiveTune, Next.start]

theorem stage_of_proposal (hσ : σ.Reachable) (ho : σ.store.connection.options = o)
    (hturn : InTurn σ.tasks) (h : Stage o ms σ.store.connection σ.tasks) (hs : σ.next? none = some τ)
    {theirs : Tune} (hp : Moment.proposal? ⟨σ, none, τ⟩ = some theirs) :
    Stage o (⟨σ, none, τ⟩ :: ms) τ.store.connection τ.tasks := by
  obtain ⟨hstate, htake⟩ := Moment.proposal?_eq_some_iff.1 hp
  obtain ⟨buffer, processed, rest, r, ht, -⟩ := exists_of_takes? htake
  obtain ⟨t', p, rest', -, ht', hn, hτ⟩ := next?_of_takes? hσ htake hs
  rw [ht] at ht' hturn h
  cases ht'
  rw [receive_tune hstate, ho] at hτ
  -- the call is the only work on a frame, so nothing is talked about yet
  have hcalm : ∀ t ∈ rest, t.isTalk = false := by
    obtain ⟨-, h⟩ | ⟨talk, rest', -, -, h⟩ := h.uncons
    · exact h.calm_of_isOther fun t ht => ((List.pairwise_cons.1 hturn).1 t ht).1 rfl
    · cases h
  have htasks : τ.tasks = [.user (.negotiate (o.agree theirs).heartbeat), .tuned (o.agree theirs)] ++
      .handled none p none :: rest := by rw [hτ]; rfl
  rw [htasks]
  exact .of_talk (.asking (negotiation_of_proposal hp)) (List.forall_mem_cons.2 ⟨rfl, hcalm⟩)

/-- What turning away the next channel leaves to do before the one after it. -/
theorem evictNext_cons_calm (s : Store) (entry : UInt16 × EndpointRef)
    (rest : List (UInt16 × EndpointRef)) (limits : Tune) : ∃ front,
      (s.evictNext (entry :: rest) limits).tasks = front ++ [.evict rest limits] ∧
      (∀ t ∈ front, t.isTalk = false) ∧ (s.evictNext (entry :: rest) limits).fault = none ∧
      ∀ f, .handed f ∉ (s.evictNext (entry :: rest) limits).log := by
  match s.evictNext (entry :: rest) limits, s.evictsNext (entry :: rest) limits with
  | _, .rejected id (e := e) _ _ =>
    refine ⟨(((s.discard id).1.hold e).rejectEndpoint e).tasks ++ [.release e], ?_, ?_, ?_, ?_⟩
    · rw [List.append_assoc]
      rfl
    · cases e <;> simp [Store.rejectEndpoint, Next.start, Task.isTalk]
    · cases e <;> rfl
    · cases e <;> simp [Store.rejectEndpoint, Store.discard, Next.start, Next.andThen, Next.noting]
  | _, .gone _ _ _ =>
    exact ⟨[], rfl, List.forall_mem_nil _, rfl, by simp [Store.discard, Next.follow, Next.noting]⟩

/-- The limits that were agreed on are set, and then, channel by channel, those over them are turned
away. -/
theorem stage_of_talk {t : Task} {talk rest : List Task} {n : Next} (hσ : σ.Reachable)
    (ht : σ.tasks = t :: (talk ++ rest)) (hn : t.run σ.store = some n)
    (hs : σ.next? none = some τ) (hτ : τ = proceed n σ.log (talk ++ rest))
    (hr : ∀ t ∈ rest, t.isTalk = false) (h : Talk o ms σ.store.connection (t :: talk)) :
    Stage o (⟨σ, none, τ⟩ :: ms) τ.store.connection τ.tasks := by
  have agreed : ∀ {limits}, (∀ buffer processed, t ≠ .parse buffer processed) →
      Agreed o ms limits → Agreed o (⟨σ, none, τ⟩ :: ms) limits := by
    rintro limits hp ⟨theirs, hn, hl⟩
    exact ⟨theirs, (negotiation_of_task ht hp).trans hn, hl⟩
  have htasks : τ.tasks = n.tasks ++ below n (talk ++ rest) := by rw [hτ]; rfl
  have hstore : τ.store = n.store := by rw [hτ]; rfl
  rw [htasks]
  cases h with
  | asking => cases hn
  | @chosen limits h =>
    by_cases ha : σ.store.connection.alive = true
    · rw [Task.run, if_pos ha] at hn
      cases hn
      rw [hstore]
      exact .of_talk (.announcing _ (agreed (by simp) h) rfl) hr
    · rw [Task.run, if_neg ha] at hn
      cases hn
      exact .of_calm hr
  | @announcing limits surplus h hk =>
    have hsame : τ.store.connection.limits = σ.store.connection.limits := by
      refine limits_of_next? hσ hs ?_
      rintro ⟨-, limits', hhead⟩
      rw [show Moment.before ⟨σ, none, τ⟩ = σ from rfl, ht] at hhead
      cases hhead
    have htalk : ∀ surplus', Talk o (⟨σ, none, τ⟩ :: ms) τ.store.connection [.evict surplus' limits] :=
      fun surplus' => .announcing surplus' (agreed (by simp) h) (hsame.trans hk)
    by_cases ha : σ.store.connection.alive = true
    · rw [Task.run, if_pos ha] at hn
      obtain rfl := Option.some.inj hn
      cases surplus with
      | nil =>
        have hreply : Next.IsTacit false (σ.store.reply (.ofConnection (.tuneOk limits)) [.requestHost]) :=
          Store.reply_isTacit _ (by simp [Store.Untold]) (by simp [Task.isTalk])
        exact ((Stage.of_calm hr).below _).append hreply.calm
      | cons entry surplus =>
        obtain ⟨front, hfront, hcalm, hfault, -⟩ := evictNext_cons_calm σ.store entry surplus limits
        rw [hfront, below, hfault, List.append_assoc]
        exact (Stage.of_talk (htalk surplus) hr).append hcalm
    · rw [Task.run, if_neg ha] at hn
      cases hn
      exact .of_calm hr

/-- A callback that returns makes its choice, if it was asked for one. -/
theorem stage_of_return {cb : Callback} {rest : List Task} {r : Reply} (ht : σ.tasks = .user cb :: rest)
    (h : Stage o ms σ.store.connection (.user cb :: rest)) :
    Stage o (⟨σ, some (.return r), τ⟩ :: ms) σ.store.connection (answerWith cb r rest) := by
  have hp : Moment.proposal? ⟨σ, some (.return r), τ⟩ = none :=
    Moment.proposal?_eq_none (by simp [ht])
  obtain ⟨hcb, h⟩ | ⟨talk, rest', rfl, hr, h⟩ := h.uncons
  · have hc : Moment.choice? ⟨σ, some (.return r), τ⟩ = none := by
      unfold Moment.choice?
      dsimp only
      rw [ht]
      cases cb <;> first | rfl | cases hcb
    have h : Stage o (⟨σ, some (.return r), τ⟩ :: ms) σ.store.connection rest :=
      h.congr (negotiation_of_none hp hc) rfl
    unfold answerWith
    split
    · cases hcb
    · exact h.refuse _
    · exact h
  · cases h with
    | @asking theirs hn =>
      have hc : Moment.choice? ⟨σ, some (.return r), τ⟩ =
          some ((o.agree theirs).heartbeat, r.chosen (o.agree theirs).heartbeat) := by
        unfold Moment.choice?
        dsimp only
        rw [ht]
      rw [List.singleton_append, answerWith_negotiate]
      exact .of_talk (.chosen ⟨theirs, negotiation_of_choice hp hc hn, rfl⟩) hr

/-- The talk about limits goes on, or another begins with a tune. -/
theorem stage_of_next? (hσ : σ.Reachable) (ho : σ.store.connection.options = o)
    (hturn : InTurn σ.tasks) (h : Stage o ms σ.store.connection σ.tasks) (hs : σ.next? a = some τ) :
    Stage o (⟨σ, a, τ⟩ :: ms) τ.store.connection τ.tasks := by
  obtain ⟨t, rest, n, rfl, ht, hn, hτ⟩ | ⟨c, rfl, hi, -, hτ⟩ | ⟨r, cb, rest, rfl, ht, hτ⟩ := next?_cases hs
  · cases hp : Moment.proposal? ⟨σ, none, τ⟩ with
    | some theirs => exact stage_of_proposal hσ ho hturn h hs hp
    | none =>
      rw [ht] at h
      obtain ⟨hc, h⟩ | ⟨talk, rest', rfl, hr, h⟩ := h.uncons
      · have hcalm := (isTacit_of_run hσ ht hn hc hp).calm
        have hlimits := limits_of_next? hσ hs (not_tunes_of_isTalk ht hc)
        have htasks : τ.tasks = n.tasks ++ below n rest := by rw [hτ]; rfl
        rw [htasks]
        exact ((h.congr (negotiation_of_none hp rfl) hlimits).below n).append hcalm
      · exact stage_of_talk hσ ht hn hs hτ hr h
  · -- a call begins above everything that waits
    have hidle : ∀ t, σ.tasks.head? = some t → ∃ cb, t = .user cb := by
      intro t hhead
      have huser := isUser_of_isIdle hi
      rw [hhead] at huser
      cases t <;> first | exact ⟨_, rfl⟩ | cases huser
    have hp : Moment.proposal? ⟨σ, some (.call c), τ⟩ = none := by
      refine Moment.proposal?_eq_none fun buffer processed hhead => ?_
      obtain ⟨cb, hcb⟩ := hidle _ hhead
      cases hcb
    have hlimits : τ.store.connection.limits = σ.store.connection.limits := by
      refine limits_of_next? hσ hs ?_
      rintro ⟨-, limits, hhead⟩
      obtain ⟨cb, hcb⟩ := hidle _ hhead
      cases hcb
    have htasks : τ.tasks = (c.run σ.store).tasks ++ below (c.run σ.store) σ.tasks := by rw [hτ]; rfl
    rw [htasks]
    exact ((h.congr (negotiation_of_none hp rfl) hlimits).below _).append (Call.run_isTacit c _).calm
  · rw [ht] at h
    subst hτ
    exact stage_of_return ht h

theorem handed_of_reply {s : Store} {f g : Frame} {tasks : List Task}
    (h : .handed g ∈ (s.reply f tasks).log) : g = f := by
  match s.reply f tasks, s.replies f tasks, h with
  | _, .sent hn, h =>
    obtain ⟨octets, -, -, ⟨-, rfl⟩ | ⟨-, rfl⟩⟩ := Store.send_cases hn
    · simpa [Next.andThen] using h
    · simp [Next.andThen] at h
  | _, .unsent _, h => cases h

/-- Only what the talk ends with is announced. -/
theorem agreed_of_announces (hσ : σ.Reachable) (h : Stage o ms σ.store.connection σ.tasks)
    (hs : σ.next? a = some τ) {limits : Tune} (hm : Moment.Announces ⟨σ, a, τ⟩ limits) :
    Agreed o ms limits ∧ σ.store.connection.limits = limits ∧ ¬ Moment.Tunes ⟨σ, a, τ⟩ := by
  obtain ⟨rfl, hmem⟩ : a = none ∧ _ := hm
  obtain ⟨t, rest, n, -, ht, hn, -⟩ | ⟨c, hc, -⟩ | ⟨r, cb, rest, hc, -⟩ := next?_cases hs
  case inr.inl | inr.inr => cases hc
  rw [Moment.noted, show Moment.before ⟨σ, none, τ⟩ = σ from rfl, notes_of_run ht hn] at hmem
  rw [ht] at h
  obtain ⟨hc, h⟩ | ⟨talk, rest', rfl, hr, h⟩ := h.uncons
  · cases hp : Moment.proposal? ⟨σ, none, τ⟩ with
    | none => cases (isTacit_of_run hσ ht hn hc hp).silent rfl _ hmem
    | some theirs =>
      obtain ⟨hstate, htake⟩ := Moment.proposal?_eq_some_iff.1 hp
      obtain ⟨t', p, rest', -, ht', hn', -⟩ := next?_of_takes? hσ htake hs
      rw [ht] at ht'
      cases ht'
      rw [receive_tune hstate, hn] at hn'
      cases hn'
      simp at hmem
  · cases h with
    | asking => cases hn
    | chosen =>
      rw [Task.run] at hn
      cases hn
      split at hmem <;> simp [Next.follow, Next.only] at hmem
    | @announcing agreed surplus hagreed hk =>
      rw [Task.run] at hn
      obtain rfl := Option.some.inj hn
      split at hmem
      · cases surplus with
        | cons entry surplus =>
          obtain ⟨-, -, -, -, hlog⟩ := evictNext_cons_calm σ.store entry surplus agreed
          exact absurd hmem (hlog _)
        | nil =>
          have he : Frame.ofConnection (.tuneOk limits) = .ofConnection (.tuneOk agreed) :=
            handed_of_reply hmem
          obtain rfl : limits = agreed := by simpa [Frame.ofConnection] using he
          refine ⟨hagreed, hk, ?_⟩
          rintro ⟨-, limits', hhead⟩
          rw [show Moment.before ⟨σ, none, τ⟩ = σ from rfl, ht] at hhead
          cases hhead
      · cases hmem

/-! ## A whole run -/

theorem stage_connect (o : Options) : Stage o [] (connect o).store.connection (connect o).tasks := by
  have hoffer : Next.IsTacit true ((Store.new o).offer .greeting) := Store.offer_isTacit _ fun _ => rfl
  have hend : ∀ t ∈ [Task.handOverConnection, .answer .done], t.isTalk = false := by simp [Task.isTalk]
  exact ((Stage.of_calm hend).below ((Store.new o).offer .greeting)).append hoffer.calm

theorem Trail.stage (h : Trail (connect o) ms σ) (hp : ∀ m ∈ ms, m.ParsesAtRest) :
    InTurn σ.tasks ∧ Stage o ms σ.store.connection σ.tasks := by
  induction h with
  | nil => exact ⟨inTurn_connect o, stage_connect o⟩
  | cons a h hs ih =>
    obtain ⟨hpa, hp⟩ := List.forall_mem_cons.1 hp
    obtain ⟨hturn, hstage⟩ := ih hp
    exact ⟨InTurn.next? hturn hs hpa,
      stage_of_next? (h.reachable ⟨o, .refl⟩) (options_of_reaches h.reaches) hturn hstage hs⟩

theorem Trail.limits_eq {σ₀ : Session} (h : Trail σ₀ ms σ) (h₀ : σ₀.Reachable)
    (hl : ∀ m ∈ ms, ¬ m.Tunes) : σ.store.connection.limits = σ₀.store.connection.limits := by
  induction h with
  | nil => rfl
  | cons a h hs ih =>
    obtain ⟨hm, hl⟩ := List.forall_mem_cons.1 hl
    rw [limits_of_next? (h.reachable h₀) hs hm, ih hl]

/-- Whenever this side itself sends a tune-ok, the limits in it are the ones in force, at that moment and
until others are set. They follow from the tune that was accepted last and from the interval that user
code chose, which it was asked for once. They are kept to: a frame is refused for its size exactly if it
exceeds the limit, and an id exactly if as many are in use as the limit allows, or all that there are. -/
theorem announced_limits_in_force {o : Options} {later earlier : List Moment} {m : Moment} {σ : Session}
    (h : Trail (connect o) (later ++ m :: earlier) σ)
    (hp : ∀ m' ∈ later ++ m :: earlier, m'.ParsesAtRest) {limits : Tune} (hm : m.Announces limits)
    (hl : ∀ m' ∈ later, ¬ m'.Tunes) :
    (∃ theirs offered, negotiation earlier = some (theirs, [(offered, limits.heartbeat)]) ∧
      o.SettlesOn theirs offered limits) ∧
    m.before.store.connection.limits = limits ∧ m.after.store.connection.limits = limits ∧
    σ.store.connection.limits = limits ∧ σ.store.KeepsTo limits := by
  obtain ⟨hbefore, hafter⟩ := h.split
  have hreach : m.before.Reachable := hbefore.reachable ⟨o, .refl⟩
  have hs : m.before.next? m.act = some m.after := (h.moment ⟨o, .refl⟩ m (by simp)).2
  obtain ⟨-, hstage⟩ := hbefore.stage fun m' hm' => hp m' (by simp [hm'])
  obtain ⟨⟨theirs, hn, heq⟩, hlimits, hsame⟩ := agreed_of_announces hreach hstage hs hm
  have hmoment : m.after.store.connection.limits = limits := (limits_of_next? hreach hs hsame).trans hlimits
  have hlast : σ.store.connection.limits = limits :=
    (hafter.limits_eq (hreach.step (.next hs)) hl).trans hmoment
  refine ⟨⟨theirs, _, hn, ?_⟩, hlimits, hmoment, hlast, ?_⟩
  · have hsettle := o.agree_settlesOn theirs limits.heartbeat
    rwa [← heq] at hsettle
  · have hkeeps := σ.store.keepsTo_limits (h.reachable ⟨o, .refl⟩).withinLimits.zero
    rwa [hlast] at hkeeps

/-- User code asks for two channels at most, frames of up to 8192 octets and a minute between heartbeats. -/
def modest : Options := { Options.standard with channelMax := 2, maxFrameSize := 8192, heartbeat := 60 }

/-- The server allows less, and its frames are smaller than may be agreed on. User code is offered 30
seconds and chooses 7. -/
def negotiateModestly : List (Option Act) :=
  greeted ++ [some (.call (.parse (
    (Frame.ofConnection (.start ⟨0, 9, .empty, Utf8.encode "PLAIN", Utf8.encode "en_US"⟩)).toWire.octets ++
      (Frame.ofConnection (.tune ⟨5, 1000, 30⟩)).toWire.octets)))] ++ pass 1 ++
    [none, none, some (.return (.interval 7)), none, none] ++ pass 0 ++ pass 1

theorem announced_limits_in_force_modest : ∃ (later earlier : List Moment) (m : Moment) (σ : Session),
    Trail (connect modest) (later ++ m :: earlier) σ ∧
    (∀ m' ∈ later ++ m :: earlier, m'.ParsesAtRest) ∧ m.Announces ⟨2, 4096, 7⟩ ∧
    (∀ m' ∈ later, ¬ m'.Tunes) ∧ later.length = 3 ∧
    (∃ theirs offered, negotiation earlier = some (theirs, [(offered, 7)]) ∧
      modest.SettlesOn theirs offered ⟨2, 4096, 7⟩) ∧
    σ.store.connection.limits = ⟨2, 4096, 7⟩ ∧ σ.store.KeepsTo ⟨2, 4096, 7⟩ := by
  obtain ⟨ms, σ, h, he⟩ := exists_trail_of_record negotiateModestly (connect modest)
    (fun ms _ => (decide (∀ m ∈ ms, m.ParsesAtRest), decide (∀ m ∈ ms.take 3, ¬ m.Tunes),
      (ms.take 3).length, (ms.drop 3).head?.map fun m : Moment => decide (m.Announces ⟨2, 4096, 7⟩)))
    (a := (true, true, 3, some true)) (by decide +kernel)
  simp only [Prod.mk.injEq] at he
  obtain ⟨hp, hl, hlen, hm⟩ := he
  have hp := of_decide_eq_true hp
  have hl := of_decide_eq_true hl
  obtain ⟨m, hhead, hm⟩ := Option.map_eq_some_iff.1 hm
  obtain ⟨earlier, hdrop⟩ := List.head?_eq_some_iff.1 hhead
  have hms : ms = ms.take 3 ++ m :: earlier := by rw [← hdrop, List.take_append_drop]
  rw [hms] at h hp
  have hm := of_decide_eq_true hm
  obtain ⟨hagreed, -, -, hlast⟩ := announced_limits_in_force h hp hm hl
  exact ⟨ms.take 3, earlier, m, σ, h, hp, hm, hl, hlen, hagreed, hlast⟩

end Session

end AmqpSession
