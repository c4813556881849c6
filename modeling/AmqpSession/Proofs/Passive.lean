/-
User code that does nothing but return. What is left of an operation then comes to its end by itself,
and only one end is possible (`Settles.unique`). `Next.Leads` follows an operation to a point on the
way, with the frames that went out and without a report of an error.
-/
import AmqpSession.Proofs.Delivery
import Mathlib.Computability.StateTransition

namespace AmqpSession

open Wire

/-! ## Runs without calls -/

namespace Session

/-- Work goes on, or user code returns at once. -/
def passive? (σ : Session) : Option Session :=
  match σ.tick with
  | some τ => some τ
  | none => σ.return? .done

/-- Some number of steps in which user code only returns. -/
def Passes : Session → Session → Prop := StateTransition.Reaches passive?

/-- All work is done in the end. -/
def Settles (σ τ : Session) : Prop := Passes σ τ ∧ τ.tasks = []

theorem passive?_of_run {σ : Session} {t : Task} {rest : List Task} {n : Next}
    (ht : σ.tasks = t :: rest) (h : t.run σ.store = some n) :
    σ.passive? = some (proceed n σ.log rest) := by
  have htick : σ.tick = some (proceed n σ.log rest) := tick_eq_some_iff.2 ⟨t, rest, n, ht, h, rfl⟩
  rw [passive?, htick]

theorem passive?_user (s : Store) (cb : Callback) (rest : List Task) (log : List Event) :
    passive? ⟨s, .user cb :: rest, log⟩ = some ⟨s, rest, log⟩ := by
  have hanswer : answerWith cb .done rest = rest := by cases cb <;> rfl
  show some (⟨s, answerWith cb .done rest, log⟩ : Session) = _
  rw [hanswer]

theorem passive?_eq_none_iff (σ : Session) : σ.passive? = none ↔ σ.tasks = [] := by
  obtain ⟨s, tasks, log⟩ := σ
  constructor
  · intro h
    cases tasks with
    | nil => rfl
    | cons t rest =>
      cases hn : t.run s with
      | some n => rw [passive?_of_run rfl hn] at h; cases h
      | none =>
        obtain ⟨cb, rfl⟩ := (Task.run_eq_none_iff t s).1 hn
        rw [passive?_user] at h
        cases h
  · rintro ⟨⟩
    rfl

theorem Settles.mem_eval {σ τ : Session} (h : Settles σ τ) : τ ∈ StateTransition.eval passive? σ :=
  StateTransition.mem_eval.2 ⟨h.1, (passive?_eq_none_iff τ).2 h.2⟩

/-- Nothing is left open while user code only returns. -/
theorem Settles.unique {σ τ τ' : Session} (h : Settles σ τ) (h' : Settles σ τ') : τ = τ' :=
  Part.mem_unique h.mem_eval h'.mem_eval

/-- What happened stays on record. -/
theorem suffix_of_passive? {σ τ : Session} (h : σ.passive? = some τ) : σ.log <:+ τ.log := by
  obtain ⟨s, tasks, log⟩ := σ
  cases tasks with
  | nil => cases h
  | cons t rest =>
    cases hn : t.run s with
    | some n =>
      rw [passive?_of_run rfl hn] at h
      cases h
      exact List.suffix_append _ _
    | none =>
      obtain ⟨cb, rfl⟩ := (Task.run_eq_none_iff t s).1 hn
      rw [passive?_user] at h
      cases h
      exact List.suffix_refl _

theorem Passes.suffix {σ τ : Session} (h : Passes σ τ) : σ.log <:+ τ.log := by
  induction h with
  | refl => exact List.suffix_refl _
  | tail _ hs ih => exact ih.trans (suffix_of_passive? hs)

/-- A callback is on the stack, or has its entry in the log. -/
def WillStart (cb : Callback) (σ : Session) : Prop :=
  (∃ above below, σ.tasks = above ++ .notify cb :: below) ∨ .started cb ∈ σ.log

theorem refuse_append_notify (v : Violation) (above : List Task) (cb : Callback) (below : List Task) :
    ∃ above', refuse v (above ++ .notify cb :: below) = above' ++ .notify cb :: below := by
  cases above with
  | nil => exact ⟨[], rfl⟩
  | cons t above =>
    obtain h | ⟨e, p, f, rest, ht, h⟩ := refuse_eq v (t :: above ++ .notify cb :: below)
    · exact ⟨_, h⟩
    · cases ht
      exact ⟨.handled e p (some v) :: above, h⟩

theorem WillStart.passive {cb : Callback} {σ τ : Session} (h : σ.passive? = some τ)
    (hσ : WillStart cb σ) : WillStart cb τ := by
  obtain ⟨above, below, ht⟩ | hlog := hσ
  · obtain ⟨s, tasks, log⟩ := σ
    dsimp only at ht
    subst ht
    cases above with
    | nil =>
      have hrun : Task.run (.notify cb) s = some (.start s cb []) := rfl
      rw [List.nil_append, passive?_of_run rfl hrun] at h
      cases h
      exact .inr List.mem_cons_self
    | cons t above =>
      -- what runs is above the notice, and changes nothing below itself but a noted fault
      cases hn : t.run s with
      | some n =>
        rw [List.cons_append, passive?_of_run rfl hn] at h
        cases h
        cases hv : n.fault with
        | none => exact .inl ⟨n.tasks ++ above, below, by simp only [proceed, hv, List.append_assoc]⟩
        | some v =>
          obtain ⟨above', ha⟩ := refuse_append_notify v above cb below
          exact .inl ⟨n.tasks ++ above', below, by simp only [proceed, hv, ha, List.append_assoc]⟩
      | none =>
        obtain ⟨cb', rfl⟩ := (Task.run_eq_none_iff t s).1 hn
        rw [List.cons_append, passive?_user] at h
        cases h
        exact .inl ⟨above, below, rfl⟩
  · exact .inr ((suffix_of_passive? h).subset hlog)

/-- What is on the stack is done before all work is done. -/
theorem Settles.started {cb : Callback} {σ τ : Session} (h : Settles σ τ) (hσ : WillStart cb σ) :
    .started cb ∈ τ.log := by
  have hτ : WillStart cb τ := by
    obtain ⟨hp, -⟩ := h
    induction hp with
    | refl => exact hσ
    | tail _ hs ih => exact ih.passive hs
  obtain ⟨above, below, ht⟩ | hlog := hτ
  · rw [h.2] at ht
    cases above <;> cases ht
  · exact hlog

/-- Where work is settled in the end, it is settled from every point on the way. -/
theorem Settles.of_passes {σ τ υ : Session} (h : Settles σ υ) (hτ : Passes σ τ) : Settles τ υ := by
  refine ⟨?_, h.2⟩
  obtain hp | hp := StateTransition.reaches_total hτ h.1
  · exact hp
  · -- the point would come after the end, and from there nothing goes on
    obtain rfl | ⟨ρ, hρ, -⟩ := Relation.ReflTransGen.cases_head hp
    · exact .refl
    · rw [(passive?_eq_none_iff υ).2 h.2] at hρ
      cases hρ

/-- At most so many steps without a call. -/
def coast : Nat → Session → Session
  | 0, σ => σ
  | n + 1, σ =>
    match σ.passive? with
    | some τ => coast n τ
    | none => σ

theorem passes_coast (n : Nat) (σ : Session) : Passes σ (σ.coast n) := by
  induction n generalizing σ with
  | zero => exact .refl
  | succ n ih =>
    unfold coast
    split
    · rename_i τ hτ
      exact .head hτ (ih τ)
    · exact .refl

theorem settles_coast {n : Nat} {σ : Session} (h : (σ.coast n).tasks = []) : Settles σ (σ.coast n) :=
  ⟨passes_coast n σ, h⟩

end Session

/-! ## Following an operation -/

open Session

/-- No error is reported. -/
def NoError (es : List Event) : Prop := ∀ text, .started (.error text) ∉ es

/-- The errors that are reported, the latest first. -/
def reports (es : List Event) : List String :=
  es.filterMap fun e =>
    match e with
    | .started (.error text) => some text
    | _ => none

theorem mem_reports_iff {es : List Event} {text : String} :
    text ∈ reports es ↔ .started (.error text) ∈ es := by
  unfold reports
  rw [List.mem_filterMap]
  constructor
  · rintro ⟨e, he, h⟩
    split at h
    · cases h
      exact he
    · cases h
  · exact fun h => ⟨_, h, rfl⟩

theorem noError_of_reports {es : List Event} (h : reports es = []) : NoError es := by
  intro text he
  rw [← mem_reports_iff, h] at he
  cases he

theorem noError_append {es es' : List Event} : NoError (es ++ es') ↔ NoError es ∧ NoError es' := by
  constructor
  · intro h
    exact ⟨fun text he => h text (List.mem_append_left _ he),
      fun text he => h text (List.mem_append_right _ he)⟩
  · rintro ⟨h, h'⟩ text he
    exact (List.mem_append.1 he).elim (h text) (h' text)

theorem handedOver_append (es log : List Event) :
    handedOver (es ++ log) = handedOver log ++ handedOver es := by
  induction es with
  | nil => exact (List.append_nil _).symm
  | cons e es ih =>
    cases e with
    | handed f =>
      simp only [List.cons_append, handedOver, ih]
      split
      · rfl
      · rw [List.append_assoc]
    | _ => exact ih

namespace Next

/-- With passive user code, what a task or a call comes to, and then the given work, goes on to the
state `s'` with the work `rest'` still to be done. The frames `fs` go out on the way. -/
def Leads (n : Next) (rest : List Task) (fs : List Frame) (s' : Store) (rest' : List Task) : Prop :=
  ∃ es, handedOver es = fs ∧ NoError es ∧ ∀ log, Passes (proceed n log rest) ⟨s', rest', es ++ log⟩

namespace Leads

variable {n : Next} {s s' s'' : Store} {rest rest' rest'' : List Task} {fs fs' : List Frame}

theorem refl (s : Store) (rest : List Task) : (only s).Leads rest [] s rest :=
  ⟨[], rfl, fun _ => List.not_mem_nil, fun _ => .refl⟩

theorem trans (h : n.Leads rest fs s' rest') (h' : (only s').Leads rest' fs' s'' rest'') :
    n.Leads rest (fs ++ fs') s'' rest'' := by
  obtain ⟨es, hes, hq, hp⟩ := h
  obtain ⟨es', hes', hq', hp'⟩ := h'
  refine ⟨es' ++ es, ?_, noError_append.2 ⟨hq', hq⟩, fun log => ?_⟩
  · rw [handedOver_append, hes, hes']
  · rw [List.append_assoc]
    exact (hp log).trans (hp' _)

/-- What a task or a call puts on record itself comes first. -/
theorem of_log (hq : NoError n.log)
    (h : (only n.store).Leads (proceed n [] rest).tasks fs s' rest') :
    n.Leads rest (handedOver n.log.reverse ++ fs) s' rest' := by
  obtain ⟨es, hes, hqes, hp⟩ := h
  refine ⟨es ++ n.log.reverse, ?_, ?_, fun log => ?_⟩
  · rw [handedOver_append, hes]
  · exact noError_append.2 ⟨hqes, fun text he => hq text (List.mem_reverse.1 he)⟩
  · rw [List.append_assoc]
    exact hp (n.log.reverse ++ log)

theorem task {t : Task} (hn : t.run s = some n) (h : n.Leads rest fs s' rest') :
    (only s).Leads (t :: rest) fs s' rest' := by
  obtain ⟨es, hes, hq, hp⟩ := h
  exact ⟨es, hes, hq, fun log => .head (passive?_of_run rfl hn) (hp log)⟩

/-- User code returns. -/
theorem user {cb : Callback} (h : (only s).Leads rest fs s' rest') :
    (only s).Leads (.user cb :: rest) fs s' rest' := by
  obtain ⟨es, hes, hq, hp⟩ := h
  exact ⟨es, hes, hq, fun log => .head (passive?_user s cb rest log) (hp log)⟩

theorem follow {tasks : List Task} (h : (only s).Leads (tasks ++ rest) fs s' rest') :
    (follow s tasks).Leads rest fs s' rest' := h

theorem start {cb : Callback} {tasks : List Task} (hcb : ∀ text, cb ≠ .error text)
    (h : (only s).Leads (tasks ++ rest) fs s' rest') :
    (start s cb tasks).Leads rest fs s' rest' := by
  have hq : NoError (Next.start s cb tasks).log := by
    intro text he
    exact hcb text (Event.started.inj (List.mem_singleton.1 he)).symm
  exact of_log hq h.user

theorem andThen {tasks : List Task} (hn : n.fault = none) (h : n.Leads (tasks ++ rest) fs s' rest') :
    (n.andThen tasks).Leads rest fs s' rest' := by
  obtain ⟨es, hes, hq, hp⟩ := h
  refine ⟨es, hes, hq, fun log => ?_⟩
  have heq : proceed (n.andThen tasks) log rest = proceed n log (tasks ++ rest) := by
    simp only [proceed, Next.andThen, hn, List.append_assoc]
  rw [heq]
  exact hp log

theorem answer {o : Outcome} (h : (only s).Leads rest fs s' rest') :
    (only s).Leads (.answer o :: rest) fs s' rest' := by
  have hrun : Task.run (.answer o) s = some { store := s, log := [.answered o] } := rfl
  have hq : NoError [.answered o] := by
    intro text he
    cases List.mem_singleton.1 he
  exact task hrun (of_log hq h)

/-- Where no work is left, it is settled. -/
theorem settles (h : n.Leads [] fs s' []) (log : List Event) :
    ∃ es, handedOver es = fs ∧ NoError es ∧ Settles (proceed n log []) ⟨s', [], es ++ log⟩ := by
  obtain ⟨es, hes, hq, hp⟩ := h
  exact ⟨es, hes, hq, hp log, rfl⟩

end Leads

end Next

end AmqpSession
