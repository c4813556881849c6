/-
Runs with every step on record. A trail lists the moments of a run, the latest first: each is a step
with the session before it, what user code did, if it was its turn, and the session after it. What is
said of a run as a whole, and not only of where it ends, is said of its trail.
-/
import AmqpSession.Proofs.Run

namespace AmqpSession.Session

open Wire

/-- One step of a run. -/
structure Moment where
  before : Session
  /-- What user code did; a task was done where it did nothing. -/
  act : Option Act
  after : Session

/-- What a step puts on record, in the order in which it happens. -/
def notes (σ : Session) : Option Act → List Event
  | none =>
    match σ.tasks with
    | t :: _ => ((t.run σ.store).map Next.log).getD []
    | [] => []
  | some (.call c) => (c.run σ.store).log
  | some (.return _) => []

/-- What the step put on record. -/
def Moment.noted (m : Moment) : List Event := m.before.notes m.act

/-- The steps that lead from the first session to the other. -/
inductive Trail (σ₀ : Session) : List Moment → Session → Prop where
  | nil : Trail σ₀ [] σ₀
  | cons {ms : List Moment} {σ τ : Session} (a : Option Act) (h : Trail σ₀ ms σ)
      (hs : σ.next? a = some τ) : Trail σ₀ (⟨σ, a, τ⟩ :: ms) τ

/-! ## One step -/

/-- A step runs the next task, or begins a call on top of the stack, or takes a callback off it. -/
theorem next?_cases {σ τ : Session} {a : Option Act} (h : σ.next? a = some τ) :
    (∃ t rest n, a = none ∧ σ.tasks = t :: rest ∧ t.run σ.store = some n ∧
      τ = proceed n σ.log rest) ∨
    (∃ c : Call, a = some (.call c) ∧ σ.isIdle = true ∧ c.isLegal σ.store = true ∧
      τ = proceed (c.run σ.store) σ.log σ.tasks) ∨
    (∃ r cb rest, a = some (.return r) ∧ σ.tasks = .user cb :: rest ∧
      τ = { σ with tasks := answerWith cb r rest }) := by
  cases a with
  | none =>
    obtain ⟨t, rest, n, ht, hn, hτ⟩ := tick_eq_some_iff.1 h
    exact .inl ⟨t, rest, n, rfl, ht, hn, hτ⟩
  | some a =>
    cases a with
    | call c =>
      obtain ⟨hi, hl, hτ⟩ := call?_eq_some_iff.1 h
      exact .inr (.inl ⟨c, rfl, hi, hl, hτ⟩)
    | «return» r =>
      obtain ⟨cb, rest, ht, hτ⟩ := return?_eq_some_iff.1 h
      exact .inr (.inr ⟨r, cb, rest, rfl, ht, hτ⟩)

/-- Where a task waits that is not user code's, it is done. -/
theorem next?_eq_proceed {σ τ : Session} {a : Option Act} {t : Task} {rest : List Task}
    (h : σ.next? a = some τ) (ht : σ.tasks = t :: rest) (hu : ∀ cb, t ≠ .user cb) :
    a = none ∧ ∃ n, t.run σ.store = some n ∧ τ = proceed n σ.log rest := by
  obtain ⟨t', rest', n, rfl, ht', hn, hτ⟩ | ⟨c, -, hi, -⟩ | ⟨r, cb, rest', -, ht', -⟩ := next?_cases h
  · rw [ht] at ht'
    cases ht'
    exact ⟨rfl, n, hn, hτ⟩
  · rw [isIdle, ht] at hi
    cases t with
    | user cb => exact absurd rfl (hu cb)
    | _ => cases hi
  · rw [ht] at ht'
    cases ht'
    exact absurd rfl (hu cb)

theorem notes_of_run {σ : Session} {t : Task} {rest : List Task} {n : Next} (ht : σ.tasks = t :: rest)
    (hn : t.run σ.store = some n) : σ.notes none = n.log := by
  simp only [notes, ht, hn, Option.map_some, Option.getD_some]

theorem log_of_next? {σ τ : Session} {a : Option Act} (h : σ.next? a = some τ) :
    τ.log = (σ.notes a).reverse ++ σ.log := by
  obtain ⟨t, rest, n, rfl, ht, hn, rfl⟩ | ⟨c, rfl, -, -, rfl⟩ | ⟨r, cb, rest, rfl, -, rfl⟩ :=
    next?_cases h
  · rw [notes_of_run ht hn]
    rfl
  · rfl
  · rfl

/-! ## Along a trail -/

namespace Trail

variable {σ₀ σ : Session} {ms : List Moment}

theorem reaches (h : Trail σ₀ ms σ) : Reaches σ₀ σ := by
  induction h with
  | nil => exact .refl
  | cons a _ hs ih => exact ih.tail (.next hs)

theorem reachable (h : Trail σ₀ ms σ) (h₀ : σ₀.Reachable) : σ.Reachable := by
  obtain ⟨o, h₀⟩ := h₀
  exact ⟨o, h₀.trans h.reaches⟩

/-- What holds at first and is kept by every step, with that step put on record, holds of the whole
trail. -/
theorem induction {P : List Moment → Session → Prop} (h : Trail σ₀ ms σ) (h₀ : σ₀.Reachable)
    (hnil : P [] σ₀)
    (hcons : ∀ ms σ a τ, σ.Reachable → P ms σ → σ.next? a = some τ → P (⟨σ, a, τ⟩ :: ms) τ) :
    P ms σ := by
  induction h with
  | nil => exact hnil
  | cons a h hs ih => exact hcons _ _ a _ (h.reachable h₀) ih hs

/-- Every moment is a step of a session that the run comes by. -/
theorem moment (h : Trail σ₀ ms σ) (h₀ : σ₀.Reachable) :
    ∀ m ∈ ms, m.before.Reachable ∧ m.before.next? m.act = some m.after := by
  refine h.induction h₀ (P := fun ms _ => ∀ m ∈ ms, m.before.Reachable ∧
    m.before.next? m.act = some m.after) (by simp) ?_
  intro ms σ a τ hσ ih hs
  exact List.forall_mem_cons.2 ⟨⟨hσ, hs⟩, ih⟩

/-- A trail is one up to each of its moments, and one from there on. -/
theorem split {later earlier : List Moment} {m : Moment} (h : Trail σ₀ (later ++ m :: earlier) σ) :
    Trail σ₀ earlier m.before ∧ Trail m.after later σ := by
  induction later generalizing σ with
  | nil =>
    cases h with
    | cons a h hs => exact ⟨h, .nil⟩
  | cons m' later ih =>
    cases h with
    | cons a h hs => exact ⟨(ih h).1, .cons a (ih h).2 hs⟩

end Trail

/-! ## Trails as data -/

/-- The trail of a script that goes on from another. -/
def record (ms : List Moment) (σ : Session) : List (Option Act) → Option (List Moment × Session)
  | [] => some (ms, σ)
  | a :: script => (σ.next? a).bind fun τ => record (⟨σ, a, τ⟩ :: ms) τ script

theorem Trail.record {σ₀ σ τ : Session} {ms ms' : List Moment} (h : Trail σ₀ ms σ)
    {script : List (Option Act)} (hr : Session.record ms σ script = some (ms', τ)) :
    Trail σ₀ ms' τ := by
  induction script generalizing ms σ with
  | nil => cases hr; exact h
  | cons a script ih =>
    obtain ⟨υ, hυ, hr⟩ := Option.bind_eq_some_iff.1 hr
    exact ih (.cons a h hυ) hr

/-- A trail is found by playing it. -/
theorem exists_trail_of_record {α : Type} (script : List (Option Act)) (σ : Session)
    (f : List Moment → Session → α) {a : α}
    (h : (Session.record [] σ script).map (fun r => f r.1 r.2) = some a) :
    ∃ ms τ, Trail σ ms τ ∧ f ms τ = a := by
  obtain ⟨⟨ms, τ⟩, hr, rfl⟩ := Option.map_eq_some_iff.1 h
  exact ⟨ms, τ, Trail.nil.record hr, rfl⟩

end AmqpSession.Session
