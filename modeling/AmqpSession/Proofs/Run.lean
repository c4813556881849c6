/-
Runs: work goes on (`tick`), user code calls an operation (`call?`) or returns (`return?`), in any
order in which these are possible. `Step.cases_on_stack` says what one step does to the stack of
tasks; every fact about all runs is shown by a step lemma and `Reaches.induction`.
-/
import AmqpSession.Session
import Mathlib.Data.List.Chain
import Mathlib.Logic.Relation

namespace AmqpSession.Session

open Wire

/-- One step of a run. -/
inductive Step : Session → Session → Prop where
  | tick {σ τ : Session} (h : σ.tick = some τ) : Step σ τ
  | call {σ τ : Session} (c : Call) (h : σ.call? c = some τ) : Step σ τ
  | return {σ τ : Session} (r : Reply) (h : σ.return? r = some τ) : Step σ τ

/-- Some run leads from one session to the other. -/
def Reaches : Session → Session → Prop := Relation.ReflTransGen Step

/-- A session that some run of a new connection leads to. -/
def Reachable (σ : Session) : Prop := ∃ o : Options, Reaches (connect o) σ

/-! ## One step on the stack -/

theorem tick_cons {σ τ : Session} {t : Task} {rest : List Task} (ht : σ.tasks = t :: rest)
    (h : σ.tick = some τ) : ∃ n, t.run σ.store = some n ∧ τ = proceed n σ.log rest := by
  unfold tick at h
  rw [ht] at h
  obtain ⟨n, hn, rfl⟩ := Option.map_eq_some_iff.1 h
  exact ⟨n, hn, rfl⟩

theorem tick_eq_some_iff {σ τ : Session} :
    σ.tick = some τ ↔
      ∃ t rest n, σ.tasks = t :: rest ∧ t.run σ.store = some n ∧ τ = proceed n σ.log rest := by
  constructor
  · intro h
    cases ht : σ.tasks with
    | nil => simp [tick, ht] at h
    | cons t rest =>
      obtain ⟨n, hn, rfl⟩ := tick_cons ht h
      exact ⟨t, rest, n, rfl, hn, rfl⟩
  · rintro ⟨t, rest, n, ht, hn, rfl⟩
    simp [tick, ht, hn]

theorem call?_eq_some_iff {σ τ : Session} {c : Call} :
    σ.call? c = some τ ↔
      σ.isIdle = true ∧ c.isLegal σ.store = true ∧ τ = proceed (c.run σ.store) σ.log σ.tasks := by
  unfold call?
  constructor
  · intro h
    split at h
    · rename_i hc
      rw [Bool.and_eq_true] at hc
      exact ⟨hc.1, hc.2, (Option.some.inj h).symm⟩
    · cases h
  · rintro ⟨h1, h2, rfl⟩
    simp [h1, h2]

theorem return?_eq_some_iff {σ τ : Session} {r : Reply} :
    σ.return? r = some τ ↔
      ∃ cb rest, σ.tasks = .user cb :: rest ∧ τ = { σ with tasks := answerWith cb r rest } := by
  unfold return?
  constructor
  · intro h
    split at h
    · rename_i cb rest ht
      exact ⟨cb, rest, ht, (Option.some.inj h).symm⟩
    · cases h
  · rintro ⟨cb, rest, ht, rfl⟩
    simp [ht]

/-- A step runs the next task, or begins a call on top of the stack, or takes a callback off it. -/
theorem Step.cases_on_stack {σ τ : Session} (h : Step σ τ) :
    (∃ t rest n, σ.tasks = t :: rest ∧ t.run σ.store = some n ∧ τ = proceed n σ.log rest) ∨
    (∃ c : Call, σ.isIdle = true ∧ c.isLegal σ.store = true ∧
      τ = proceed (c.run σ.store) σ.log σ.tasks) ∨
    (∃ cb r rest, σ.tasks = .user cb :: rest ∧ τ = { σ with tasks := answerWith cb r rest }) := by
  cases h with
  | tick h => exact .inl (tick_eq_some_iff.1 h)
  | call c h => exact .inr (.inl ⟨c, call?_eq_some_iff.1 h⟩)
  | «return» r h =>
    obtain ⟨cb, rest, ht, rfl⟩ := return?_eq_some_iff.1 h
    exact .inr (.inr ⟨cb, r, rest, ht, rfl⟩)

/-- A task other than user code's leaves no choice. -/
theorem Step.eq_proceed {σ τ : Session} {t : Task} {rest : List Task} (h : Step σ τ)
    (ht : σ.tasks = t :: rest) (hu : ∀ cb, t ≠ .user cb) :
    ∃ n, t.run σ.store = some n ∧ τ = proceed n σ.log rest := by
  obtain ⟨t', rest', n, ht', hn, rfl⟩ | ⟨c, hi, -, -⟩ | ⟨cb, r, rest', ht', -⟩ := h.cases_on_stack
  · rw [ht] at ht'
    cases ht'
    exact ⟨n, hn, rfl⟩
  · rw [isIdle, ht] at hi
    cases t with
    | user cb => exact absurd rfl (hu cb)
    | _ => cases hi
  · rw [ht] at ht'
    cases ht'
    exact absurd rfl (hu cb)

/-! ## All runs -/

/-- What holds at first and is kept by every step holds throughout. -/
theorem Reaches.induction {P : Session → Prop} (hstep : ∀ σ τ, P σ → Step σ τ → P τ)
    {σ τ : Session} (h : Reaches σ τ) (hσ : P σ) : P τ := by
  induction h with
  | refl => exact hσ
  | tail _ hs ih => exact hstep _ _ ih hs

theorem Reachable.step {σ τ : Session} (h : Reachable σ) (hs : Step σ τ) : Reachable τ := by
  obtain ⟨o, h⟩ := h
  exact ⟨o, h.tail hs⟩

theorem Reachable.induction {P : Session → Prop} (hinit : ∀ o, P (connect o))
    (hstep : ∀ σ τ, Reachable σ → P σ → Step σ τ → P τ) {σ : Session} (h : Reachable σ) : P σ := by
  obtain ⟨o, h⟩ := h
  refine (h.induction (P := fun σ => Reachable σ ∧ P σ) ?_ ⟨⟨o, .refl⟩, hinit o⟩).2
  rintro σ τ ⟨hσ, hp⟩ hs
  exact ⟨hσ.step hs, hstep σ τ hσ hp hs⟩

/-! ## Runs as data -/

/-- What user code does when it is its turn. -/
inductive Act where
  | call (call : Call)
  | return (reply : Reply)

/-- What user code does, if it is its turn and it may. -/
def act? (σ : Session) : Act → Option Session
  | .call c => σ.call? c
  | .return r => σ.return? r

/-- A task (`none`) or an act of user code. -/
def next? (σ : Session) : Option Act → Option Session
  | none => σ.tick
  | some a => σ.act? a

theorem Step.act {σ τ : Session} {a : Act} (h : σ.act? a = some τ) : Step σ τ := by
  cases a with
  | call c => exact .call c h
  | «return» r => exact .return r h

theorem Step.next {σ τ : Session} {a : Option Act} (h : σ.next? a = some τ) : Step σ τ := by
  cases a with
  | none => exact .tick h
  | some a => exact .act h

/-- A run by a script, if every step of it is possible. -/
def play (σ : Session) : List (Option Act) → Option Session
  | [] => some σ
  | a :: script => (σ.next? a).bind (play · script)

theorem reaches_of_play {script : List (Option Act)} {σ τ : Session} (h : σ.play script = some τ) :
    Reaches σ τ := by
  induction script generalizing σ with
  | nil => cases h; exact .refl
  | cons a script ih =>
    obtain ⟨υ, hυ, h⟩ := Option.bind_eq_some_iff.1 h
    exact .head (.next hυ) (ih h)

/-- A run is found by playing it. -/
theorem exists_reaches_of_play {α : Type} (script : List (Option Act)) (σ : Session)
    (f : Session → α) {a : α} (h : (σ.play script).map f = some a) : ∃ τ, Reaches σ τ ∧ f τ = a := by
  obtain ⟨τ, hτ, rfl⟩ := Option.map_eq_some_iff.1 h
  exact ⟨τ, reaches_of_play hτ, rfl⟩

/-- The sessions after each step of a script, up to the first that is not possible. -/
def visits (σ : Session) : List (Option Act) → List Session
  | [] => []
  | a :: script =>
    match σ.next? a with
    | some τ => τ :: visits τ script
    | none => []

theorem isChain_visits (σ : Session) (script : List (Option Act)) :
    (σ :: σ.visits script).IsChain Step := by
  induction script generalizing σ with
  | nil => simp [visits]
  | cons a script ih =>
    unfold visits
    split
    · rename_i τ hτ
      exact List.isChain_cons_cons.2 ⟨.next hτ, ih τ⟩
    · simp

/-- Tasks up to the next callback, which returns. -/
def pass (tasks : Nat) : List (Option Act) := .replicate tasks none ++ [some (.return .done)]

/-- What a server without limits sends until the connection is established. -/
def serverHandshake : Bytes :=
  (Frame.ofConnection (.start ⟨0, 9, .empty, Utf8.encode "PLAIN", Utf8.encode "en_US"⟩)).toWire.octets ++
    (Frame.ofConnection (.tune ⟨0, 0, 0⟩)).toWire.octets ++ (Frame.ofConnection .openOk).toWire.octets

/-- The caller has its connection. -/
def greeted : List (Option Act) := pass 0 ++ [none, none]

/-- Negotiation up to the point where user code learns that the connection is established. -/
def negotiate : List (Option Act) :=
  greeted ++ [some (.call (.parse serverHandshake))] ++ pass 1 ++ pass 2 ++ pass 2 ++ pass 1 ++
    [none, none, none]

/-- Negotiation, and user code returns when it learns that the connection is established. -/
def establish : List (Option Act) := negotiate ++ pass 0 ++ [none, none, none, none, none]

/-! ## Replies and faults on the stack -/

/-- A fault is noted in the task it concerns, and no other task is touched. -/
theorem refuse_eq (v : Violation) (tasks : List Task) :
    refuse v tasks = tasks ∨
      ∃ e p f rest, tasks = .handled e p f :: rest ∧ refuse v tasks = .handled e p (some v) :: rest := by
  unfold refuse
  split
  · exact .inr ⟨_, _, _, _, rfl, rfl⟩
  · exact .inl rfl

theorem choose_eq (seconds : UInt16) (tasks : List Task) :
    choose seconds tasks = tasks ∨
      ∃ l rest, tasks = .tuned l :: rest ∧
        choose seconds tasks = .tuned { l with heartbeat := seconds } :: rest := by
  unfold choose
  split
  · exact .inr ⟨_, _, rfl, rfl⟩
  · exact .inl rfl

end AmqpSession.Session
