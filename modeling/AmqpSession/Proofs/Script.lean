/-
User code that follows a script: what it does depends on what happened so far and on the state that
it sees. A call of `parse` is run to its end (`Parses`), and chunks of octets are fed one after the
other, each behind what the call before left over (`Feeds`). Work above a task that waits is done
whatever that task is (`stepBy_above`).
-/
import AmqpSession.Proofs.Handles

namespace AmqpSession.Session

open Wire

/-! ## Scripts -/

/-- What user code does when it is its turn. -/
abbrev Script := List Event → Store → Act

/-- What user code may do that keeps a handle of the connection: anything but drop the last one. -/
def Act.keepsHandle (a : Act) (s : Store) : Bool :=
  match a with
  | .call .dropHandle => 1 < s.connection.owned
  | _ => true

/-- One step of a run in which user code follows the script; none where the script asks for what is
not possible, or gives up the last handle. -/
def stepBy (u : Script) (σ : Session) : Option Session :=
  if σ.isIdle then
    if (u σ.log σ.store).keepsHandle σ.store then σ.act? (u σ.log σ.store) else none
  else σ.tick

/-- A call of `parse` above the tasks `base` goes on to its end, where it answers that it consumed
`n` octets. The answer goes to the caller; no callback learns of it. -/
inductive Returns (u : Script) (base : List Task) : Session → Nat → Session → Prop where
  | answered {σ : Session} {n : Nat} {log : List Event} (ht : σ.tasks = base)
      (hl : σ.log = .answered (.consumed n) :: log) : Returns u base σ n { σ with log := log }
  | step {σ τ υ : Session} {n : Nat} (ht : σ.tasks ≠ base) (h : σ.stepBy u = some τ)
      (hr : Returns u base τ n υ) : Returns u base σ n υ

/-- A call of `parse`, with the number of octets that it consumed and the session after it. -/
def Parses (u : Script) (σ : Session) (buffer : Bytes) (n : Nat) (υ : Session) : Prop :=
  ∃ τ, σ.call? (.parse buffer) = some τ ∧ Returns u σ.tasks τ n υ

/-- Chunks are fed one after the other, each behind what is left of those before it, with the number
of octets consumed in all. -/
inductive Feeds (u : Script) : Session → Bytes → List Bytes → Nat → Session → Prop where
  | nil (σ : Session) (left : Bytes) : Feeds u σ left [] 0 σ
  | cons {σ τ υ : Session} {left chunk : Bytes} {chunks : List Bytes} {n m : Nat}
      (h : Parses u σ (left ++ chunk) n τ) (hr : Feeds u τ ((left ++ chunk).drop n) chunks m υ) :
      Feeds u σ left (chunk :: chunks) (n + m) υ

variable {u : Script} {base : List Task}

/-! ## One step -/

theorem Step.stepBy {σ τ : Session} (h : σ.stepBy u = some τ) : Step σ τ := by
  unfold Session.stepBy at h
  split at h
  · split at h
    · exact .act h
    · cases h
  · exact .tick h

theorem returns_step {σ τ υ : Session} {n : Nat} (ht : σ.tasks ≠ base) (h : σ.stepBy u = some τ) :
    Returns u base σ n υ ↔ Returns u base τ n υ := by
  refine ⟨fun hr => ?_, .step ht h⟩
  cases hr with
  | answered ht' => exact absurd ht' ht
  | step _ h' hr =>
    rw [h] at h'
    cases h'
    exact hr

theorem returns_answered {s : Store} {log : List Event} {n m : Nat} {υ : Session} :
    Returns u base ⟨s, base, .answered (.consumed m) :: log⟩ n υ ↔ n = m ∧ υ = ⟨s, base, log⟩ := by
  constructor
  · intro hr
    cases hr with
    | answered _ hl => cases hl; exact ⟨rfl, rfl⟩
    | step ht => exact absurd rfl ht
  · rintro ⟨rfl, rfl⟩
    exact .answered rfl rfl

/-- A script leaves no choice. -/
theorem Returns.unique {σ υ υ' : Session} {n n' : Nat} (h : Returns u base σ n υ)
    (h' : Returns u base σ n' υ') : n = n' ∧ υ = υ' := by
  induction h with
  | answered ht hl =>
    cases h' with
    | answered _ hl' => rw [hl] at hl'; cases hl'; exact ⟨rfl, rfl⟩
    | step ht' => exact absurd ht ht'
  | step ht hs _ ih => exact ih ((returns_step ht hs).1 h')

theorem Feeds.unique {σ υ υ' : Session} {left : Bytes} {chunks : List Bytes} {n n' : Nat}
    (h : Feeds u σ left chunks n υ) (h' : Feeds u σ left chunks n' υ') : n = n' ∧ υ = υ' := by
  induction h generalizing n' with
  | nil => cases h'; exact ⟨rfl, rfl⟩
  | cons h _ ih =>
    cases h' with
    | cons h' hr' =>
      obtain ⟨τ, hc, hr⟩ := h
      obtain ⟨τ', hc', hr''⟩ := h'
      rw [hc] at hc'
      cases hc'
      obtain ⟨rfl, rfl⟩ := hr.unique hr''
      obtain ⟨rfl, rfl⟩ := ih hr'
      exact ⟨rfl, rfl⟩

/-! ## Work above a task that waits -/

/-- What may be written into a task that waits: a fault of its frame, or the interval that was
chosen. -/
inductive Note : (Task → Task) → Prop where
  | nothing : Note id
  | fault (v : Violation) :
      Note fun | .handled e p _ => .handled e p (some v) | t => t
  | interval (seconds : UInt16) :
      Note fun | .tuned limits => .tuned { limits with heartbeat := seconds } | t => t

theorem exists_refuse_eq (v : Violation) : ∃ g, Note g ∧ ∀ tasks, refuse v tasks = tasks.modifyHead g := by
  refine ⟨_, .fault v, fun tasks => ?_⟩
  cases tasks with
  | nil => rfl
  | cons t tasks => cases t <;> rfl

theorem exists_choose_eq (seconds : UInt16) :
    ∃ g, Note g ∧ ∀ tasks, choose seconds tasks = tasks.modifyHead g := by
  refine ⟨_, .interval seconds, fun tasks => ?_⟩
  cases tasks with
  | nil => rfl
  | cons t tasks => cases t <;> rfl

theorem exists_id_eq : ∃ g, Note g ∧ ∀ tasks : List Task, tasks = tasks.modifyHead g :=
  ⟨id, .nothing, fun tasks => by cases tasks <;> rfl⟩

theorem exists_answerWith_eq (cb : Callback) (r : Reply) :
    ∃ g, Note g ∧ ∀ tasks, answerWith cb r tasks = tasks.modifyHead g := by
  unfold answerWith
  split
  · exact exists_choose_eq _
  · exact exists_refuse_eq _
  · exact exists_id_eq

theorem exists_below_eq (n : Next) : ∃ g, Note g ∧ ∀ tasks, below n tasks = tasks.modifyHead g := by
  unfold below
  split
  · exact exists_refuse_eq _
  · exact exists_id_eq

/-- A note goes to the work at the top, or to the task that waits if there is none. -/
theorem Note.exists_modifyHead_eq {g : Task → Task} (hg : Note g) (work base : List Task) :
    ∃ work' g', Note g' ∧ ∀ t, (work ++ t :: base).modifyHead g = work' ++ g' t :: base := by
  cases work with
  | nil => exact ⟨[], g, hg, fun t => rfl⟩
  | cons w ws => exact ⟨g w :: ws, id, .nothing, fun t => rfl⟩

/-- Work is done whatever waits under it. -/
theorem stepBy_above (u : Script) (s : Store) (log : List Event) {work : List Task}
    (hw : work ≠ []) (base : List Task) :
    (∀ t, stepBy u ⟨s, work ++ t :: base, log⟩ = none) ∨
      ∃ s' work' log' g, Note g ∧
        ∀ t, stepBy u ⟨s, work ++ t :: base, log⟩ = some ⟨s', work' ++ g t :: base, log'⟩ := by
  have hproceed : ∀ (n : Next) (rest : List Task), ∃ s' work' log' g, Note g ∧
      ∀ t, proceed n log (rest ++ t :: base) = ⟨s', work' ++ g t :: base, log'⟩ := by
    intro n rest
    obtain ⟨g, hg, hbelow⟩ := exists_below_eq n
    obtain ⟨work', g', hg', hhead⟩ := hg.exists_modifyHead_eq rest base
    refine ⟨n.store, n.tasks ++ work', n.log.reverse ++ log, g', hg', fun t => ?_⟩
    rw [List.append_assoc, ← hhead, ← hbelow]
    rfl
  -- the script goes by the log and the store, a task by the store
  obtain ⟨w, ws, rfl⟩ := List.exists_cons_of_ne_nil hw
  by_cases hu : ∃ cb, w = .user cb
  · obtain ⟨cb, rfl⟩ := hu
    have hact : ∀ t, stepBy u ⟨s, .user cb :: ws ++ t :: base, log⟩ =
        if (u log s).keepsHandle s then act? ⟨s, .user cb :: ws ++ t :: base, log⟩ (u log s)
        else none := fun t => rfl
    by_cases hk : (u log s).keepsHandle s = true
    · cases ha : u log s with
      | call c =>
        cases hl : c.isLegal s with
        | false =>
          refine .inl fun t => ?_
          rw [hact, if_pos hk, ha]
          simp [act?, call?, hl]
        | true =>
          obtain ⟨s', work', log', g, hg, h⟩ := hproceed (c.run s) (.user cb :: ws)
          refine .inr ⟨s', work', log', g, hg, fun t => ?_⟩
          rw [hact, if_pos hk, ha, ← h t]
          exact call?_eq_some_iff.2 ⟨rfl, hl, rfl⟩
      | «return» r =>
        obtain ⟨g, hg, hanswer⟩ := exists_answerWith_eq cb r
        obtain ⟨work', g', hg', hhead⟩ := hg.exists_modifyHead_eq ws base
        refine .inr ⟨s, work', log, g', hg', fun t => ?_⟩
        rw [hact, if_pos hk, ha, ← hhead, ← hanswer]
        rfl
    · refine .inl fun t => ?_
      rw [hact, if_neg hk]
  · have hrun : w.run s ≠ none := fun h => hu ((w.run_eq_none_iff s).1 h)
    obtain ⟨n, hn⟩ := Option.ne_none_iff_exists'.1 hrun
    obtain ⟨s', work', log', g, hg, h⟩ := hproceed n ws
    refine .inr ⟨s', work', log', g, hg, fun t => ?_⟩
    have hi : isIdle ⟨s, w :: ws ++ t :: base, log⟩ = false := by
      cases w with
      | user cb => exact absurd ⟨cb, rfl⟩ hu
      | _ => rfl
    rw [← h t]
    rw [stepBy, if_neg (by rw [hi]; exact Bool.false_ne_true)]
    simp [tick, hn]

/-- Two sessions that differ only in the task that waits under their work. -/
inductive Above (R : Task → Task → Prop) (base : List Task) : Session → Session → Prop where
  | mk (s : Store) (work : List Task) {t t' : Task} (log : List Event) (h : R t t') :
      Above R base ⟨s, work ++ t :: base, log⟩ ⟨s, work ++ t' :: base, log⟩

theorem append_ne_base (work : List Task) (t : Task) : work ++ t :: base ≠ base := by
  rw [List.append_cons, Ne, List.append_left_eq_self]
  simp

theorem Above.ne {R : Task → Task → Prop} {σ σ' : Session} (h : Above R base σ σ') :
    σ.tasks ≠ base ∧ σ'.tasks ≠ base := by
  cases h with
  | mk s work log h => exact ⟨append_ne_base work _, append_ne_base work _⟩

/-- Such sessions do their work side by side. -/
theorem Above.step {R : Task → Task → Prop} (hR : ∀ g, Note g → ∀ t t', R t t' → R (g t) (g t'))
    (s : Store) (log : List Event) {work : List Task} (hw : work ≠ []) {t t' : Task} (h : R t t') :
    Option.Rel (Above R base) (stepBy u ⟨s, work ++ t :: base, log⟩)
      (stepBy u ⟨s, work ++ t' :: base, log⟩) := by
  obtain hnone | ⟨s', work', log', g, hg, hsome⟩ := stepBy_above u s log hw base
  · rw [hnone t, hnone t']
    exact .none
  · rw [hsome t, hsome t']
    exact .some (.mk s' work' log' (hR g hg t t' h))

/-- A task at the top is run. -/
theorem stepBy_of_run {s : Store} {log : List Event} {t : Task} {n : Next} (hn : t.run s = some n)
    (hf : n.fault = none) :
    stepBy u ⟨s, t :: base, log⟩ = some ⟨n.store, n.tasks ++ base, n.log.reverse ++ log⟩ := by
  have hi : isIdle ⟨s, t :: base, log⟩ = false := by
    cases t with
    | user cb => cases hn
    | _ => rfl
  simp [stepBy, hi, tick, hn, proceed, hf]

/-! ## Calls of `parse` -/

theorem Returns.tasks_eq {σ υ : Session} {n : Nat} (h : Returns u base σ n υ) : υ.tasks = base := by
  induction h with
  | answered ht => exact ht
  | step _ _ _ ih => exact ih

theorem isIdle_congr {σ τ : Session} (h : σ.tasks = τ.tasks) : σ.isIdle = τ.isIdle := by
  unfold isIdle
  rw [h]

theorem call?_parse {σ : Session} (hi : σ.isIdle = true) (ho : σ.store.connection.owned ≠ 0)
    (buffer : Bytes) : σ.call? (.parse buffer) =
      some ⟨σ.store.holdHandle, .parse buffer 0 :: σ.tasks, σ.log⟩ := by
  refine call?_eq_some_iff.2 ⟨hi, ?_, rfl⟩
  simp only [Call.isLegal, Store.handles, bne_iff_ne]
  omega

theorem parses_iff {σ υ : Session} {buffer : Bytes} {n : Nat} (hi : σ.isIdle = true)
    (ho : σ.store.connection.owned ≠ 0) : Parses u σ buffer n υ ↔
      Returns u σ.tasks ⟨σ.store.holdHandle, .parse buffer 0 :: σ.tasks, σ.log⟩ n υ := by
  unfold Parses
  rw [call?_parse hi ho]
  simp

/-- A call that ends lets go of its handle, which is not the last. -/
theorem returns_endOfParse {s : Store} {log : List Event} {q n : Nat} {υ : Session}
    (ho : s.connection.owned ≠ 0) (hh : s.connection.held ≠ 0) :
    Returns u base ⟨s, Store.endOfParse q ++ base, log⟩ n υ ↔
      n = q ∧ υ = ⟨s.loseHandle, base, log⟩ := by
  have hrelease : (Task.releaseHandle).run s = some (.only s.loseHandle) := by
    have hne : s.handles ≠ 1 := by
      unfold Store.handles
      omega
    simp [Task.run, Store.releaseHandle, hne]
  have hanswer : (Task.answer (.consumed q)).run s.loseHandle =
      some { store := s.loseHandle, log := [.answered (.consumed q)] } := rfl
  refine (returns_step (append_ne_base [.releaseHandle] _) (stepBy_of_run hrelease rfl)).trans ?_
  refine (returns_step (append_ne_base [] _) (stepBy_of_run hanswer rfl)).trans ?_
  exact returns_answered

/-- A call that finds nothing to do leaves everything as it was. -/
theorem parses_iff_of_endOfParse {σ υ : Session} {buffer : Bytes} {n : Nat} (hi : σ.isIdle = true)
    (ho : σ.store.connection.owned ≠ 0)
    (h : σ.store.holdHandle.parse buffer 0 = .follow σ.store.holdHandle (Store.endOfParse 0)) :
    Parses u σ buffer n υ ↔ n = 0 ∧ υ = σ := by
  have hrun : (Task.parse buffer 0).run σ.store.holdHandle =
      some (.follow σ.store.holdHandle (Store.endOfParse 0)) := congrArg some h
  rw [parses_iff hi ho]
  refine (returns_step (append_ne_base [] _) (stepBy_of_run hrun rfl)).trans ?_
  exact returns_endOfParse ho (Nat.succ_ne_zero _)

/-- Calls that need no more than so many steps, made where nothing else is under way. -/
def finish (u : Script) : Nat → Session → Option (Nat × Session)
  | 0, _ => none
  | fuel + 1, σ =>
    match σ.tasks, σ.log with
    | [], .answered (.consumed n) :: log => some (n, { σ with log := log })
    | [], _ => none
    | _ :: _, _ => (σ.stepBy u).bind (finish u fuel)

theorem returns_of_finish {u : Script} {fuel n : Nat} {σ υ : Session}
    (h : finish u fuel σ = some (n, υ)) : Returns u [] σ n υ := by
  induction fuel generalizing σ with
  | zero => cases h
  | succ fuel ih =>
    unfold finish at h
    split at h
    · rename_i ht hl
      cases h
      exact .answered ht hl
    · cases h
    · rename_i ht
      obtain ⟨τ, hs, h⟩ := Option.bind_eq_some_iff.1 h
      exact .step (by rw [ht]; simp) hs (ih h)

/-! ## Calls side by side -/

/-- What the call of one session comes to, told by that of another: whatever the one comes to, by
`Q`, the other comes to as well. -/
structure Agrees (u : Script) (base : List Task) (bound : Nat)
    (Q : Nat → Session → Nat → Session → Prop) (σ σ' : Session) : Prop where
  forth : ∀ n ρ, Returns u base σ n ρ → n ≤ bound ∧ ∀ k υ, Q n ρ k υ → Returns u base σ' k υ
  back : ∀ k υ, Returns u base σ' k υ → ∃ n ρ, Returns u base σ n ρ ∧ Q n ρ k υ

variable {bound : Nat} {Q : Nat → Session → Nat → Session → Prop}

theorem Agrees.of_step {σ σ' τ τ' : Session} (ht : σ.tasks ≠ base) (ht' : σ'.tasks ≠ base)
    (h : σ.stepBy u = some τ) (h' : σ'.stepBy u = some τ') (ha : Agrees u base bound Q τ τ') :
    Agrees u base bound Q σ σ' := by
  constructor
  · intro n ρ hr
    obtain ⟨hle, hforth⟩ := ha.forth n ρ ((returns_step ht h).1 hr)
    exact ⟨hle, fun k υ hQ => .step ht' h' (hforth k υ hQ)⟩
  · intro k υ hr
    obtain ⟨n, ρ, hn, hQ⟩ := ha.back k υ ((returns_step ht' h').1 hr)
    exact ⟨n, ρ, .step ht h hn, hQ⟩

/-- Sessions that stay side by side until they agree agree from the start. -/
theorem agrees_of_beside {B : Session → Session → Prop}
    (hB : ∀ σ σ', B σ σ' → Agrees u base bound Q σ σ' ∨
      (σ.tasks ≠ base ∧ σ'.tasks ≠ base ∧ Option.Rel B (σ.stepBy u) (σ'.stepBy u)))
    {σ σ' : Session} (h : B σ σ') : Agrees u base bound Q σ σ' := by
  constructor
  · -- the run of the one is followed by the other, up to where they agree
    intro n ρ hr
    induction hr generalizing σ' with
    | answered ht hl =>
      rcases hB _ _ h with ha | ⟨hne, -, -⟩
      · exact ha.forth _ _ (.answered ht hl)
      · exact absurd ht hne
    | step ht hs hr ih =>
      rcases hB _ _ h with ha | ⟨-, hne', hrel⟩
      · exact ha.forth _ _ (.step ht hs hr)
      · rw [hs] at hrel
        generalize ho : σ'.stepBy u = o at hrel
        cases hrel with
        | some hτ =>
          obtain ⟨hle, hforth⟩ := ih hτ
          exact ⟨hle, fun k υ hQ => .step hne' ho (hforth k υ hQ)⟩
  · intro k υ hr
    induction hr generalizing σ with
    | answered ht hl =>
      rcases hB _ _ h with ha | ⟨-, hne', -⟩
      · exact ha.back _ _ (.answered ht hl)
      · exact absurd ht hne'
    | step ht hs hr ih =>
      rcases hB _ _ h with ha | ⟨hne, -, hrel⟩
      · exact ha.back _ _ (.step ht hs hr)
      · rw [hs] at hrel
        generalize ho : σ.stepBy u = o at hrel
        cases hrel with
        | some hτ =>
          obtain ⟨n, ρ, hn, hQ⟩ := ih hτ
          exact ⟨n, ρ, .step hne ho hn, hQ⟩

/-! ## What a run keeps -/

/-- Reachable but for what was noted, with a handle that user code keeps. -/
structure Kept (σ : Session) : Prop where
  reachable : ∃ log, Reachable { σ with log := log }
  owned : σ.store.connection.owned ≠ 0

/-- What happened before has no part in a step. -/
theorem Step.relog {σ τ : Session} (h : Step σ τ) (log : List Event) :
    ∃ log', Step { σ with log := log } { τ with log := log' } := by
  obtain ⟨t, rest, n, ht, hn, rfl⟩ | ⟨c, hi, hl, rfl⟩ | ⟨cb, r, rest, ht, rfl⟩ := h.cases_on_stack
  · exact ⟨_, .tick (tick_eq_some_iff.2 ⟨t, rest, n, ht, hn, rfl⟩)⟩
  · exact ⟨_, .call c (call?_eq_some_iff.2 ⟨hi, hl, rfl⟩)⟩
  · exact ⟨_, .return r (return?_eq_some_iff.2 ⟨cb, rest, ht, rfl⟩)⟩

namespace Kept

variable {σ τ : Session}

theorem relog (h : σ.Kept) (log : List Event) : Kept { σ with log := log } :=
  ⟨h.reachable, h.owned⟩

theorem held_eq (h : σ.Kept) : σ.store.connection.held = handlesOf σ.tasks := by
  obtain ⟨log, hr⟩ := h.reachable
  exact hr.held_eq

theorem state_of_not_alive (h : σ.Kept) (ha : σ.store.connection.alive = false) :
    σ.store.connection.state = .closed := by
  obtain ⟨log, hr⟩ := h.reachable
  exact hr.state_of_not_alive ha

theorem isProper (h : σ.Kept) : σ.IsProper := by
  obtain ⟨log, hr⟩ := h.reachable
  exact hr.isProper

theorem step (h : σ.Kept) (hs : Step σ τ) (ho : τ.store.connection.owned ≠ 0) : τ.Kept := by
  obtain ⟨log, hr⟩ := h.reachable
  obtain ⟨log', hs'⟩ := hs.relog log
  exact ⟨⟨log', hr.step hs'⟩, ho⟩

theorem call {c : Call} (h : σ.Kept) (hc : σ.call? c = some τ) (hd : c ≠ .dropHandle) : τ.Kept := by
  refine h.step (.call c hc) fun ho => h.owned ?_
  have hle := owned_le_of_act (a := .call c) (by simpa using hd) hc
  omega

theorem stepBy (h : σ.Kept) (hs : σ.stepBy u = some τ) : τ.Kept := by
  refine h.step (.stepBy hs) ?_
  have ho := h.owned
  unfold Session.stepBy at hs
  split at hs
  · split at hs
    · rename_i hk
      by_cases ha : u σ.log σ.store = .call .dropHandle
      · rw [ha] at hs hk
        obtain ⟨-, -, rfl⟩ := call?_eq_some_iff.1 hs
        have hlt : 1 < σ.store.connection.owned := of_decide_eq_true hk
        show σ.store.connection.owned - 1 ≠ 0
        omega
      · have hle := owned_le_of_act ha hs
        omega
    · cases hs
  · have hle := owned_le_of_tick h.isProper hs
    omega

theorem returns {base : List Task} {n : Nat} {υ : Session} (h : σ.Kept)
    (hr : Returns u base σ n υ) : υ.Kept := by
  induction hr with
  | answered => exact h.relog _
  | step _ hs _ ih => exact ih (h.stepBy hs)

/-- What is kept is kept beside another session. -/
theorem rel {B : Session → Session → Prop} {o : Option Session} (h : σ.Kept)
    (hr : Option.Rel B (σ.stepBy u) o) :
    Option.Rel (fun τ τ' => B τ τ' ∧ τ.Kept) (σ.stepBy u) o := by
  generalize hs : σ.stepBy u = o' at hr
  cases hr with
  | none => exact .none
  | some hB => exact .some ⟨hB, h.stepBy hs⟩

end Kept

end AmqpSession.Session
