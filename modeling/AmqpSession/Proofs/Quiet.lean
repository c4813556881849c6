/-
User code that leaves a call alone: it returns from every callback at once. What the work above a task
that waits then comes to is told without its steps (`Yields`), and the run takes those steps
(`Yields.ends`, `Yields.parses`).
-/
import AmqpSession.Proofs.Passive
import AmqpSession.Proofs.Script

namespace AmqpSession

open Wire

/-- The callbacks that were started, the latest first. -/
def callbacks (log : List Event) : List Callback :=
  log.filterMap fun
    | .started cb => some cb
    | _ => none

@[simp] theorem callbacks_append (es es' : List Event) :
    callbacks (es ++ es') = callbacks es ++ callbacks es' := List.filterMap_append

theorem reports_append (es es' : List Event) : reports (es ++ es') = reports es ++ reports es' :=
  List.filterMap_append

namespace Session

/-- User code that only returns. -/
def quiet : Script := fun _ _ => .return .done

/-- The work above `base` is done, and nothing else. -/
inductive Ends (u : Script) (base : List Task) : Session → Session → Prop where
  | here {σ : Session} (ht : σ.tasks = base) : Ends u base σ σ
  | step {σ τ υ : Session} (ht : σ.tasks ≠ base) (h : σ.stepBy u = some τ) (hr : Ends u base τ υ) :
      Ends u base σ υ

variable {u : Script} {base : List Task}

/-- A script leaves no choice. -/
theorem Ends.unique {σ υ υ' : Session} (h : Ends u base σ υ) (h' : Ends u base σ υ') : υ = υ' := by
  induction h with
  | here ht =>
    cases h' with
    | here => rfl
    | step ht' => exact absurd ht ht'
  | step ht h _ ih =>
    cases h' with
    | here ht' => exact absurd ht' ht
    | step _ h' hr' =>
      rw [h] at h'
      cases h'
      exact ih hr'

/-- A call to parse that comes to its end answers. -/
theorem Ends.returns {σ : Session} {s : Store} {n : Nat} {log : List Event}
    (h : Ends u base σ ⟨s, base, .answered (.consumed n) :: log⟩) : Returns u base σ n ⟨s, base, log⟩ := by
  generalize hυ : (⟨s, base, .answered (.consumed n) :: log⟩ : Session) = υ at h
  induction h with
  | here ht =>
    subst hυ
    exact .answered rfl rfl
  | step ht h _ ih => exact .step ht h (ih hυ)

theorem stepBy_quiet_user (s : Store) (cb : Callback) (rest : List Task) (log : List Event) :
    stepBy quiet ⟨s, .user cb :: rest, log⟩ = some ⟨s, rest, log⟩ := by
  have hanswer : answerWith cb .done rest = rest := by cases cb <;> rfl
  show some (⟨s, answerWith cb .done rest, log⟩ : Session) = _
  rw [hanswer]

end Session

open Session

/-! ## What work comes to -/

/-- While user code only returns, the work is done from the first state to the last, and what happens
meanwhile is `es`, the latest first. -/
inductive Yields : List Task → Store → List Event → Store → Prop where
  | done (s : Store) : Yields [] s [] s
  | user {cb : Callback} {rest : List Task} {s s' : Store} {es : List Event}
      (h : Yields rest s es s') : Yields (.user cb :: rest) s es s'
  | task {t : Task} {rest : List Task} {s s' : Store} {n : Next} {es : List Event}
      (hn : t.run s = some n) (hf : n.fault = none) (h : Yields (n.tasks ++ rest) n.store es s') :
      Yields (t :: rest) s (es ++ n.log.reverse) s'
  /-- The task found a fault of the frame being handled. -/
  | fault {t : Task} {e : Option EndpointRef} {p : Parsing} {f : Option Violation} {v : Violation}
      {rest : List Task} {s s' : Store} {n : Next} {es : List Event} (hn : t.run s = some n)
      (hf : n.fault = some v) (h : Yields (n.tasks ++ .handled e p (some v) :: rest) n.store es s') :
      Yields (t :: .handled e p f :: rest) s (es ++ n.log.reverse) s'

namespace Yields

variable {work rest : List Task} {s s' s'' : Store} {es : List Event}

/-- The steps are taken above whatever waits. -/
theorem ends (h : Yields work s es s') (base : List Task) (log : List Event) :
    Ends quiet base ⟨s, work ++ base, log⟩ ⟨s', base, es ++ log⟩ := by
  -- the run goes on as long as there is something above `base`
  have hne : ∀ (t : Task) (rest : List Task), t :: rest ++ base ≠ base := by
    intro t rest h
    have hl := congrArg List.length h
    rw [List.length_append, List.length_cons] at hl
    omega
  induction h generalizing log with
  | done s => exact .here rfl
  | user _ ih => exact .step (hne _ _) (stepBy_quiet_user _ _ _ log) (ih log)
  | @task t rest s s' n es hn hf _ ih =>
    have hstep : stepBy quiet ⟨s, t :: rest ++ base, log⟩ =
        some ⟨n.store, n.tasks ++ (rest ++ base), n.log.reverse ++ log⟩ := stepBy_of_run hn hf
    refine .step (hne _ _) hstep ?_
    rw [← List.append_assoc, List.append_assoc es]
    exact ih _
  | @fault t e p f v rest s s' n es hn hf _ ih =>
    have hstep : stepBy quiet ⟨s, t :: .handled e p f :: rest ++ base, log⟩ =
        some ⟨n.store, n.tasks ++ (.handled e p (some v) :: rest ++ base), n.log.reverse ++ log⟩ := by
      have hi : isIdle ⟨s, t :: .handled e p f :: rest ++ base, log⟩ = false := by
        cases t with
        | user cb => cases hn
        | _ => rfl
      rw [stepBy, if_neg (by rw [hi]; exact Bool.false_ne_true)]
      simp [tick, hn, proceed, hf, refuse]
    refine .step (hne _ _) hstep ?_
    rw [← List.append_assoc, List.append_assoc es]
    exact ih _

/-- A call to parse where user code has a turn. -/
theorem parses {σ : Session} {reply : Bytes} {n : Nat}
    (h : Yields [.parse reply 0] σ.store.holdHandle (.answered (.consumed n) :: es) s')
    (hi : σ.isIdle = true) (hh : σ.store.handles ≠ 0) :
    Parses quiet σ reply n ⟨s', σ.tasks, es ++ σ.log⟩ := by
  have hcall : σ.call? (.parse reply) = some ⟨σ.store.holdHandle, .parse reply 0 :: σ.tasks, σ.log⟩ :=
    call?_eq_some_iff.2 ⟨hi, bne_iff_ne.2 hh, rfl⟩
  exact ⟨_, hcall, (h.ends σ.tasks σ.log).returns⟩

theorem answer {o : Outcome} (h : Yields rest s es s') :
    Yields (.answer o :: rest) s (es ++ [.answered o]) s' :=
  .task (n := { store := s, log := [.answered o] }) rfl rfl h

theorem only (s'' : Store) {t : Task} (hn : t.run s = some (.only s'')) (h : Yields rest s'' es s') :
    Yields (t :: rest) s es s' := by
  have : Yields (t :: rest) s (es ++ []) s' := task hn rfl h
  rwa [List.append_nil] at this

/-- A handle that is not the last goes. -/
theorem releaseHandle (hh : s.handles ≠ 1) (h : Yields rest s.loseHandle es s') :
    Yields (.releaseHandle :: rest) s es s' := by
  refine .only s.loseHandle ?_ h
  show some s.releaseHandle = _
  rw [Store.releaseHandle, if_neg hh]

theorem follow (s'' : Store) {t : Task} {tasks : List Task} (hn : t.run s = some (.follow s'' tasks))
    (h : Yields (tasks ++ rest) s'' es s') : Yields (t :: rest) s es s' := by
  have : Yields (t :: rest) s (es ++ []) s' := task hn rfl h
  rwa [List.append_nil] at this

end Yields

/-- The work done in no more than so many steps: what happens meanwhile, and the state at the end. -/
def yield? : Nat → List Task → Store → Option (List Event × Store)
  | _, [], s => some ([], s)
  | 0, _ :: _, _ => none
  | fuel + 1, t :: rest, s =>
    match t.run s with
    | none => yield? fuel rest s
    | some n =>
      let goOn := fun rest => (yield? fuel (n.tasks ++ rest) n.store).map fun (es, s') =>
        (es ++ n.log.reverse, s')
      match n.fault, rest with
      | none, rest => goOn rest
      | some v, .handled e p _ :: rest => goOn (.handled e p (some v) :: rest)
      | some _, _ => none

theorem yields_of_yield? {fuel : Nat} {work : List Task} {s s' : Store} {es : List Event}
    (h : yield? fuel work s = some (es, s')) : Yields work s es s' := by
  induction fuel generalizing work s es with
  | zero =>
    cases work with
    | nil => cases h; exact .done _
    | cons => cases h
  | succ fuel ih =>
    cases work with
    | nil => cases h; exact .done _
    | cons t rest =>
      rw [yield?] at h
      split at h
      · rename_i hn
        obtain ⟨cb, rfl⟩ := (t.run_eq_none_iff s).1 hn
        exact .user (ih h)
      · rename_i n hn
        dsimp only at h
        split at h
        · rename_i hf
          obtain ⟨⟨es, s'⟩, hr, h⟩ := Option.map_eq_some_iff.1 h
          cases h
          exact .task hn hf (ih hr)
        · rename_i hf
          obtain ⟨⟨es, s'⟩, hr, h⟩ := Option.map_eq_some_iff.1 h
          cases h
          exact .fault hn hf (ih hr)
        · cases h

end AmqpSession
