/-
What one step does to the connection, the log and the stack of tasks at once. A step either works
(`Works`: one task or none is replaced by others) or completes negotiation (`Completes`); what waits
below stays, but for what a callback's answer changes in the task right under it (`Task.plain`).
-/
import AmqpSession.Proofs.Tasks

namespace AmqpSession

open Wire

/-! ## What an answer may change -/

/-- A task without what the answer of a callback may change in it. -/
def Task.plain : Task → Task
  | .tuned limits => .tuned { limits with heartbeat := 0 }
  | .handled e p _ => .handled e p none
  | t => t

/-- No answer changes the task. -/
def Task.isFixed : Task → Bool
  | .tuned _ | .handled _ _ _ => false
  | _ => true

theorem Task.eq_of_plain_eq {t t' : Task} (h : t'.plain = t.plain) (ht : t.isFixed = true) : t' = t := by
  cases t with
  | tuned | handled => cases ht
  | _ => cases t' <;> first | exact h | cases h

namespace Session

theorem map_plain_refuse (v : Violation) (tasks : List Task) :
    (refuse v tasks).map Task.plain = tasks.map Task.plain := by
  obtain h | ⟨e, p, f, rest, rfl, h⟩ := refuse_eq v tasks
  · rw [h]
  · rw [h]; rfl

theorem map_plain_choose (seconds : UInt16) (tasks : List Task) :
    (choose seconds tasks).map Task.plain = tasks.map Task.plain := by
  obtain h | ⟨l, rest, rfl, h⟩ := choose_eq seconds tasks
  · rw [h]
  · rw [h]; rfl

theorem map_plain_answerWith (cb : Callback) (r : Reply) (rest : List Task) :
    (answerWith cb r rest).map Task.plain = rest.map Task.plain := by
  unfold answerWith
  split
  · exact map_plain_choose _ _
  · exact map_plain_refuse _ _
  · rfl

/-- What is under a task that ran. -/
def below (n : Next) (rest : List Task) : List Task :=
  match n.fault with
  | some v => refuse v rest
  | none => rest

theorem proceed_tasks (n : Next) (log : List Event) (rest : List Task) :
    (proceed n log rest).tasks = n.tasks ++ below n rest := rfl

theorem proceed_tasks_of_fault_none {n : Next} (h : n.fault = none) (log : List Event)
    (rest : List Task) : (proceed n log rest).tasks = n.tasks ++ rest := by
  rw [proceed_tasks, below, h]

theorem proceed_andThen {n : Next} (h : n.fault = none) (tasks : List Task) (log : List Event)
    (rest : List Task) : proceed (n.andThen tasks) log rest = proceed n log (tasks ++ rest) := by
  unfold proceed Next.andThen
  dsimp only
  rw [h, List.append_assoc]

theorem map_plain_below (n : Next) (rest : List Task) :
    (below n rest).map Task.plain = rest.map Task.plain := by
  unfold below
  split
  · exact map_plain_refuse _ _
  · rfl

/-- What answers do not change of each task, they do not change of a whole stack. -/
theorem map_eq_of_map_plain {β : Type} {f : Task → β} (hf : ∀ t : Task, f t.plain = f t)
    {tasks tasks' : List Task} (h : tasks'.map Task.plain = tasks.map Task.plain) :
    tasks'.map f = tasks.map f := by
  have hmap : ∀ l : List Task, (l.map Task.plain).map f = l.map f := by
    intro l
    rw [List.map_map]
    exact List.map_congr_left fun t _ => hf t
  rw [← hmap tasks', h, hmap tasks]

theorem countP_eq_of_map_plain {p : Task → Bool} (hp : ∀ t : Task, p t.plain = p t)
    {tasks tasks' : List Task} (h : tasks'.map Task.plain = tasks.map Task.plain) :
    tasks'.countP p = tasks.countP p := by
  have hplain : p ∘ Task.plain = p := funext hp
  rw [← hplain, ← List.countP_map, h, List.countP_map]

theorem exists_mem_of_map_plain_eq {tasks tasks' : List Task}
    (h : tasks'.map Task.plain = tasks.map Task.plain) {t : Task} (ht : t ∈ tasks') :
    ∃ t' ∈ tasks, t'.plain = t.plain := by
  have hm : t.plain ∈ tasks.map Task.plain := by
    rw [← h]
    exact List.mem_map_of_mem ht
  exact List.mem_map.1 hm

theorem mem_of_map_plain_eq {tasks tasks' : List Task}
    (h : tasks'.map Task.plain = tasks.map Task.plain) {t : Task} (hf : t.isFixed = true)
    (ht : t ∈ tasks') : t ∈ tasks := by
  obtain ⟨t', ht', he⟩ := exists_mem_of_map_plain_eq h ht
  rwa [Task.eq_of_plain_eq he hf] at ht'

/-! ## One step -/

/-- The tasks `old`, at most one, are replaced by `new`. -/
structure Works (σ τ : Session) (es : List Event) (old new rest rest' : List Task) : Prop where
  before : σ.tasks = old ++ rest
  one : (old = [] ∧ σ.isIdle = true) ∨ ∃ t, old = [t]
  after : τ.tasks = new ++ rest'
  ran : ∀ t, old = [t] → (∀ cb, t ≠ .user cb) →
    ∃ n, t.run σ.store = some n ∧ new = n.tasks ∧ τ.store = n.store
  kept : rest'.map Task.plain = rest.map Task.plain
  log : τ.log = es.reverse ++ σ.log
  moves : Connection.Moves σ.tasks.head? σ.store.connection es τ.store.connection
  tasks : ∀ t ∈ new, t.isCommon = true ∨
    (∃ t₀, old = [t₀] ∧ t₀.LeadsTo σ.store.connection τ.store.connection t) ∨
    (old = [] ∧ σ.store.connection.CallLeadsTo τ.store.connection t)

/-- Negotiation completes, in the middle of a buffer. -/
structure Completes (σ τ : Session) : Prop where
  tuning : σ.store.connection.state = .negotiatingTuning
  connection : τ.store.connection = { σ.store.connection with state := .connected }
  log : ∃ f, τ.log = .received f :: σ.log
  tasks : ∃ t rest rest' p, σ.tasks = t :: rest ∧ rest'.map Task.plain = rest.map Task.plain ∧
    (τ.tasks = .announce :: .handled none p none :: rest' ∨
      ∃ es, τ.tasks = .closeEach es :: .sendClose :: .announce :: .handled none p none :: rest')

/-- Every task is one that `Task.run_moves` speaks of. -/
def IsProper (σ : Session) : Prop := ∀ t ∈ σ.tasks, t.isProper = true

theorem isUser_of_isIdle {σ : Session} (h : σ.isIdle = true) :
    σ.tasks.head?.all Task.isUser = true := by
  unfold isIdle at h
  split at h
  · rename_i ht; rw [ht]; rfl
  · rename_i cb rest ht; rw [ht]; rfl
  · cases h

theorem Step.cases {σ τ : Session} (hσ : σ.IsProper) (h : Step σ τ) :
    (∃ es old new rest rest', Works σ τ es old new rest rest') ∨ Completes σ τ := by
  obtain ⟨t, rest, n, ht, hn, rfl⟩ | ⟨c, hi, -, rfl⟩ | ⟨cb, r, rest, ht, rfl⟩ := h.cases_on_stack
  · have hproper : t.isProper = true := hσ t (by rw [ht]; exact List.mem_cons_self)
    have hhead : σ.tasks.head? = some t := by rw [ht]; rfl
    rcases Task.run_moves hproper hn with hm | hc
    · rcases Task.run_leadsTo hn with hl | hc
      · refine .inl ⟨n.log, [t], n.tasks, rest, below n rest, ht, .inr ⟨t, rfl⟩, rfl, ?_,
          map_plain_below n rest, rfl, ?_, ?_⟩
        · intro t' ht' _
          rw [← List.singleton_inj.1 ht']
          exact ⟨n, hn, rfl, rfl⟩
        · rw [hhead]; exact hm
        · exact fun t' ht' => (hl t' ht').imp id fun hl => .inl ⟨t, rfl, hl⟩
      · exact .inr (completes_of_connects ht hc)
    · exact .inr (completes_of_connects ht hc)
  · -- a call begins above everything that waits
    refine .inl ⟨(c.run σ.store).log, [], (c.run σ.store).tasks, σ.tasks,
      below (c.run σ.store) σ.tasks, rfl, .inl ⟨rfl, hi⟩, rfl, by simp, map_plain_below _ _, rfl,
      c.run_moves σ.store fun _ => isUser_of_isIdle hi, ?_⟩
    exact fun t ht => (c.run_leadsTo σ.store t ht).imp id fun hl => .inr ⟨rfl, hl⟩
  · -- a callback that returns leaves nothing behind, but may answer the task under it
    exact .inl ⟨[], [.user cb], [], rest, answerWith cb r rest, ht, .inr ⟨_, rfl⟩, rfl, by simp,
      map_plain_answerWith cb r rest, rfl, .refl _, by simp⟩
where
  completes_of_connects {σ : Session} {t : Task} {rest : List Task} {n : Next}
      (ht : σ.tasks = t :: rest) (hc : Store.Connects σ.store n) :
      Completes σ (proceed n σ.log rest) := by
    obtain ⟨f, hf⟩ := hc.log
    obtain ⟨p, hp⟩ := hc.tasks
    refine ⟨hc.tuning, hc.connection, ⟨f, ?_⟩, t, rest, below n rest, p, ht, map_plain_below n rest, ?_⟩
    · show n.log.reverse ++ σ.log = _
      rw [hf]; rfl
    · rw [proceed_tasks]
      rcases hp with hp | ⟨es, hp⟩
      · rw [hp]; exact .inl rfl
      · rw [hp]; exact .inr ⟨es, rfl⟩

/-! ## Notices -/

theorem Works.mem_tasks {σ τ : Session} {es : List Event} {old new rest rest' : List Task}
    (h : Works σ τ es old new rest rest') {t : Task} (ht : t ∈ τ.tasks) :
    t ∈ new ∨ ∃ t' ∈ σ.tasks, t'.plain = t.plain := by
  rw [h.after] at ht
  rcases List.mem_append.1 ht with ht | ht
  · exact .inl ht
  · obtain ⟨t', ht', he⟩ := exists_mem_of_map_plain_eq h.kept ht
    exact .inr ⟨t', by rw [h.before]; exact List.mem_append_right _ ht', he⟩

theorem Works.mem_of_isFixed {σ τ : Session} {es : List Event} {old new rest rest' : List Task}
    (h : Works σ τ es old new rest rest') {t : Task} (hf : t.isFixed = true) (ht : t ∈ τ.tasks) :
    t ∈ new ∨ t ∈ σ.tasks := by
  refine (h.mem_tasks ht).imp id ?_
  rintro ⟨t', ht', he⟩
  rwa [Task.eq_of_plain_eq he hf] at ht'

theorem Completes.mem_tasks {σ τ : Session} (h : Completes σ τ) {t : Task} (ht : t ∈ τ.tasks) :
    (t = .announce ∨ t = .sendClose ∨ (∃ es, t = .closeEach es) ∨ ∃ p, t = .handled none p none) ∨
      ∃ t' ∈ σ.tasks, t'.plain = t.plain := by
  obtain ⟨t₀, rest, rest', p, hσ, hk, hτ⟩ := h.tasks
  have hrest : t ∈ rest' → ∃ t' ∈ σ.tasks, t'.plain = t.plain := by
    intro ht
    obtain ⟨t', ht', he⟩ := exists_mem_of_map_plain_eq hk ht
    exact ⟨t', by rw [hσ]; exact List.mem_cons_of_mem _ ht', he⟩
  rcases hτ with hτ | ⟨es, hτ⟩
  · rw [hτ] at ht
    simp only [List.mem_cons] at ht
    rcases ht with rfl | rfl | ht
    · exact .inl (.inl rfl)
    · exact .inl (.inr (.inr (.inr ⟨p, rfl⟩)))
    · exact .inr (hrest ht)
  · rw [hτ] at ht
    simp only [List.mem_cons] at ht
    rcases ht with rfl | rfl | rfl | rfl | ht
    · exact .inl (.inr (.inr (.inl ⟨es, rfl⟩)))
    · exact .inl (.inr (.inl rfl))
    · exact .inl (.inl rfl)
    · exact .inl (.inr (.inr (.inr ⟨p, rfl⟩)))
    · exact .inr (hrest ht)

theorem Completes.mem_of_isFixed {σ τ : Session} (h : Completes σ τ) {t : Task} (hf : t.isFixed = true)
    (ht : t ∈ τ.tasks) :
    t = .announce ∨ t = .sendClose ∨ (∃ es, t = .closeEach es) ∨ t ∈ σ.tasks := by
  obtain (rfl | rfl | ⟨es, rfl⟩ | ⟨p, rfl⟩) | ⟨t', ht', he⟩ := h.mem_tasks ht
  · exact .inl rfl
  · exact .inr (.inl rfl)
  · exact .inr (.inr (.inl ⟨es, rfl⟩))
  · cases hf
  · rw [Task.eq_of_plain_eq he hf] at ht'
    exact .inr (.inr (.inr ht'))

theorem isProper_of_plain_eq {t t' : Task} (h : t'.plain = t.plain) (ht : t'.isProper = true) :
    t.isProper = true := by
  cases t with
  | tuned | handled => rfl
  | _ => rwa [Task.eq_of_plain_eq h rfl] at ht

theorem IsProper.step {σ τ : Session} (hσ : σ.IsProper) (h : Step σ τ) : τ.IsProper := by
  intro t ht
  rcases h.cases hσ with ⟨es, old, new, rest, rest', hw⟩ | hc
  · rcases hw.mem_tasks ht with ht | ⟨t', ht', he⟩
    · obtain hcommon | ⟨t₀, -, hl⟩ | ⟨-, hl⟩ := hw.tasks t ht
      · exact t.isProper_of_isCommon hcommon
      · exact hl.isProper
      · exact hl.isProper
    · exact isProper_of_plain_eq he (hσ t' ht')
  · obtain (rfl | rfl | ⟨es, rfl⟩ | ⟨p, rfl⟩) | ⟨t', ht', he⟩ := hc.mem_tasks ht
    · rfl
    · rfl
    · rfl
    · rfl
    · exact isProper_of_plain_eq he (hσ t' ht')

/-- The beginning is a change of a new connection as well. -/
theorem connect_works (o : Options) :
    Connection.Moves none (.new o) (connect o).log.reverse (connect o).store.connection ∧
      ∃ new, (connect o).tasks = new ++ [.handOverConnection, .answer .done] ∧
        ∀ t ∈ new, t.isCommon = true := by
  refine ⟨?_, ((Store.new o).offer .greeting).tasks, ?_, Store.offer_common _ _⟩
  · have h : Connection.Moves none _ _ _ := Store.offer_moves (Store.new o) .greeting
    have hl : (connect o).log.reverse = ((Store.new o).offer .greeting).log := by
      simp [connect, proceed]
    rw [hl]
    exact h
  · rfl

/-- What waits at the beginning is common work and the handle that user code gets. -/
theorem connect_tasks (o : Options) {p : Task → Prop} (hcommon : ∀ t : Task, t.isCommon = true → p t)
    (hhandle : p .handOverConnection) (hdone : p (.answer .done)) : ∀ t ∈ (connect o).tasks, p t := by
  obtain ⟨-, new, hnew, hnew'⟩ := connect_works o
  rw [hnew]
  intro t ht
  rcases List.mem_append.1 ht with ht | ht
  · exact hcommon t (hnew' t ht)
  · simp only [List.mem_cons, List.not_mem_nil, or_false] at ht
    rcases ht with rfl | rfl
    · exact hhandle
    · exact hdone

theorem Reachable.isProper {σ : Session} (h : Reachable σ) : σ.IsProper := by
  refine h.induction (fun o => ?_) fun σ τ _ hσ hs => hσ.step hs
  exact connect_tasks o (fun t => t.isProper_of_isCommon) rfl rfl

/-! ## Facts about the connection and the log -/

/-- What is kept by every change of the connection, with what is noted about it, holds
throughout. -/
theorem Reachable.connection_induction {P : Connection → List Event → Prop}
    (hnew : ∀ o, P (.new o) [])
    (hmove : ∀ t k es k' log, P k log → Connection.Move t k es k' → P k' (es.reverse ++ log))
    (hcompletes : ∀ k log f, P k log → k.state = .negotiatingTuning →
      P { k with state := .connected } (.received f :: log))
    {σ : Session} (h : Reachable σ) : P σ.store.connection σ.log := by
  have hmoves : ∀ t k es k' log, P k log → Connection.Moves t k es k' → P k' (es.reverse ++ log) := by
    intro t k es k' log hk hm
    induction hm with
    | refl => exact hk
    | tail _ hmove' ih =>
      rw [List.reverse_append, List.append_assoc]
      exact hmove _ _ _ _ _ ih hmove'
  refine h.induction (P := fun σ => P σ.store.connection σ.log) ?_ ?_
  · intro o
    have := hmoves _ _ _ _ _ (hnew o) (connect_works o).1
    simpa using this
  · intro σ τ hσ hp hs
    rcases hs.cases hσ.isProper with ⟨es, old, new, rest, rest', hw⟩ | hc
    · rw [hw.log]
      exact hmoves _ _ _ _ _ hp hw.moves
    · obtain ⟨f, hf⟩ := hc.log
      rw [hf, hc.connection]
      exact hcompletes _ _ f hp hc.tuning

/-- A destroyed connection is closed. -/
theorem Reachable.state_of_not_alive {σ : Session} (h : Reachable σ)
    (ha : σ.store.connection.alive = false) : σ.store.connection.state = .closed := by
  refine h.connection_induction (P := fun k _ => k.alive = false → k.state = .closed) ?_ ?_ ?_ ha
  · intro o ha; cases ha
  · intro t k es k' log hk hm ha
    cases hm with
    | answerOffer hs => rw [hk ha] at hs; cases hs
    | awaitCloseOk _ ha' => rw [ha'] at ha; cases ha
    | shut => rfl
    | destroyed => rfl
    | _ => exact hk ha
  · intro k log f hk hs ha
    rw [hk ha] at hs
    cases hs

theorem Reachable.alive_of_connected {σ : Session} (h : σ.Reachable)
    (hs : σ.store.connection.state = .connected) : σ.store.connection.alive = true := by
  cases ha : σ.store.connection.alive with
  | true => rfl
  | false =>
    rw [h.state_of_not_alive ha] at hs
    cases hs

end Session

end AmqpSession
