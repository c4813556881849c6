/-
What user code is told of the end: that there was an error, or that the connection is closed. If it
calls nothing from its callbacks, then it is told so only in a call that leaves the connection closed
(`Undecided.returns`): as long as nothing was told, no task that may close the connection is done
before a close that is under way, and once the connection is closed, no close is under way any more.
-/
import AmqpSession.Proofs.Fragments
import AmqpSession.Proofs.Quiet

namespace AmqpSession

open Wire

/-! ## Verdicts -/

/-- User code learns that it is over. -/
def Callback.isVerdict : Callback → Bool
  | .closed | .error _ => true
  | _ => false

/-- What user code was told of the end, the latest first. -/
def verdicts (log : List Event) : List Callback := (callbacks log).filter Callback.isVerdict

@[simp] theorem verdicts_append (es es' : List Event) :
    verdicts (es ++ es') = verdicts es ++ verdicts es' := by
  rw [verdicts, callbacks_append, List.filter_append]
  rfl

theorem verdicts_eq_nil_iff {es : List Event} :
    verdicts es = [] ↔ ∀ cb, .started cb ∈ es → cb.isVerdict = false := by
  unfold verdicts callbacks
  rw [List.filter_eq_nil_iff]
  constructor
  · intro h cb hcb
    exact Bool.not_eq_true _ ▸ h cb (List.mem_filterMap.2 ⟨_, hcb, rfl⟩)
  · intro h cb hcb
    obtain ⟨e, he, hcb⟩ := List.mem_filterMap.1 hcb
    split at hcb
    · cases hcb
      rw [h cb he]
      exact Bool.false_ne_true
    · cases hcb

namespace Task

/-- User code is to learn that it is over. -/
def isVerdict : Task → Bool
  | .notify cb | .notifyAlive cb => cb.isVerdict
  | _ => false

/-- The task may close the connection. -/
def ends : Task → Bool
  | .parse _ _ | .handled _ _ _ | .closedByPeer _ => true
  | _ => false

variable {t t' : Task} {k k' : Connection}

theorem isVerdict_of_isNoteOf {cb : Callback} (hcb : cb.isVerdict = true)
    (h : (Event.started cb).isNoteOf (some t) = true) : t.isVerdict = true := by
  cases cb with
  | closed | error =>
    cases t with
    | notify cb | notifyAlive cb => cases cb <;> first | rfl | cases h
    | _ => cases h
  | _ => cases hcb

theorem plain_of_isCommon (h : t.isCommon = true) :
    t.isVerdict = false ∧ t.ends = false ∧ t.isClosing = false := by
  cases t <;> first | exact ⟨rfl, rfl, rfl⟩ | cases h

theorem LeadsTo.isClosing_of_ends (h : t.LeadsTo k k' t') (ht : t.ends = true) :
    t'.isClosing = false := by
  have hne : t' ≠ .sendClose ∧ t' ≠ .awaitCloseOk := by
    unfold Task.LeadsTo at h
    split at h <;> grind [Connection.Reports, Connection.Receives, Task.ends]
  cases t' <;> simp_all [Task.isClosing]

/-- A task that may close the connection leads to no close. -/
theorem isClosing_eq_false_of_ends (h : t'.isCommon = true ∨ t.LeadsTo k k' t') (ht : t.ends = true) :
    t'.isClosing = false :=
  h.elim (fun h => (plain_of_isCommon h).2.2) fun h => h.isClosing_of_ends ht

theorem LeadsTo.ends_eq_false (h : t.LeadsTo k k' t') (ht : t.ends = false) : t'.ends = false := by
  have hne : (∀ buffer processed, t' ≠ .parse buffer processed) ∧ (∀ e p f, t' ≠ .handled e p f) ∧
      ∀ reason, t' ≠ .closedByPeer reason := by
    unfold Task.LeadsTo at h
    split at h <;> grind [Connection.TearsDown, Connection.Closes, Task.ends]
  cases t' <;> simp_all [Task.ends]

/-- What is told of the end is told by what closed the connection. -/
theorem LeadsTo.closed_of_isVerdict (h : t.LeadsTo k k' t') (hv : t'.isVerdict = true) :
    t.ends = true ∧ k'.state = .closed := by
  have hnotice : (∃ cb, t' = .notify cb) ∨ ∃ cb, t' = .notifyAlive cb ∧ ∀ c, cb ≠ .channelClosed c := by
    cases t' with
    | notify cb => exact .inl ⟨cb, rfl⟩
    | notifyAlive cb =>
      refine .inr ⟨cb, rfl, ?_⟩
      rintro c rfl
      cases hv
    | _ => cases hv
  unfold Task.LeadsTo at h
  split at h <;> grind [Connection.TearsDown, Connection.Closes, Connection.Reports,
    Connection.Receives, Task.ends]

theorem isVerdict_plain (t : Task) : t.plain.isVerdict = t.isVerdict := by cases t <;> rfl

theorem ends_plain (t : Task) : t.plain.ends = t.ends := by cases t <;> rfl

/-- What an answer may change tells nothing of a task's kind. -/
theorem eq_false_of_map_plain {p : Task → Bool} (hp : ∀ t, p t.plain = p t) {tasks tasks' : List Task}
    (h : tasks'.map Task.plain = tasks.map Task.plain) (ht : ∀ t ∈ tasks, p t = false) :
    ∀ t ∈ tasks', p t = false := by
  intro t hm
  obtain ⟨t', hm', he⟩ := Session.exists_mem_of_map_plain_eq h hm
  rw [← hp, ← he, hp]
  exact ht t' hm'

end Task

theorem Connection.Moves.verdicts_eq_nil {t : Task} {k k' : Connection} {es : List Event}
    (h : Connection.Moves (some t) k es k') (ht : t.isVerdict = false) : verdicts es = [] := by
  rw [verdicts_eq_nil_iff]
  intro cb hcb
  cases hv : cb.isVerdict with
  | false => rfl
  | true =>
    have hdata : ∀ octets, cb ≠ .data octets := by
      rintro octets rfl
      cases hv
    rw [Task.isVerdict_of_isNoteOf hv (h.isNoteOf hdata hcb)] at ht
    cases ht

theorem verdicts_reverse (es : List Event) : verdicts es.reverse = (verdicts es).reverse := by
  rw [verdicts, verdicts, callbacks, callbacks, List.filterMap_reverse, List.filter_reverse]

/-- A task that is no notice tells nothing of the end. -/
theorem Task.run_verdicts {t : Task} {s : Store} {n : Next} (hp : t.isProper = true)
    (hv : t.isVerdict = false) (hn : t.run s = some n) : verdicts n.log = [] := by
  rcases Task.run_moves hp hn with hm | hc
  · exact hm.verdicts_eq_nil hv
  · obtain ⟨f, hf⟩ := hc.log
    rw [hf]
    rfl

/-- Only where a frame completes negotiation does a task leave anything else behind. -/
theorem Task.run_leadsTo_or_ends {t : Task} {s : Store} {n : Next} (hn : t.run s = some n) :
    (∀ t' ∈ n.tasks, t'.isCommon = true ∨ t.LeadsTo s.connection n.store.connection t') ∨
      (t.ends = true ∧ Store.Connects s n) := by
  by_cases hparse : ∃ buffer processed, t = .parse buffer processed
  · obtain ⟨buffer, processed, rfl⟩ := hparse
    exact (Task.run_leadsTo hn).imp id (⟨rfl, ·⟩)
  · exact .inl (Task.run_tasks (fun buffer processed he => hparse ⟨buffer, processed, he⟩) hn)

theorem Store.Connects.exists_tasks_eq {s : Store} {n : Next} (h : Store.Connects s n) :
    ∃ above p, n.tasks = above ++ [.handled none p none] ∧
      ∀ t ∈ above, t.isVerdict = false ∧ t.ends = false := by
  obtain ⟨p, hn | ⟨es, hn⟩⟩ := h.tasks
  · exact ⟨[.announce], p, hn, by simp [Task.isVerdict, Task.ends]⟩
  · exact ⟨[.closeEach es, .sendClose, .announce], p, hn, by simp [Task.isVerdict, Task.ends]⟩

namespace Session

/-! ## User code that calls nothing -/

/-- User code that returns from every callback at once, with whatever answer. -/
def Script.IsPassive (u : Script) : Prop := ∀ log s, ∃ r, u log s = .return r

/-- Then work goes on, or a callback returns. -/
theorem Script.IsPassive.step {u : Script} (hu : u.IsPassive) {σ τ : Session}
    (h : σ.stepBy u = some τ) :
    (∃ t rest n, σ.tasks = t :: rest ∧ t.run σ.store = some n ∧ τ = proceed n σ.log rest) ∨
      ∃ cb r rest, σ.tasks = .user cb :: rest ∧ τ = { σ with tasks := answerWith cb r rest } := by
  unfold Session.stepBy at h
  split at h
  · split at h
    · obtain ⟨r, hr⟩ := hu σ.log σ.store
      rw [hr] at h
      obtain ⟨cb, rest, ht, rfl⟩ := return?_eq_some_iff.1 h
      exact .inr ⟨cb, r, rest, ht, rfl⟩
    · cases h
  · exact .inl (tick_eq_some_iff.1 h)

/-! ## Before and after the end -/

/-- What may close the connection is not done before a close that is under way. -/
def EndsLast (tasks : List Task) : Prop :=
  tasks.Pairwise fun t t' => t.ends = true → t'.isClosing = false

theorem endsLast_of_map_plain {tasks tasks' : List Task}
    (h : tasks'.map Task.plain = tasks.map Task.plain) (ht : EndsLast tasks) : EndsLast tasks' := by
  have hplain : ∀ l : List Task, EndsLast (l.map Task.plain) ↔ EndsLast l := by
    intro l
    unfold EndsLast
    simp only [List.pairwise_map, Task.ends_plain, Task.isClosing_plain]
  rw [← hplain, h, hplain]
  exact ht

theorem endsLast_of_not_isClosing {tasks : List Task} (h : ∀ t ∈ tasks, t.isClosing = false) :
    EndsLast tasks :=
  List.pairwise_of_forall_mem_list fun _ _ t ht _ => h t ht

theorem EndsLast.append {tasks tasks' : List Task} (h : ∀ t ∈ tasks, t.ends = false)
    (h' : EndsLast tasks') : EndsLast (tasks ++ tasks') := by
  refine List.pairwise_append.2 ⟨?_, h', fun t ht t' _ he => ?_⟩
  · refine List.pairwise_of_forall_mem_list fun t ht t' _ he => ?_
    rw [h t ht] at he
    cases he
  · rw [h t ht] at he
    cases he

/-- User code was told nothing of an end but what it had been told before, and nothing else is due. -/
structure Undecided (told : List Callback) (σ : Session) : Prop where
  log : verdicts σ.log = told
  notices : ∀ t ∈ σ.tasks, t.isVerdict = false
  order : EndsLast σ.tasks

/-- The connection is closed, and nothing that is left to do takes that back. -/
structure Ended (σ : Session) : Prop where
  closed : σ.state = .closed
  calm : ∀ t ∈ σ.tasks, t.isClosing = false

variable {u : Script} {told : List Callback} {base : List Task} {σ τ : Session}

theorem Ended.step (h : σ.Ended) (hp : σ.IsProper) (hs : Step σ τ) : τ.Ended := by
  rcases hs.cases hp with ⟨es, old, new, rest, rest', w⟩ | hc
  · constructor
    · have hr : σ.state.rank ≤ τ.state.rank := by
        refine w.moves.rank_le fun he => ?_
        cases h.calm _ (List.mem_of_head? he)
      rw [h.closed] at hr
      exact ConnectionState.eq_closed hr
    · intro t ht
      rcases w.mem_tasks ht with ht | ⟨t', ht', he⟩
      · obtain hcommon | ⟨t₀, hold, hl⟩ | ⟨-, hl⟩ := w.tasks t ht
        · exact (Task.plain_of_isCommon hcommon).2.2
        · refine isClosing_eq_false_of_leadsTo hl h.closed (h.calm t₀ ?_)
          rw [w.before, hold]
          exact List.mem_cons_self
        · exact isClosing_eq_false_of_callLeadsTo hl h.closed
      · rw [← t.isClosing_plain, ← he, t'.isClosing_plain]
        exact h.calm t' ht'
  · have hclosed := h.closed
    rw [state, hc.tuning] at hclosed
    cases hclosed

/-- What is below the first task, even if that task changes the answers that are due there. -/
theorem Undecided.below (h : σ.Undecided told) {t : Task} {rest rest' : List Task}
    (ht : σ.tasks = t :: rest) (hr : rest'.map Task.plain = rest.map Task.plain) :
    (∀ t' ∈ rest', t'.isVerdict = false) ∧ EndsLast rest' ∧
      (t.ends = true → ∀ t' ∈ rest', t'.isClosing = false) := by
  have hnotices := h.notices
  have horder := h.order
  rw [ht, List.forall_mem_cons] at hnotices
  rw [ht, EndsLast, List.pairwise_cons] at horder
  refine ⟨Task.eq_false_of_map_plain Task.isVerdict_plain hr hnotices.2,
    endsLast_of_map_plain hr horder.2, fun he => ?_⟩
  exact Task.eq_false_of_map_plain Task.isClosing_plain hr fun t' ht' => horder.1 t' ht' he

/-- What a task leads to is as much in order as the task was. -/
theorem EndsLast.of_leadsTo {t : Task} {k k' : Connection} {new rest : List Task}
    (hl : ∀ t' ∈ new, t'.isCommon = true ∨ t.LeadsTo k k' t') (hr : EndsLast rest)
    (hc : t.ends = true → ∀ t' ∈ rest, t'.isClosing = false) : EndsLast (new ++ rest) := by
  cases he : t.ends with
  | true =>
    refine endsLast_of_not_isClosing fun t' ht' => (List.mem_append.1 ht').elim (fun ht' => ?_) (hc he t')
    exact Task.isClosing_eq_false_of_ends (hl t' ht') he
  | false =>
    refine .append (fun t' ht' => ?_) hr
    exact (hl t' ht').elim (fun hcommon => (Task.plain_of_isCommon hcommon).2.1)
      fun hl => hl.ends_eq_false he

/-- A notice of the end comes from a task that closed the connection. -/
theorem ended_of_isVerdict {t t₀ : Task} {rest : List Task} {n : Next} {log : List Event} {k : Connection}
    (hl : ∀ t' ∈ n.tasks, t'.isCommon = true ∨ t.LeadsTo k n.store.connection t')
    (hc : t.ends = true → ∀ t' ∈ below n rest, t'.isClosing = false) (ht₀ : t₀ ∈ n.tasks)
    (hv : t₀.isVerdict = true) : (proceed n log rest).Ended := by
  have hl₀ : t.LeadsTo k n.store.connection t₀ := by
    refine (hl t₀ ht₀).resolve_left fun hcommon => ?_
    rw [(Task.plain_of_isCommon hcommon).1] at hv
    cases hv
  obtain ⟨he, hclosed⟩ := hl₀.closed_of_isVerdict hv
  refine ⟨hclosed, fun t' ht' => (List.mem_append.1 ht').elim (fun ht' => ?_) (hc he t')⟩
  exact Task.isClosing_eq_false_of_ends (hl t' ht') he

/-- A task either tells nothing of the end, or closes the connection for good. -/
theorem Undecided.task (h : σ.Undecided told) (hp : σ.IsProper) {t : Task} {rest : List Task}
    {n : Next} (ht : σ.tasks = t :: rest) (hn : t.run σ.store = some n) :
    (proceed n σ.log rest).Undecided told ∨ (proceed n σ.log rest).Ended := by
  have hmem : t ∈ σ.tasks := by rw [ht]; exact List.mem_cons_self
  obtain ⟨hnotices, horder, hcalm⟩ := h.below ht (map_plain_below n rest)
  have hlog : verdicts (n.log.reverse ++ σ.log) = told := by
    rw [verdicts_append, verdicts_reverse, Task.run_verdicts (hp t hmem) (h.notices t hmem) hn, h.log]
    rfl
  rcases Task.run_leadsTo_or_ends hn with hl | ⟨he, hc⟩
  · by_cases hverdict : ∃ t' ∈ n.tasks, t'.isVerdict = true
    · obtain ⟨t', ht', hv⟩ := hverdict
      exact .inr (ended_of_isVerdict hl hcalm ht' hv)
    · refine .inl ⟨hlog, fun t' ht' => ?_, .of_leadsTo hl horder hcalm⟩
      refine (List.mem_append.1 ht').elim (fun ht' => ?_) (hnotices t')
      exact Bool.not_eq_true _ ▸ fun hv => hverdict ⟨t', ht', hv⟩
  · -- a close that was put off is done before the next frame
    obtain ⟨above, p, hn, habove⟩ := hc.exists_tasks_eq
    have htasks : (proceed n σ.log rest).tasks =
        above ++ .handled none p none :: Session.below n rest := by
      rw [proceed_tasks, hn, List.append_assoc]
      rfl
    refine .inl ⟨hlog, ?_, ?_⟩
    · rw [htasks, List.forall_mem_append, List.forall_mem_cons]
      exact ⟨fun t' ht' => (habove t' ht').1, rfl, hnotices⟩
    · rw [htasks]
      refine .append (fun t' ht' => (habove t' ht').2) (endsLast_of_not_isClosing ?_)
      rw [List.forall_mem_cons]
      exact ⟨rfl, hcalm he⟩

theorem Undecided.stepBy (hu : u.IsPassive) (h : σ.Undecided told) (hp : σ.IsProper)
    (hs : σ.stepBy u = some τ) : τ.Undecided told ∨ τ.Ended := by
  obtain ⟨t, rest, n, ht, hn, rfl⟩ | ⟨cb, r, rest, ht, rfl⟩ := hu.step hs
  · exact h.task hp ht hn
  · obtain ⟨hnotices, horder, -⟩ := h.below ht (map_plain_answerWith cb r rest)
    exact .inl ⟨h.log, hnotices, horder⟩

/-- A call tells nothing of an end, or leaves the connection closed. -/
theorem Undecided.returns (hu : u.IsPassive) {n : Nat} {υ : Session} (hr : Returns u base σ n υ)
    (hk : σ.Kept) (h : σ.Undecided told ∨ σ.Ended) : verdicts υ.log = told ∨ υ.state = .closed := by
  induction hr with
  | @answered σ n log ht hl =>
    refine h.imp (fun h => ?_) (·.closed)
    have hlog := h.log
    rw [hl] at hlog
    exact hlog
  | step ht hs _ ih =>
    refine ih (hk.stepBy hs) ?_
    rcases h with h | h
    · exact h.stepBy hu hk.isProper hs
    · exact .inr (h.step hk.isProper (.stepBy hs))

/-- User code that calls nothing learns nothing of an end from a call that leaves the connection
open. -/
theorem Parses.verdicts_eq (hu : u.IsPassive) (hk : σ.Kept) (ht : σ.tasks = []) {buffer : Bytes}
    {n : Nat} {υ : Session} (h : Parses u σ buffer n υ) (ho : υ.state ≠ .closed) :
    verdicts υ.log = verdicts σ.log := by
  obtain ⟨τ, hc, hr⟩ := h
  refine (Undecided.returns hu hr (hk.call hc (by simp)) (.inl ?_)).resolve_right ho
  obtain ⟨-, -, rfl⟩ := call?_eq_some_iff.1 hc
  have htasks : (proceed (Call.run (.parse buffer) σ.store) σ.log σ.tasks).tasks =
      [.parse buffer 0] := by
    rw [ht]
    rfl
  refine ⟨rfl, ?_, ?_⟩
  · rw [htasks]
    simp [Task.isVerdict]
  · rw [htasks]
    exact List.pairwise_singleton ..

end Session

end AmqpSession
