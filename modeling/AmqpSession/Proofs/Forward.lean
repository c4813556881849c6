/-
The life of a connection. Its state moves forward with every step but one: a close under way waits
for its confirmation even if the connection was closed while the close went out (`overtaken`). Where
this does not happen, closed is final, and user code never learns that the connection is
established after it learned that it is closed.
-/
import AmqpSession.Proofs.Step

namespace AmqpSession

open Wire

/-! ## The order of states -/

theorem ConnectionState.rank_le_closed (s : ConnectionState) :
    s.rank ≤ ConnectionState.closed.rank := by
  cases s <;> decide

theorem ConnectionState.eq_closed {s : ConnectionState} (h : ConnectionState.closed.rank ≤ s.rank) :
    s = .closed := by
  cases s <;> first | rfl | exact absurd h (by decide)

theorem Connection.Move.rank_le {t : Option Task} {k k' : Connection} {es : List Event}
    (h : Connection.Move t k es k') (ht : t ≠ some .awaitCloseOk) : k.state.rank ≤ k'.state.rank := by
  cases h with
  | answerOffer hs => rw [hs]; exact Nat.zero_le _
  | awaitCloseOk he => exact absurd he ht
  | shut => exact ConnectionState.rank_le_closed _
  | destroyed => exact ConnectionState.rank_le_closed _
  | _ => exact Nat.le_refl _

theorem Connection.Moves.rank_le {t : Option Task} {k k' : Connection} {es : List Event}
    (h : Connection.Moves t k es k') (ht : t ≠ some .awaitCloseOk) :
    k.state.rank ≤ k'.state.rank := by
  induction h with
  | refl => exact Nat.le_refl _
  | tail _ hm ih => exact Nat.le_trans ih (hm.rank_le ht)

namespace Session

/-- How far the connection has come. -/
def state (σ : Session) : ConnectionState := σ.store.connection.state

/-- A close went out, and the connection was closed before that was done. -/
def overtaken (σ : Session) : Bool :=
  match σ.tasks with
  | .awaitCloseOk :: _ => σ.store.connection.alive && σ.state = .closed
  | _ => false

/-- What the end of a close does to the state. -/
theorem Step.state_of_awaitCloseOk {σ τ : Session} {rest : List Task} (h : Step σ τ)
    (ht : σ.tasks = .awaitCloseOk :: rest) :
    τ = { σ with tasks := rest } ∧ σ.store.connection.alive = false ∨
      τ = { σ with store := σ.store.setState .closing, tasks := rest } ∧
        σ.store.connection.alive = true := by
  obtain ⟨n, hn, rfl⟩ := h.eq_proceed ht (by simp)
  cases hn
  cases ha : σ.store.connection.alive with
  | false => exact .inl ⟨rfl, rfl⟩
  | true => exact .inr ⟨rfl, rfl⟩

/-- Only an overtaken close moves the state back. -/
theorem Step.rank_le_iff {σ τ : Session} (hσ : σ.Reachable) (h : Step σ τ) :
    σ.state.rank ≤ τ.state.rank ↔ σ.overtaken = false := by
  by_cases ht : ∃ rest, σ.tasks = .awaitCloseOk :: rest
  · obtain ⟨rest, ht⟩ := ht
    obtain ⟨rfl, ha⟩ | ⟨rfl, ha⟩ := h.state_of_awaitCloseOk ht
    · simp [overtaken, ht, ha, state]
    · have hr : σ.state.rank ≤ ConnectionState.closing.rank ↔ σ.state ≠ .closed := by
        cases σ.state <;> decide
      rw [show (Session.mk (σ.store.setState .closing) rest σ.log).state = .closing from rfl, hr]
      simp [overtaken, ht, ha]
  · have ho : σ.overtaken = false := by
      unfold overtaken
      split
      · rename_i rest hrest
        exact absurd ⟨rest, hrest⟩ ht
      · rfl
    -- every other change keeps to the order
    refine iff_of_true ?_ ho
    rcases h.cases hσ.isProper with ⟨es, old, new, rest, rest', w⟩ | hc
    · exact w.moves.rank_le fun he => ht ((List.head?_eq_some_iff.1 he))
    · have hr : ConnectionState.negotiatingTuning.rank ≤ ConnectionState.connected.rank := by decide
      rw [state, state, hc.connection, hc.tuning]
      exact hr

/-! ## The order of notices -/

/-- User code did not learn that the connection is established after it learned that it is
closed. -/
def ConnectsFirst (log : List Event) : Prop :=
  ∀ later earlier, log = later ++ .started .connected :: earlier → .started .closed ∉ earlier

theorem ConnectsFirst.append {es log : List Event} (h : ConnectsFirst log)
    (he : .started .connected ∉ es) : ConnectsFirst (es ++ log) := by
  intro later earlier hl
  rcases List.append_eq_append_iff.1 hl with ⟨later', rfl, hl'⟩ | ⟨es', rfl, hl'⟩
  · exact h later' earlier hl'
  · cases es' with
    | nil => exact h [] earlier hl'.symm
    | cons e es' =>
      rw [List.cons_append] at hl'
      cases hl'
      simp at he

/-- What a run keeps in order as long as no close is overtaken. -/
structure InOrder (σ : Session) : Prop where
  closed : .started .closed ∈ σ.log ∨ .notify .closed ∈ σ.tasks ∨ .notifyAlive .closed ∈ σ.tasks →
    σ.state = .closed
  established : .announce ∈ σ.tasks → ConnectionState.connected.rank ≤ σ.state.rank
  /-- The connection is announced at once, or right after its close went out. -/
  announced : ∀ above below, σ.tasks = above ++ .announce :: below →
    (above = [] ∧ (σ.store.connection.alive = true → σ.state ≠ .closed)) ∨
      ∃ above' t, above = above' ++ [t] ∧ (t = .sendClose ∨ t = .awaitCloseOk)
  connects : ConnectsFirst σ.log

end Session

/-! ## Who tells user code -/

theorem Task.eq_announce {t : Option Task} (h : (Event.started .connected).isNoteOf t = true) :
    t = some .announce := by
  cases t with
  | none => cases h
  | some t => cases t <;> first | rfl | cases h

theorem Task.eq_notify_closed {t : Option Task} (h : (Event.started .closed).isNoteOf t = true) :
    t = some (.notify .closed) ∨ t = some (.notifyAlive .closed) := by
  cases t with
  | none => cases h
  | some t =>
    cases t with
    | notify cb => cases cb <;> first | exact .inl rfl | cases h
    | notifyAlive cb => cases cb <;> first | exact .inr rfl | cases h
    | _ => cases h

namespace Session

/-! ## One step in order -/

theorem InOrder.closed_step {σ τ : Session} (hσ : σ.Reachable) (hi : σ.InOrder)
    (ho : σ.overtaken = false) (h : Step σ τ)
    (hc : .started .closed ∈ τ.log ∨ .notify .closed ∈ τ.tasks ∨ .notifyAlive .closed ∈ τ.tasks) :
    τ.state = .closed := by
  -- closed is final here, so it is enough that it was closed before or became so in this step
  have final : σ.state = .closed → τ.state = .closed := by
    intro hs
    have hr := (h.rank_le_iff hσ).2 ho
    rw [hs] at hr
    exact ConnectionState.eq_closed hr
  rcases h.cases hσ.isProper with ⟨es, old, new, rest, rest', w⟩ | hcompl
  · have pending : ∀ t, t = .notify .closed ∨ t = .notifyAlive .closed → t ∈ τ.tasks →
        τ.state = .closed := by
      intro t ht hm
      rcases w.mem_of_isFixed (by rcases ht with rfl | rfl <;> rfl) hm with hn | hm
      · obtain hcommon | ⟨t₀, -, hl⟩ | ⟨-, hl⟩ := w.tasks t hn
        · rcases ht with rfl | rfl <;> cases hcommon
        · obtain ⟨hs, -⟩ | ⟨c, hcb⟩ := hl.notice ht
          · exact hs
          · cases hcb
        · exact (hl.notice ht).1
      · refine final (hi.closed (.inr ?_))
        rcases ht with rfl | rfl
        · exact .inl hm
        · exact .inr hm
    rcases hc with hc | hc | hc
    · rw [w.log] at hc
      rcases List.mem_append.1 hc with hc | hc
      · have hn := w.moves.isNoteOf (by simp) (List.mem_reverse.1 hc)
        refine final (hi.closed (.inr ?_))
        exact (Task.eq_notify_closed hn).imp List.mem_of_mem_head? List.mem_of_mem_head?
      · exact final (hi.closed (.inl hc))
    · exact pending _ (.inl rfl) hc
    · exact pending _ (.inr rfl) hc
  · -- negotiation is under way, so none of these was there before, and none is new
    refine absurd ?_ (show σ.state ≠ .closed by rw [state, hcompl.tuning]; simp)
    obtain ⟨f, hf⟩ := hcompl.log
    have pending : ∀ t, t = .notify .closed ∨ t = .notifyAlive .closed → t ∈ τ.tasks → t ∈ σ.tasks := by
      intro t ht hm
      have hn := hcompl.mem_of_isFixed (by rcases ht with rfl | rfl <;> rfl) hm
      rcases ht with rfl | rfl <;> simpa using hn
    rw [hf] at hc
    refine hi.closed (hc.imp ?_ (.imp (pending _ (.inl rfl)) (pending _ (.inr rfl))))
    intro hl
    simpa using hl

theorem announce_notMem {σ τ : Session} {es : List Event} {old new rest rest' : List Task}
    (w : Works σ τ es old new rest rest') : .announce ∉ new := by
  intro hm
  obtain hcommon | ⟨t₀, -, hl⟩ | ⟨-, hl⟩ := w.tasks _ hm
  · cases hcommon
  · unfold Task.LeadsTo at hl
    split at hl <;> simp [Connection.TearsDown, Connection.Closes, Connection.Reports, Connection.Receives] at hl
  · simp [Connection.CallLeadsTo, Connection.TearsDown, Connection.Closes] at hl

theorem InOrder.established_step {σ τ : Session} (hσ : σ.Reachable) (hi : σ.InOrder)
    (ho : σ.overtaken = false) (h : Step σ τ) (ha : .announce ∈ τ.tasks) :
    ConnectionState.connected.rank ≤ τ.state.rank := by
  rcases h.cases hσ.isProper with ⟨es, old, new, rest, rest', w⟩ | hc
  · rcases w.mem_of_isFixed rfl ha with hn | hm
    · exact absurd hn (announce_notMem w)
    · exact Nat.le_trans (hi.established hm) ((h.rank_le_iff hσ).2 ho)
  · have hs : τ.state = .connected := by rw [state, hc.connection]
    exact Nat.le_of_eq (by rw [hs])

/-- The close that goes before the announcement, also after an answer. -/
theorem endsInClose_of_map_plain {above above' : List Task}
    (h : above'.map Task.plain = above.map Task.plain)
    (he : ∃ tasks t, above = tasks ++ [t] ∧ (t = .sendClose ∨ t = .awaitCloseOk)) :
    ∃ tasks t, above' = tasks ++ [t] ∧ (t = .sendClose ∨ t = .awaitCloseOk) := by
  obtain ⟨tasks, t, rfl, ht⟩ := he
  rw [List.map_append, List.map_singleton] at h
  obtain ⟨tasks', last, rfl, -, hlast⟩ := List.map_eq_append_iff.1 h
  obtain ⟨t', last', rfl, he, hnil⟩ := List.map_eq_cons_iff.1 hlast
  rw [List.map_eq_nil_iff.1 hnil]
  have hsame : t' = t := by
    rcases ht with rfl | rfl <;> exact Task.eq_of_plain_eq he rfl
  exact ⟨tasks', t', rfl, hsame ▸ ht⟩

/-- What is above the announcement when the work right above it is done. -/
theorem announced_of_close {σ τ : Session} {es : List Event} {t : Task} {new rest rest' : List Task}
    (w : Works σ τ es [t] new rest rest') (ht : t = .sendClose ∨ t = .awaitCloseOk) :
    (new = [] ∧ (τ.store.connection.alive = true → τ.state ≠ .closed)) ∨
      ∃ tasks t', new = tasks ++ [t'] ∧ (t' = .sendClose ∨ t' = .awaitCloseOk) := by
  obtain ⟨n, hn, rfl, hs⟩ := w.ran t rfl (by rcases ht with rfl | rfl <;> simp)
  rw [state, hs]
  rcases ht with rfl | rfl <;> cases hn <;> split
  · exact .inr ⟨_, _, rfl, .inr rfl⟩
  · rename_i ha
    exact .inl ⟨rfl, fun ha' => absurd ha' ha⟩
  · exact .inl ⟨rfl, fun _ => by simp [Next.only]⟩
  · rename_i ha
    exact .inl ⟨rfl, fun ha' => absurd ha' ha⟩

/-- A task replaces itself only, so what is above the announcement stays there but for the first. -/
theorem InOrder.announced_of_works {σ τ : Session} {es : List Event}
    {old new rest rest' above below : List Task} (hi : σ.InOrder)
    (w : Works σ τ es old new rest rest') (hτ : τ.tasks = above ++ .announce :: below) :
    (above = [] ∧ (τ.store.connection.alive = true → τ.state ≠ .closed)) ∨
      ∃ above' t, above = above' ++ [t] ∧ (t = .sendClose ∨ t = .awaitCloseOk) := by
  obtain ⟨above', rfl, hr⟩ : ∃ above', above = new ++ above' ∧ rest' = above' ++ .announce :: below := by
    rw [w.after] at hτ
    rcases List.append_eq_append_iff.1 hτ with ⟨above', ha, hr⟩ | ⟨tasks, hn, hr⟩
    · exact ⟨above', ha, hr⟩
    · cases tasks with
      | nil => exact ⟨[], by simpa using hn.symm, hr.symm⟩
      | cons t tasks =>
        cases hr
        exact absurd (by rw [hn]; simp) (announce_notMem w)
  obtain ⟨q, tasks, hrest, hq, htasks⟩ :=
    List.map_eq_append_iff.1 (w.kept.symm.trans (by rw [hr, List.map_append]))
  obtain ⟨t, post, rfl, ht, -⟩ := List.map_eq_cons_iff.1 htasks
  rw [Task.eq_of_plain_eq ht rfl] at hrest
  rcases hi.announced (old ++ q) post (by rw [w.before, hrest, List.append_assoc]) with
    ⟨hnil, -⟩ | ⟨tasks, t, hends, ht⟩
  · -- the announcement is no call's to overtake
    obtain ⟨rfl, rfl⟩ := List.append_eq_nil_iff.1 hnil
    rcases w.one with ⟨-, hidle⟩ | ⟨t, ht⟩
    · rw [isIdle, w.before, hrest] at hidle
      cases hidle
    · cases ht
  · rcases List.eq_nil_or_concat q with rfl | ⟨q', last, rfl⟩
    · -- the close is what ran
      rw [List.map_nil, eq_comm, List.map_eq_nil_iff] at hq
      rw [hq, List.append_nil]
      rw [List.append_nil] at hends
      rcases w.one with ⟨rfl, -⟩ | ⟨t', rfl⟩
      · simp at hends
      · cases tasks with
        | nil =>
          cases hends
          exact announced_of_close w ht
        | cons t'' tasks => simp at hends
    · -- the close waits
      right
      rw [List.concat_eq_append, ← List.append_assoc] at hends
      obtain ⟨-, hlast⟩ := List.append_inj' hends rfl
      rw [List.singleton_inj.1 hlast] at hq
      obtain ⟨tasks', t', rfl, ht'⟩ :=
        endsInClose_of_map_plain hq.symm ⟨q', t, List.concat_eq_append, ht⟩
      exact ⟨new ++ tasks', t', (List.append_assoc _ _ _).symm, ht'⟩

/-- There is one announcement, so the new one is the only one. -/
theorem InOrder.announced_of_completes {σ τ : Session} {above below : List Task} (hi : σ.InOrder)
    (hc : Completes σ τ) (hτ : τ.tasks = above ++ .announce :: below) :
    (above = [] ∧ (τ.store.connection.alive = true → τ.state ≠ .closed)) ∨
      ∃ above' t, above = above' ++ [t] ∧ (t = .sendClose ∨ t = .awaitCloseOk) := by
  obtain ⟨t, rest, rest', p, hrest, hk, hcases⟩ := hc.tasks
  have hnot : .announce ∉ rest' := by
    intro hm
    have hm' := mem_of_map_plain_eq hk rfl hm
    have hr := hi.established (by rw [hrest]; exact List.mem_cons_of_mem _ hm')
    rw [state, hc.tuning] at hr
    exact absurd hr (by decide)
  have hs : τ.state = .connected := by rw [state, hc.connection]
  rcases hcases with ht | ⟨es, ht⟩
  · rw [ht] at hτ
    rcases above with _ | ⟨t₁, _ | ⟨t₂, above⟩⟩
    · exact .inl ⟨rfl, fun _ => by rw [hs]; simp⟩
    · cases hτ
    · cases hτ
      simp at hnot
  · rw [ht] at hτ
    rcases above with _ | ⟨t₁, _ | ⟨t₂, _ | ⟨t₃, _ | ⟨t₄, above⟩⟩⟩⟩
    · cases hτ
    · cases hτ
    · cases hτ
      exact .inr ⟨[.closeEach es], .sendClose, rfl, .inl rfl⟩
    · cases hτ
    · cases hτ
      simp at hnot

theorem InOrder.announced_step {σ τ : Session} (hσ : σ.Reachable) (hi : σ.InOrder) (h : Step σ τ)
    {above below : List Task} (hτ : τ.tasks = above ++ .announce :: below) :
    (above = [] ∧ (τ.store.connection.alive = true → τ.state ≠ .closed)) ∨
      ∃ above' t, above = above' ++ [t] ∧ (t = .sendClose ∨ t = .awaitCloseOk) := by
  rcases h.cases hσ.isProper with ⟨es, old, new, rest, rest', w⟩ | hc
  · exact hi.announced_of_works w hτ
  · exact hi.announced_of_completes hc hτ

theorem InOrder.connects_step {σ τ : Session} (hσ : σ.Reachable) (hi : σ.InOrder) (h : Step σ τ) :
    ConnectsFirst τ.log := by
  rcases h.cases hσ.isProper with ⟨es, old, new, rest, rest', w⟩ | hc
  · by_cases hm : .started .connected ∈ es
    · -- the announcement is next, so no close was overtaken and user code knows of no end
      obtain ⟨rest, ht⟩ := List.head?_eq_some_iff.1 (Task.eq_announce (w.moves.isNoteOf (by simp) hm))
      obtain ⟨n, hn, rfl⟩ := h.eq_proceed ht (by simp)
      cases hn
      rcases hi.announced [] rest ht with ⟨-, ha⟩ | ⟨tasks, t, ht, -⟩
      · show ConnectsFirst ((if σ.store.connection.alive then _ else _ : Next).log.reverse ++ σ.log)
        split
        · rename_i halive
          intro later earlier hl hclosed
          rcases List.cons_eq_append_iff.1 hl with ⟨-, he⟩ | ⟨later', -, he⟩
          · cases he
            exact ha halive (hi.closed (.inl hclosed))
          · exact hi.connects later' earlier he hclosed
        · exact hi.connects
      · simp at ht
    · rw [w.log]
      exact hi.connects.append (by simpa using hm)
  · obtain ⟨f, hf⟩ := hc.log
    rw [hf, ← List.singleton_append]
    exact hi.connects.append (by simp)

theorem InOrder.step {σ τ : Session} (hσ : σ.Reachable) (hi : σ.InOrder) (ho : σ.overtaken = false)
    (h : Step σ τ) : τ.InOrder where
  closed := hi.closed_step hσ ho h
  established := hi.established_step hσ ho h
  announced _ _ := hi.announced_step hσ h
  connects := hi.connects_step hσ h

/-! ## Whole runs -/

theorem inOrder_connect (o : Options) : (connect o).InOrder := by
  have hmoves := (connect_works o).1
  have hnot : ∀ t ∈ [Task.announce, .notify .closed, .notifyAlive .closed], t ∉ (connect o).tasks := by
    intro t ht hm
    refine connect_tasks o (p := (· ∉ [Task.announce, .notify .closed, .notifyAlive .closed])) ?_
      (by simp) (by simp) t hm ht
    intro t hc ht
    simp only [List.mem_cons, List.not_mem_nil, or_false] at ht
    rcases ht with rfl | rfl | rfl <;> cases hc
  have hquiet : ∀ cb, (∀ octets, cb ≠ .data octets) → .started cb ∈ (connect o).log →
      (Event.started cb).isNoteOf none = true :=
    fun cb hcb hm => hmoves.isNoteOf hcb (List.mem_reverse.2 hm)
  refine ⟨?_, fun hm => absurd hm (hnot _ (by simp)), ?_, ?_⟩
  · rintro (hm | hm | hm)
    · cases hquiet .closed (by simp) hm
    · exact absurd hm (hnot _ (by simp))
    · exact absurd hm (hnot _ (by simp))
  · intro above below ht
    exact absurd (by rw [ht]; simp) (hnot .announce (by simp))
  · rw [← List.append_nil (connect o).log]
    refine ConnectsFirst.append (by simp [ConnectsFirst]) fun hm => ?_
    cases hquiet .connected (by simp) hm

theorem inOrder_of_run {σ : Session} {run : List Session} (hσ : σ.Reachable) (hi : σ.InOrder)
    (h : (σ :: run).IsChain Step) (ho : ∀ υ ∈ (σ :: run).dropLast, υ.overtaken = false) :
    (σ :: run).Pairwise (fun σ τ => σ.state.rank ≤ τ.state.rank) ∧ ∀ υ ∈ σ :: run, υ.InOrder := by
  induction run generalizing σ with
  | nil => simpa using hi
  | cons τ run ih =>
    rw [List.isChain_cons_cons] at h
    rw [List.dropLast_cons_cons] at ho
    have hoσ : σ.overtaken = false := ho σ List.mem_cons_self
    obtain ⟨hp, hall⟩ := ih (hσ.step h.1) (hi.step hσ hoσ h.1) h.2
      fun υ hυ => ho υ (List.mem_cons_of_mem _ hυ)
    have hle := (h.1.rank_le_iff hσ).2 hoσ
    refine ⟨List.pairwise_cons.2 ⟨?_, hp⟩, ?_⟩
    · intro υ hυ
      rcases List.mem_cons.1 hυ with rfl | hυ
      · exact hle
      · exact Nat.le_trans hle ((List.pairwise_cons.1 hp).1 υ hυ)
    · intro υ hυ
      rcases List.mem_cons.1 hυ with rfl | hυ
      · exact hi
      · exact hall υ hυ

theorem not_overtaken_of_pairwise {σ : Session} {run : List Session} (hσ : σ.Reachable)
    (h : (σ :: run).IsChain Step)
    (hp : (σ :: run).Pairwise (fun σ τ => σ.state.rank ≤ τ.state.rank)) :
    ∀ υ ∈ (σ :: run).dropLast, υ.overtaken = false := by
  induction run generalizing σ with
  | nil => simp
  | cons τ run ih =>
    rw [List.isChain_cons_cons] at h
    rw [List.pairwise_cons] at hp
    intro υ hυ
    rw [List.dropLast_cons_cons] at hυ
    rcases List.mem_cons.1 hυ with rfl | hυ
    · exact (h.1.rank_le_iff hσ).1 (hp.1 τ List.mem_cons_self)
    · exact ih (hσ.step h.1) h.2 hp.2 υ hυ

/-- A run keeps to the order of the states, and tells user code of the beginning before the end,
exactly if none of its steps takes up a close on a connection that was closed in the meantime. -/
theorem run_forward_iff {o : Options} {run : List Session} (h : (connect o :: run).IsChain Step) :
    ((connect o :: run).Pairwise (fun σ τ => σ.state.rank ≤ τ.state.rank) ∧
      ∀ σ ∈ connect o :: run, ConnectsFirst σ.log) ↔
    ∀ σ ∈ (connect o :: run).dropLast, σ.overtaken = false := by
  have hσ : (connect o).Reachable := ⟨o, .refl⟩
  constructor
  · rintro ⟨hp, -⟩
    exact not_overtaken_of_pairwise hσ h hp
  · intro ho
    obtain ⟨hp, hall⟩ := inOrder_of_run hσ (inOrder_connect o) h ho
    exact ⟨hp, fun σ hm => (hall σ hm).connects⟩

/-- Nothing is overtaken while a connection is established and closed with passive user code. -/
theorem run_forward_established :
    ∃ run : List Session, (connect .standard :: run).IsChain Step ∧
      (∃ σ ∈ run, σ.state = .closing) ∧
      (connect .standard :: run).Pairwise (fun σ τ => σ.state.rank ≤ τ.state.rank) := by
  have hchain := isChain_visits (connect .standard)
    (establish ++ [some (.call .close)] ++ pass 2 ++ [none, none, none])
  exact ⟨_, hchain, by decide +kernel, ((run_forward_iff hchain).2 (by decide +kernel)).1⟩

/-- The end and the beginning as user code was told of them, the latest first. -/
def milestones (log : List Event) : List Callback :=
  log.filterMap fun
    | .started .connected => some .connected
    | .started .closed => some .closed
    | _ => none

/-- A close asked for during negotiation goes out once the server accepts. If its transport fails
then, the connection is closed, and is taken for closing and established afterwards. -/
theorem closed_not_final :
    ∃ σ τ : Session, σ.Reachable ∧ σ.state = .closed ∧ Reaches σ τ ∧ τ.state = .closing ∧
      milestones τ.log = [.connected, .closed] := by
  obtain ⟨σ, hσ, hclosed⟩ := exists_reaches_of_play
    (greeted ++ [some (.call .close), none, none, some (.call (.parse serverHandshake))] ++
      pass 1 ++ pass 2 ++ pass 2 ++ pass 1 ++
      [none, none, none, none, some (.call .transportClosed)]) (connect .standard)
    (fun σ => (σ.state, (σ.play (pass 2 ++ pass 2 ++ [none, none])).map
      fun τ => (τ.state, milestones τ.log)))
    (a := (.closed, some (.closing, [.connected, .closed]))) (by decide +kernel)
  obtain ⟨hs, hlater⟩ := Prod.mk.inj hclosed
  obtain ⟨τ, hτ, he⟩ := exists_reaches_of_play _ σ _ hlater
  obtain ⟨hs', hm⟩ := Prod.mk.inj he
  exact ⟨σ, τ, ⟨.standard, hσ⟩, hs, hτ, hs', hm⟩

end Session

end AmqpSession
