/-
In which order endpoints are cut off. The registry is cleared by a task only right before the connection
is destroyed; endpoints are cut off right before that as well, or on a connection that is closed already
(`Reachable.cutsInOrder`).
-/
import AmqpSession.Proofs.Reception

namespace AmqpSession

open Wire

/-- The task cuts endpoints off. -/
@[simp] def Task.isCutting : Task → Bool
  | .clearRegistry | .invalidateEach _ => true
  | _ => false

/-- Endpoints are cut off because nothing can be sent any more, or right before the connection is
destroyed. -/
def CutsInOrder (k : Connection) : List Task → Prop
  | [] => True
  | t :: rest => (t = .clearRegistry → rest.head? = some .destroyed) ∧
      (∀ es, t = .invalidateEach es → rest.head? = some .destroyed ∨ ¬ k.isOpen) ∧ CutsInOrder k rest

/-! ## Frames can only stop going out -/

theorem Connection.Move.isOpen {t : Option Task} {k k' : Connection} {es : List Event}
    (h : Move t k es k') (ho : k'.isOpen) : k.isOpen := by
  cases h with
  | answerOffer hs => rw [Connection.isOpen, hs]; exact ⟨by decide, by decide⟩
  | awaitCloseOk => exact absurd rfl ho.1
  | shut | destroyed => exact absurd rfl ho.2
  | _ => exact ho

theorem Connection.Moves.isOpen {t : Option Task} {k k' : Connection} {es : List Event}
    (h : Moves t k es k') (ho : k'.isOpen) : k.isOpen := by
  induction h with
  | refl => exact ho
  | tail _ hm ih => exact ih (hm.isOpen ho)

theorem Session.Step.isOpen {σ τ : Session} (h : Session.Step σ τ) (hσ : σ.Reachable)
    (ho : τ.store.connection.isOpen) : σ.store.connection.isOpen := by
  rcases h.cases hσ.isProper with ⟨es, old, new, rest, rest', hw⟩ | hc
  · exact hw.moves.isOpen ho
  · rw [Connection.isOpen, hc.tuning]
    exact ⟨by decide, by decide⟩

namespace CutsInOrder

variable {k k' : Connection} {tasks tasks' : List Task}

theorem append (h : CutsInOrder k tasks) (h' : CutsInOrder k tasks') :
    CutsInOrder k (tasks ++ tasks') := by
  have head : ∀ {l : List Task}, l.head? = some .destroyed → (l ++ tasks').head? = some .destroyed := by
    intro l hl
    rw [List.head?_append, hl]
    rfl
  induction tasks with
  | nil => exact h'
  | cons t tasks ih =>
    exact ⟨fun ht => head (h.1 ht), fun es ht => (h.2.1 es ht).imp head id, ih h.2.2⟩

theorem of_forall (h : ∀ t ∈ tasks, t.isCutting = false) : CutsInOrder k tasks := by
  induction tasks with
  | nil => trivial
  | cons t tasks ih =>
    obtain ⟨ht, hrest⟩ := List.forall_mem_cons.1 h
    refine ⟨?_, ?_, ih hrest⟩
    · rintro rfl
      cases ht
    · rintro es rfl
      cases ht

/-- What is cut off on a connection that is closed may come in any place. -/
theorem of_closed (hk : k.state = .closed) (h : ∀ t ∈ tasks, t ≠ .clearRegistry) :
    CutsInOrder k tasks := by
  induction tasks with
  | nil => trivial
  | cons t tasks ih =>
    obtain ⟨ht, hrest⟩ := List.forall_mem_cons.1 h
    exact ⟨fun he => absurd he ht, fun _ _ => .inr fun ho => ho.2 hk, ih hrest⟩

theorem of_forall_or (h : ∀ t ∈ tasks, t.isCutting = false ∨ (k.state = .closed ∧ t ≠ .clearRegistry)) :
    CutsInOrder k tasks := by
  by_cases hk : k.state = .closed
  · refine of_closed hk fun t ht => ?_
    rcases h t ht with h | h
    · rintro rfl
      cases h
    · exact h.2
  · exact of_forall fun t ht => (h t ht).resolve_right fun h => hk h.1

theorem mono (h : CutsInOrder k tasks) (hk : k'.isOpen → k.isOpen) : CutsInOrder k' tasks := by
  induction tasks with
  | nil => trivial
  | cons t tasks ih => exact ⟨h.1, fun es ht => (h.2.1 es ht).imp id (mt hk), ih h.2.2⟩

/-- An answer changes no task that cuts off. -/
theorem of_map_plain (h : CutsInOrder k tasks)
    (hm : tasks'.map Task.plain = tasks.map Task.plain) : CutsInOrder k tasks' := by
  induction tasks generalizing tasks' with
  | nil => rw [List.map_eq_nil_iff.1 hm]; trivial
  | cons t tasks ih =>
    obtain ⟨t', rest', rfl, ht, hrest⟩ := List.map_eq_cons_iff.1 hm
    have hhead : tasks.head? = some .destroyed → rest'.head? = some .destroyed := by
      intro hd
      have hp : (rest'.map Task.plain).head? = some .destroyed := by
        rw [hrest, List.head?_map, hd]
        rfl
      obtain ⟨t₀, h₀, ht₀⟩ := Option.map_eq_some_iff.1 (List.head?_map.symm.trans hp)
      rw [h₀, Task.eq_of_plain_eq (t := .destroyed) ht₀ rfl]
    refine ⟨fun he => ?_, fun es he => ?_, ih h.2.2 hrest⟩
    · subst he
      exact hhead (h.1 (Task.eq_of_plain_eq ht.symm rfl))
    · subst he
      exact (h.2.1 es (Task.eq_of_plain_eq ht.symm rfl)).imp hhead id

end CutsInOrder

/-! ## Tasks and calls -/

open Store Connection

theorem Task.isCutting_of_isCommon {t : Task} (h : t.isCommon = true) : t.isCutting = false := by
  cases t <;> first | rfl | cases h

namespace Store

/-- A connection that is destroyed carries out its close first. -/
theorem Destroys.cutsInOrder {s : Store} {n : Next} (h : s.Destroys n) (k : Connection) :
    CutsInOrder k n.tasks := by
  have final : CutsInOrder k [.clearRegistry, .destroyed] := ⟨fun _ => rfl, nofun, .of_forall (by simp)⟩
  cases h with
  | aside => trivial
  | closing _ hn =>
    refine CutsInOrder.append (.of_forall fun t ht => ?_) final
    obtain ⟨-, rfl | ⟨es, rfl⟩⟩ := close_tasks hn t ht <;> rfl
  | closed => exact final

theorem releaseHandle_cutsInOrder (s : Store) (k : Connection) :
    CutsInOrder k s.releaseHandle.tasks :=
  match s.releaseHandle, s.releasesHandle with
  | _, .last _ => (s.destroys.cutsInOrder k).append (.of_forall (by simp))
  | _, .other _ => trivial

end Store

/-- Work other than that on the end of the connection cuts nothing off, or finds it closed. -/
theorem Task.LeadsTo.isCutting {t t' : Task} {k k' : Connection} (h : t.LeadsTo k k' t')
    (hr : t ≠ .releaseHandle) (hc : t ≠ .clearRegistry) (hi : ∀ es, t ≠ .invalidateEach es) :
    t'.isCutting = false ∨ (k'.state = .closed ∧ t' ≠ .clearRegistry) := by
  unfold LeadsTo at h
  split at h <;> grind [Reports, Receives, Task.isCutting]

namespace Session

theorem Call.run_cutsInOrder (c : Call) (s : Store) :
    CutsInOrder (c.run s).store.connection (c.run s).tasks := by
  have common : ∀ {n : Next} {k : Connection} (tasks : List Task),
      (∀ t ∈ n.tasks, t.isCommon = true) → (∀ t ∈ tasks, t.isCutting = false) →
      CutsInOrder k (n.andThen tasks).tasks := fun _ hn ht =>
    (CutsInOrder.of_forall fun t h => Task.isCutting_of_isCommon (hn t h)).append (.of_forall ht)
  cases c with
  | send f =>
    refine .of_forall fun t ht => ?_
    obtain h | ⟨_, rfl⟩ | h := tryOnConnection_tasks (s := s) .sent (fun m hm => send_common hm) t ht
    · exact Task.isCutting_of_isCommon h
    · rfl
    · exact Task.isCutting_of_isCommon h
  | close =>
    refine .of_forall fun t ht => ?_
    obtain h | ⟨_, rfl⟩ | ⟨-, rfl | ⟨es, rfl⟩⟩ :=
      tryOnConnection_tasks (s := s) .closed (fun m hm => close_tasks hm) t ht
    · exact Task.isCutting_of_isCommon h
    all_goals rfl
  | destroy => exact ((destroys _).cutsInOrder _).append (.of_forall (by simp))
  | transportClosed =>
    have ht := transportClosed_tasks s.holdHandle
    refine CutsInOrder.append ?_ (.of_forall (by simp))
    cases hs : s.holdHandle.transportClosed.tasks with
    | nil => trivial
    | cons t tasks =>
      rw [hs] at ht
      refine .of_closed (ht t List.mem_cons_self).1 fun t' ht' => ?_
      obtain ⟨-, rfl | ⟨es, rfl⟩⟩ := ht t' ht' <;> simp
  | openChannel =>
    refine CutsInOrder.append (.of_forall fun t ht => ?_) (.of_forall (by simp))
    rcases openChannel_tasks _ t ht with h | rfl
    · exact Task.isCutting_of_isCommon h
    · rfl
  | sendOn c body =>
    refine common _ ?_ (by simp)
    split
    · rename_i n h; exact sendOn_common h
    · simp [Next.only]
  | closeChannel c => exact common _ (closeChannel_common _ c) (by simp)
  | dropChannel c => exact common _ (whenLost_common _ _) (by simp)
  | parse | register | unregister | cloneHandle | dropHandle | cloneChannel | newEndpoint
    | setEndpointId | dropEndpoint => exact .of_forall (by simp [Call.run, Next.follow])

/-- A task leaves what it cuts off in order, whatever waits below it. -/
theorem proceed_cutsInOrder {s : Store} {t : Task} {n : Next} {rest : List Task}
    (h : CutsInOrder s.connection (t :: rest)) (hn : t.run s = some n)
    (ho : n.store.connection.isOpen → s.connection.isOpen) (log : List Event) :
    CutsInOrder n.store.connection (proceed n log rest).tasks := by
  have hbelow : CutsInOrder n.store.connection (below n rest) :=
    (h.2.2.mono ho).of_map_plain (map_plain_below n rest)
  rw [proceed_tasks]
  cases t with
  | releaseHandle => cases hn; exact (releaseHandle_cutsInOrder s _).append hbelow
  | clearRegistry => cases hn; exact ⟨nofun, fun _ _ => .inl (h.1 rfl), hbelow⟩
  | invalidateEach es =>
    cases es with
    | nil => cases hn; exact hbelow
    | cons e es =>
      cases hn
      have hnext : CutsInOrder (s.invalidateEndpoint e).store.connection
          (.release e :: .invalidateEach es :: below (s.invalidateEndpoint e) rest) := by
        refine ⟨nofun, nofun, nofun, fun _ _ => ?_, hbelow⟩
        cases e with
        | channel | custom => exact (h.2.1 _ rfl).imp id (mt ho)
      show CutsInOrder _ (((s.invalidateEndpoint e).tasks ++ [.release e, .invalidateEach es]) ++ _)
      rw [List.append_assoc]
      exact CutsInOrder.append (.of_forall fun t ht =>
        Task.isCutting_of_isCommon (invalidateEndpoint_common s e t ht)) hnext
  | _ =>
    refine CutsInOrder.append ?_ hbelow
    obtain hl | hc := Task.run_leadsTo hn
    · refine .of_forall_or fun t' ht' => ?_
      rcases hl t' ht' with hcommon | hl
      · exact .inl (Task.isCutting_of_isCommon hcommon)
      · exact hl.isCutting nofun nofun nofun
    · obtain ⟨p, hp | ⟨es, hp⟩⟩ := hc.tasks <;> exact .of_forall (by simp [hp])

theorem Reachable.cutsInOrder {σ : Session} (h : σ.Reachable) :
    CutsInOrder σ.store.connection σ.tasks := by
  refine h.induction (P := fun σ => CutsInOrder σ.store.connection σ.tasks) ?_ fun σ τ hσ ih hs => ?_
  · intro o
    exact .of_forall (connect_tasks o (fun _ => Task.isCutting_of_isCommon) (by simp) (by simp))
  · have ho := hs.isOpen hσ
    obtain ⟨t, rest, n, ht, hn, rfl⟩ | ⟨c, -, -, rfl⟩ | ⟨cb, r, rest, ht, rfl⟩ := hs.cases_on_stack
    · rw [ht] at ih
      exact proceed_cutsInOrder ih hn ho _
    · exact (c.run_cutsInOrder σ.store).append ((ih.mono ho).of_map_plain (map_plain_below _ _))
    · rw [ht] at ih
      exact ih.2.2.of_map_plain (map_plain_answerWith cb r rest)

/-- After the registry was cleared by itself, the connection is destroyed. -/
theorem Reachable.eq_destroyed {σ : Session} (h : σ.Reachable) {rest : List Task}
    (ht : σ.tasks = .clearRegistry :: rest) : ∃ below, rest = .destroyed :: below := by
  have hd : rest.head? = some .destroyed := (ht ▸ h.cutsInOrder).1 rfl
  exact List.head?_eq_some_iff.1 hd

end Session

end AmqpSession
