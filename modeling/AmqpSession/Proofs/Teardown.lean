/-
What a closed connection leaves behind. If it was closed but not destroyed, no id is in use and every
channel is closed. A destroyed connection goes on with the work that was left, and at rest exactly
those channels are not closed, and exactly those ids in use, that no task was going to deal with
(`tidy_or_stranded`).
-/
import AmqpSession.Proofs.Destroyed

namespace AmqpSession

open Wire

/-- No id is in use, and every channel that user code holds is closed and cut off. -/
structure Store.IsTidy (s : Store) : Prop where
  free : ∀ id, s.connection.registry.get? id = none
  closed : ∀ c, (s.channel c).owned ≠ 0 → (s.channel c).state = .closed ∧ s.reaches c = false

namespace Session

/-! ## Closed, and not destroyed -/

/-- No id is in use once a connection is closed, for as long as it is not destroyed. -/
theorem Reachable.free_of_closed {σ : Session} (h : σ.Reachable)
    (ha : σ.store.connection.alive = true) (hc : σ.store.connection.state = .closed) (id : UInt16) :
    σ.store.connection.registry.get? id = none := by
  refine h.connection_induction
    (P := fun k _ => k.alive = true → k.state = .closed → ∀ id, k.registry.get? id = none)
    ?_ ?_ ?_ ha hc id
  · intro o _ hc
    cases hc
  · intro t k es k' log hk hm ha hc id
    cases hm with
    | register e id r ho hr => exact absurd hc ho.2
    -- every other change of the registry only takes entries out
    | release x e =>
      refine Option.eq_none_iff_forall_ne_some.2 fun e' he' => ?_
      have := Registry.get?_of_get?_release he'
      rw [hk ha hc] at this
      cases this
    | clear => rfl
    | tune limits =>
      refine (Registry.get?_evict _ id).trans ?_
      split
      · rfl
      · exact hk ha hc id
    | answerOffer => cases hc
    | awaitCloseOk => cases hc
    | shut => rfl
    | destroyed => cases ha
    | _ => exact hk ha hc id
  · intro k log f _ _ _ hc
    cases hc

theorem Reachable.tidy_of_alive {σ : Session} (h : σ.Reachable) (ht : σ.tasks = [])
    (ha : σ.store.connection.alive = true) (hc : σ.store.connection.state = .closed) :
    σ.store.IsTidy where
  free := h.free_of_closed ha hc
  closed c ho := by
    have htracks := h.tracks c
    rw [ht, stakes_nil, zero_add, records_eq] at htracks
    have hat : (σ.store.channel c).attached = false := by
      by_contra hat
      rw [Bool.not_eq_false] at hat
      -- attached without an id, it would be about to be cut off, and no work is left
      rcases htracks.known ha hat (by rw [Channel.HasHolder]; omega) with ⟨id, hid⟩ | hout
      · rw [Store.HasId, h.free_of_closed ha hc] at hid
        cases hid
      · exact hout rfl
    refine ⟨?_, by rw [Store.reaches, hat]; rfl⟩
    by_contra hs
    rw [htracks.attached.2 hs] at hat
    cases hat

end Session

/-! ## What is still going to be dealt with -/

open Store Next

/-- The task closes the channel, or leaves that to another one. -/
def Task.CutsOff (s : Store) (c : Nat) : Task → Prop
  | .invalidateEach es => .channel c ∈ es
  | .channelClosedByPeer d _ => d = c
  | .clearRegistry => ∃ id, s.HasId c id
  | _ => False

/-- The task takes the endpoint out of the registry. -/
def Task.TakesBack (e : EndpointRef) : Task → Prop
  | .clearRegistry => True
  | .unregister e' => e' = e
  | .channelClosedByPeer d _ => .channel d = e
  | _ => False

theorem Task.isTidying_of_cutsOff {t : Task} {s : Store} {c : Nat} (h : t.CutsOff s c) :
    t.isTidying = true := by
  cases t <;> first | rfl | cases h

theorem Task.isTidying_of_takesBack {t : Task} {e : EndpointRef} (h : t.TakesBack e) :
    t.isTidying = true := by
  cases t <;> first | rfl | cases h

theorem Task.cutsOff_iff {t : Task} {s s' : Store} {c : Nat} (h : ∀ id, s'.HasId c id ↔ s.HasId c id) :
    t.CutsOff s' c ↔ t.CutsOff s c := by
  cases t with
  | clearRegistry => exact exists_congr h
  | _ => exact Iff.rfl

namespace Session

/-- The channel is not closed, and nothing that is left to do closes it. -/
structure IsStranded (σ : Session) (c : Nat) : Prop where
  attached : (σ.store.channel c).attached = true
  spared : ∀ t ∈ σ.tasks, ¬ t.CutsOff σ.store c

/-- The endpoint has the id, and nothing that is left to do takes it back. -/
structure Keeps (σ : Session) (id : UInt16) (e : EndpointRef) : Prop where
  entry : σ.store.connection.registry.get? id = some e
  spared : ∀ t ∈ σ.tasks, ¬ t.TakesBack e

/-! ## Channels that are left -/

section Step

variable {σ τ : Session} {c : Nat} {t : Task} {rest : List Task} {n : Next}

theorem isStranded_iff (ht : σ.tasks = t :: rest) : σ.IsStranded c ↔
    (σ.store.channel c).attached = true ∧ ¬ t.CutsOff σ.store c ∧
      ∀ t' ∈ rest, ¬ t'.CutsOff σ.store c := by
  constructor
  · rintro ⟨hat, hs⟩
    exact ⟨hat, List.forall_mem_cons.1 (ht ▸ hs)⟩
  · rintro ⟨hat, hs⟩
    exact ⟨hat, by rw [ht]; exact List.forall_mem_cons.2 hs⟩

theorem isStranded_proceed_iff {log : List Event} : (proceed n log rest).IsStranded c ↔
    (n.store.channel c).attached = true ∧ (∀ t ∈ n.tasks, ¬ t.CutsOff n.store c) ∧
      ∀ t ∈ rest, ¬ t.CutsOff n.store c := by
  rw [← List.forall_mem_append]
  constructor
  · rintro ⟨hat, hs⟩
    refine ⟨hat, fun t ht hc => hs t ?_ hc⟩
    rw [mem_tidying_iff (Task.isTidying_of_cutsOff hc)]
    exact List.mem_append.1 ht
  · rintro ⟨hat, hs⟩
    refine ⟨hat, fun t ht hc => hs t ?_ hc⟩
    rw [mem_tidying_iff (Task.isTidying_of_cutsOff hc)] at ht
    exact List.mem_append.2 ht

/-- Nothing changes for a channel that keeps its ids and is left alone by a task. -/
theorem isStranded_iff_of_keeps (ht : σ.tasks = t :: rest) {log : List Event}
    (hk : σ.store.Keeps c n.store) (hc : (∀ t ∈ n.tasks, ¬ t.CutsOff n.store c) ↔ ¬ t.CutsOff σ.store c) :
    σ.IsStranded c ↔ (proceed n log rest).IsStranded c := by
  rw [isStranded_iff ht, isStranded_proceed_iff, hk.attached, hc]
  refine and_congr_right fun _ => and_congr_right fun _ => forall₂_congr fun t _ => not_congr ?_
  exact (Task.cutsOff_iff hk.ids).symm

/-- A task that closes the channel, and does so now. -/
theorem isStranded_iff_of_cut (ht : σ.tasks = t :: rest) {log : List Event}
    (hcut : t.CutsOff σ.store c) (hat : (n.store.channel c).attached = false) :
    σ.IsStranded c ↔ (proceed n log rest).IsStranded c := by
  rw [isStranded_iff ht, isStranded_proceed_iff, hat]
  exact ⟨fun h => absurd hcut h.2.1, fun h => by cases h.1⟩

theorem attached_detach (s : Store) (c : Nat) : ((s.detach c).channel c).attached = false := by
  rw [channel_detach]
  rfl

theorem hasHolder_detach {s : Store} {d : Nat} (h : ((s.detach d).channel c).HasHolder) :
    (s.channel c).HasHolder := by
  by_cases hd : c = d
  · subst hd
    rw [channel_detach] at h
    exact h
  · rwa [detach, s.channel_mapChannel_of_ne hd] at h

theorem keeps_detach (s : Store) {d : Nat} (h : d ≠ c) : s.Keeps c (s.detach d) :=
  .of_spares (.mapChannel (Ne.symm h) s _) rfl

/-- The next of the endpoints to cut off. -/
theorem isStranded_invalidateNext {e : EndpointRef} {es : List EndpointRef}
    (ht : σ.tasks = .invalidateEach (e :: es) :: rest) {log : List Event} :
    σ.IsStranded c ↔ (proceed ((σ.store.invalidateEndpoint e).andThen [.release e, .invalidateEach es])
      log rest).IsStranded c := by
  by_cases he : e = .channel c
  · subst he
    exact isStranded_iff_of_cut ht List.mem_cons_self (attached_detach σ.store c)
  · have hmem : EndpointRef.channel c ∈ e :: es ↔ .channel c ∈ es := by
      rw [List.mem_cons]
      exact or_iff_right (Ne.symm he)
    have hkeeps : σ.store.Keeps c (σ.store.invalidateEndpoint e).store := by
      cases e with
      | custom n => exact .refl c _
      | channel d => exact keeps_detach _ fun hd => he (congrArg _ hd)
    refine isStranded_iff_of_keeps ht hkeeps ?_
    rw [Task.CutsOff, hmem]
    cases e <;> simp [invalidateEndpoint, Next.andThen, Next.only, Next.start, Task.CutsOff]

/-- Of the channels that were registered, those that somebody holds are now going to be closed. -/
theorem isStranded_clearRegistry (ht : σ.tasks = .clearRegistry :: rest) {log : List Event}
    (hh : (σ.store.clearRegistry.1.channel c).HasHolder) :
    σ.IsStranded c ↔ (proceed (.follow σ.store.clearRegistry.1
      [.invalidateEach σ.store.clearRegistry.2]) log rest).IsStranded c := by
  have hold := hasHolder_of_clearRegistry hh
  have hmem : EndpointRef.channel c ∈ σ.store.clearRegistry.2 ↔ ∃ id, σ.store.HasId c id := by
    rw [mem_clearRegistry_iff]
    exact and_iff_left hold
  have hat : (σ.store.clearRegistry.1.channel c).attached = (σ.store.channel c).attached := by
    show ((σ.store.clearRegistry.2.foldl Store.hold σ.store).channel c).attached = _
    rw [channel_foldl_hold _ (lt_length_of_hasHolder hold)]
  have hnone : ¬ ∃ id, σ.store.clearRegistry.1.HasId c id := fun ⟨id, hid⟩ =>
    not_hasId_clearRegistry _ _ _ hid
  rw [isStranded_iff ht, isStranded_proceed_iff]
  show _ ↔ (σ.store.clearRegistry.1.channel c).attached = true ∧ (∀ t ∈ [_], _) ∧ _
  rw [hat, List.forall_mem_singleton, Task.CutsOff, Task.CutsOff, hmem]
  -- without an id nothing depends on how often the registry is cleared
  refine and_congr_right fun _ => and_congr_right fun hno => forall₂_congr fun t _ => not_congr ?_
  cases t with
  | clearRegistry => exact ⟨fun h => absurd h hno, fun h => absurd h hnone⟩
  | _ => exact Iff.rfl

/-- On a destroyed connection nothing decides later whether a channel that somebody holds is closed. -/
theorem isStranded_step (h : σ.Reachable) (hd : σ.store.IsDestroyed) (hs : Step σ τ)
    (hh : (τ.store.channel c).HasHolder) :
    (σ.store.channel c).HasHolder ∧ (σ.IsStranded c ↔ τ.IsStranded c) := by
  rcases Step.cases_of_destroyed h hd hs c with hc | ⟨t, rest, n, ht, hf, hn, rfl⟩
  · refine ⟨hc.keeps.hasHolder hh, ?_⟩
    have hspared : (∀ t ∈ σ.tasks, ¬ t.CutsOff σ.store c) ↔ ∀ t ∈ τ.tasks, ¬ t.CutsOff τ.store c := by
      constructor
      · intro hsp t ht hcut
        exact hsp t ((hc.tasks t (Task.isTidying_of_cutsOff hcut)).1 ht)
          ((Task.cutsOff_iff hc.keeps.ids).1 hcut)
      · intro hsp t ht hcut
        exact hsp t ((hc.tasks t (Task.isTidying_of_cutsOff hcut)).2 ht)
          ((Task.cutsOff_iff hc.keeps.ids).2 hcut)
    exact ⟨fun hσ => ⟨hc.keeps.attached.trans hσ.attached, hspared.1 hσ.spared⟩,
      fun hτ => ⟨hc.keeps.attached.symm.trans hτ.attached, hspared.2 hτ.spared⟩⟩
  · cases t with
    | invalidateEach es =>
      cases es with
      | nil =>
        cases hn
        refine ⟨hh, isStranded_iff_of_keeps ht (.refl c _) ?_⟩
        simp [Next.only, Task.CutsOff]
      | cons e es =>
        cases hn
        refine ⟨?_, isStranded_invalidateNext ht⟩
        cases e with
        | custom n => exact hh
        | channel d => exact hasHolder_detach hh
    | channelClosedByPeer d text =>
      cases hn
      refine ⟨hasHolder_detach (s := σ.store) (d := d) hh, ?_⟩
      by_cases hdc : d = c
      · subst hdc
        exact isStranded_iff_of_cut ht rfl (attached_detach σ.store d)
      · have hne : EndpointRef.channel d ≠ .channel c := fun he => hdc (EndpointRef.channel.inj he)
        refine isStranded_iff_of_keeps ht ((keeps_detach _ hdc).trans (.unregister hne _)) ?_
        simp [Next.start, Task.CutsOff, hdc]
    | clearRegistry =>
      cases hn
      exact ⟨hasHolder_of_clearRegistry hh, isStranded_clearRegistry ht hh⟩
    | unregister e =>
      cases hn
      refine ⟨hh, ?_⟩
      by_cases he : e = .channel c
      · -- nobody holds a channel that is to leave the registry
        subst he
        have hleaving : (stakes c σ.tasks + records c σ.log).leaving ≠ 0 := by
          rw [ht, stakes_cons, Task.stake, stake_self, Stake.leaving_add, Stake.leaving_add]
          dsimp only
          omega
        exact absurd hh ((h.tracks c).left hleaving)
      · refine isStranded_iff_of_keeps ht (.unregister he _) ?_
        simp [Next.only, Task.CutsOff]
    | _ => cases hf

/-! ## Ids that are left -/

theorem keeps_iff {id : UInt16} {e : EndpointRef} (ht : σ.tasks = t :: rest) : σ.Keeps id e ↔
    (σ.store.connection.registry.get? id = some e ∧ ¬ t.TakesBack e) ∧ ∀ t' ∈ rest, ¬ t'.TakesBack e := by
  constructor
  · rintro ⟨he, hs⟩
    obtain ⟨htop, hrest⟩ := List.forall_mem_cons.1 (ht ▸ hs)
    exact ⟨⟨he, htop⟩, hrest⟩
  · rintro ⟨⟨he, htop⟩, hrest⟩
    exact ⟨he, by rw [ht]; exact List.forall_mem_cons.2 ⟨htop, hrest⟩⟩

theorem keeps_proceed_iff {id : UInt16} {e : EndpointRef} {log : List Event}
    (hn : ∀ t ∈ n.tasks, ¬ t.TakesBack e) : (proceed n log rest).Keeps id e ↔
      n.store.connection.registry.get? id = some e ∧ ∀ t' ∈ rest, ¬ t'.TakesBack e := by
  constructor
  · rintro ⟨he, hs⟩
    refine ⟨he, fun t ht hb => hs t ?_ hb⟩
    exact (mem_tidying_iff (Task.isTidying_of_takesBack hb)).2 (.inr ht)
  · rintro ⟨he, hs⟩
    refine ⟨he, fun t ht hb => ?_⟩
    rcases (mem_tidying_iff (Task.isTidying_of_takesBack hb)).1 ht with ht | ht
    · exact hn t ht hb
    · exact hs t ht hb

/-- A channel that gives its own id back leaves no other entry out. -/
theorem get?_unregister_channel (h : σ.Reachable) {d : Nat} {s : Store}
    (hid : (s.channel d).id = (σ.store.channel d).id)
    (hr : s.connection.registry = σ.store.connection.registry) {id : UInt16} {e : EndpointRef} :
    (s.unregister (.channel d)).connection.registry.get? id = some e ↔
      σ.store.connection.registry.get? id = some e ∧ ¬ EndpointRef.channel d = e := by
  by_cases he : EndpointRef.channel d = e
  · subst he
    exact ⟨fun hn => absurd hn ((h.tracks d).not_hasId_unregister hid hr id), fun hn => absurd rfl hn.2⟩
  · rw [and_iff_left he, ← hr]
    exact Registry.get?_release_iff he

/-- A task that tidies up takes the ids back that it is to take back, and no others. -/
theorem keeps_tick (h : σ.Reachable) (ht : σ.tasks = t :: rest) (hf : t.isTidying = true)
    (hn : t.run σ.store = some n) {log : List Event} {id : UInt16} {e : EndpointRef} :
    σ.Keeps id e ↔ (proceed n log rest).Keeps id e := by
  have hproceed : (∀ t ∈ n.tasks, ¬ t.TakesBack e) → (n.store.connection.registry.get? id = some e ↔
      σ.store.connection.registry.get? id = some e ∧ ¬ t.TakesBack e) →
      (σ.Keeps id e ↔ (proceed n log rest).Keeps id e) := by
    intro htasks hentry
    rw [keeps_iff ht, keeps_proceed_iff htasks, hentry]
  cases t with
  | invalidateEach es =>
    cases es with
    | nil =>
      cases hn
      exact hproceed (by simp [Next.only]) (and_iff_left not_false).symm
    | cons e' es =>
      cases hn
      cases e' with
      | custom n =>
        refine hproceed ?_ (and_iff_left not_false).symm
        simp [invalidateEndpoint, Next.start, Next.andThen, Task.TakesBack]
      | channel d =>
        refine hproceed ?_ (and_iff_left not_false).symm
        simp [invalidateEndpoint, Next.only, Next.andThen, Task.TakesBack]
  | channelClosedByPeer d text =>
    cases hn
    refine hproceed (by simp [Next.start, Task.TakesBack])
      (get?_unregister_channel (s := σ.store.detach d) h ?_ rfl)
    rw [channel_detach]
    rfl
  | clearRegistry =>
    cases hn
    refine hproceed (by simp [Next.follow, Task.TakesBack]) ⟨fun he => ?_, fun he => absurd trivial he.2⟩
    cases he
  | unregister e' =>
    have hp := h.isProper _ (by rw [ht]; exact List.mem_cons_self)
    cases e' with
    -- an endpoint of user code leaves the registry in a call, not in a task
    | custom n => cases hp
    | channel d =>
      cases hn
      exact hproceed (by simp [Next.only]) (get?_unregister_channel h rfl rfl)
  | _ => cases hf

/-- An entry that stays in the end was there, and nothing was going to take it back. -/
theorem Keeps.of_step (h : σ.Reachable) (hd : σ.store.IsDestroyed) (hs : Step σ τ) {id : UInt16}
    {e : EndpointRef} (hk : τ.Keeps id e) : σ.Keeps id e := by
  rcases Step.cases_of_destroyed h hd hs 0 with hc | ⟨t, rest, n, ht, hf, hn, rfl⟩
  · refine ⟨hc.keeps.entries hk.entry, fun t ht hb => hk.spared t ?_ hb⟩
    exact (hc.tasks t (Task.isTidying_of_takesBack hb)).2 ht
  · exact (keeps_tick h ht hf hn).2 hk

/-- The id of a channel stays, if nothing is going to take it back. -/
theorem Keeps.step (h : σ.Reachable) (hd : σ.store.IsDestroyed) (hs : Step σ τ) {id : UInt16}
    (hk : σ.Keeps id (.channel c)) : τ.Keeps id (.channel c) := by
  rcases Step.cases_of_destroyed h hd hs c with hc | ⟨t, rest, n, ht, hf, hn, rfl⟩
  · refine ⟨(hc.keeps.ids id).2 hk.entry, fun t ht hb => hk.spared t ?_ hb⟩
    exact (hc.tasks t (Task.isTidying_of_takesBack hb)).1 ht
  · exact (keeps_tick h ht hf hn).1 hk

end Step

/-! ## At rest -/

variable {σ τ : Session}

theorem isStranded_reaches (h : σ.Reachable) (ha : σ.store.connection.alive = false) (hr : Reaches σ τ)
    {c : Nat} (hh : (τ.store.channel c).HasHolder) :
    (σ.store.channel c).HasHolder ∧ (σ.IsStranded c ↔ τ.IsStranded c) := by
  refine backwards (P := fun σ => (σ.store.channel c).HasHolder ∧ (σ.IsStranded c ↔ τ.IsStranded c))
    hr h ha (fun h hd hs hp => ?_) ⟨hh, Iff.rfl⟩
  obtain ⟨hh', hiff⟩ := isStranded_step h hd hs hp.1
  exact ⟨hh', hiff.trans hp.2⟩

/-- Whether a channel that user code holds in the end is closed is known as soon as the connection is
destroyed. -/
theorem closed_iff_not_isStranded (h : σ.Reachable) (ha : σ.store.connection.alive = false)
    (hr : Reaches σ τ) (ht : τ.tasks = []) {c : Nat} (hh : (τ.store.channel c).HasHolder) :
    (τ.store.channel c).state = .closed ↔ ¬ σ.IsStranded c := by
  rw [(isStranded_reaches h ha hr hh).2, ← not_iff_not, not_not]
  refine ((h.trans hr).tracks c).attached.symm.trans ⟨fun hat => ⟨hat, ?_⟩, fun hτ => hτ.attached⟩
  rw [ht]
  exact List.forall_mem_nil _

theorem keeps_of_entry (h : σ.Reachable) (ha : σ.store.connection.alive = false) (hr : Reaches σ τ)
    (ht : τ.tasks = []) {id : UInt16} {e : EndpointRef}
    (he : τ.store.connection.registry.get? id = some e) : σ.Keeps id e :=
  backwards (P := fun σ => σ.Keeps id e) hr h ha (fun h hd hs hk => hk.of_step h hd hs)
    ⟨he, by rw [ht]; exact List.forall_mem_nil _⟩

theorem hasId_iff_keeps (h : σ.Reachable) (ha : σ.store.connection.alive = false) (hr : Reaches σ τ)
    (ht : τ.tasks = []) {c : Nat} {id : UInt16} :
    τ.store.HasId c id ↔ σ.Keeps id (.channel c) := by
  refine ⟨keeps_of_entry h ha hr ht, fun hk => ?_⟩
  obtain ⟨-, -, hτ⟩ := hr.induction
    (P := fun υ => υ.Reachable ∧ υ.store.connection.alive = false ∧ υ.Keeps id (.channel c))
    (fun υ ω hυ hs => ⟨hυ.1.step hs, alive_of_step hυ.1 hυ.2.1 hs,
      hυ.2.2.step hυ.1 (hυ.1.isDestroyed hυ.2.1) hs⟩) ⟨h, ha, hk⟩
  exact hτ.entry

/-- A closed connection at rest has no id in use and no open channel, if it was not destroyed.
Otherwise that was settled when it was destroyed: of the channels that user code holds exactly those
are not closed that no task was going to close then, and exactly those ids are still in use that no
task was going to take back; user code itself may have taken back those of its own endpoints. -/
theorem tidy_or_stranded (h : σ.Reachable) (hr : Reaches σ τ) (ht : τ.tasks = [])
    (hc : τ.store.connection.state = .closed) :
    (τ.store.connection.alive = true → τ.store.IsTidy) ∧
    (σ.store.connection.alive = false →
      (∀ c, (τ.store.channel c).owned ≠ 0 →
        ((τ.store.channel c).state = .closed ↔ ¬ σ.IsStranded c) ∧ τ.store.reaches c = false) ∧
      (∀ c id, τ.store.HasId c id ↔ σ.Keeps id (.channel c)) ∧
      ∀ id e, τ.store.connection.registry.get? id = some e → σ.Keeps id e) := by
  refine ⟨fun ha => (h.trans hr).tidy_of_alive ht ha hc,
    fun ha => ⟨fun c ho => ?_, fun c id => ?_, fun id e he => ?_⟩⟩
  · refine ⟨closed_iff_not_isStranded h ha hr ht (by rw [Channel.HasHolder]; omega), ?_⟩
    rw [reaches, alive_of_reaches h ha hr, Bool.and_false]
  · exact hasId_iff_keeps h ha hr ht
  · exact keeps_of_entry h ha hr ht he

/-- A connection that is destroyed strands only channels that are in the registry at that moment, and
those that a tune is turning away. -/
theorem IsStranded.cases {c : Nat} (h : σ.Reachable) (ha : σ.store.connection.alive = true)
    (hs : Step σ τ) (hd : τ.store.connection.alive = false) (hc : τ.IsStranded c)
    (hh : (τ.store.channel c).HasHolder) : (∃ id, τ.store.HasId c id) ∨
      ∃ surplus limits, .evict surplus limits ∈ τ.tasks ∧ .channel c ∈ surplus.map Prod.snd := by
  have hhead : σ.tasks.head? = some .destroyed := by
    rcases hs.alive h with he | ⟨hhead, -⟩
    · rw [ha, hd] at he
      cases he
    · exact hhead
  obtain ⟨rest, ht⟩ := List.head?_eq_some_iff.1 hhead
  obtain ⟨n, hn, rfl⟩ := hs.eq_proceed ht nofun
  cases hn
  refine ((h.tracks c).known ha hc.attached hh).imp_right fun hout => ?_
  rw [records_eq] at hout
  obtain ⟨t, hmem, hout⟩ := exists_mem_outcast (show (stakes c σ.tasks).outcast ≠ 0 from hout)
  have hrest : t ∈ rest := by
    rw [ht, List.mem_cons] at hmem
    refine hmem.resolve_left ?_
    rintro rfl
    exact hout rfl
  rcases Task.outcast_cases hout with ⟨es, rfl, hes⟩ | ⟨surplus, limits, rfl, hes⟩
  · exact absurd hes (hc.spared _ hrest)
  · exact ⟨surplus, limits, hrest, hes⟩

/-- Nothing is left of a connection that was destroyed while no id was in use and no tune was turning
channels away. -/
theorem tidy_of_destroyed {υ : Session} (h : σ.Reachable) (ha : σ.store.connection.alive = true)
    (hs : Step σ τ) (hd : τ.store.connection.alive = false)
    (hfree : ∀ id, τ.store.connection.registry.get? id = none)
    (htune : ∀ surplus limits, .evict surplus limits ∉ τ.tasks) (hr : Reaches τ υ)
    (ht : υ.tasks = []) : υ.store.IsTidy := by
  have hτ := h.step hs
  constructor
  · intro id
    refine Option.eq_none_iff_forall_ne_some.2 fun e he => ?_
    have := (keeps_of_entry hτ hd hr ht he).entry
    rw [hfree] at this
    cases this
  · intro c ho
    have hh : (υ.store.channel c).HasHolder := by rw [Channel.HasHolder]; omega
    refine ⟨(closed_iff_not_isStranded hτ hd hr ht hh).2 fun hstr => ?_, ?_⟩
    · rcases hstr.cases h ha hs hd (isStranded_reaches hτ hd hr hh).1 with ⟨id, hid⟩ | ⟨_, _, hmem, -⟩
      · rw [Store.HasId, hfree] at hid
        cases hid
      · exact htune _ _ hmem
    · rw [reaches, alive_of_reaches hτ hd hr, Bool.and_false]

/-- The server allows one channel of three. User code destroys the connection when the first of the
other two is turned away. -/
def destroyWhileEvicting : List (Option Act) :=
  greeted ++ openEarly ++ openEarly ++ openEarly ++ [some (.call (.parse (offerOf 1)))] ++ pass 1 ++
    pass 2 ++ [none, none, some (.call .destroy), none, none, none, none, none]

/-- The second of the two is not closed. -/
theorem tidy_or_stranded_evicting : ∃ σ τ : Session, σ.Reachable ∧ Reaches σ τ ∧ τ.tasks = [] ∧
    τ.store.connection.state = .closed ∧ σ.store.connection.alive = false ∧ σ.IsStranded 1 ∧
    (τ.store.channel 0).state = .closed ∧ (τ.store.channel 1).state ≠ .closed := by
  obtain ⟨σ, hσ, he⟩ := exists_reaches_of_play destroyWhileEvicting (connect .standard)
    (fun σ => ([σ.store.connection.alive, (σ.store.channel 0).attached, (σ.store.channel 1).attached,
        σ.tasks.all fun t => !t.isTidying],
      (σ.play [none, none, some (.return .done), none, none, none, none, none, none, none]).map fun τ =>
        (τ.tasks.isEmpty, τ.store.connection.state, [(τ.store.channel 0).owned,
          (τ.store.channel 1).owned])))
    (a := ([false, false, true, true], some (true, .closed, [1, 1]))) (by decide +kernel)
  simp only [Prod.mk.injEq, List.cons.injEq, List.all_eq_true, Bool.not_eq_true'] at he
  obtain ⟨⟨halive, hfirst, hsecond, htidying, -⟩, hplay⟩ := he
  obtain ⟨τ, hτ, he⟩ := Option.map_eq_some_iff.1 hplay
  simp only [Prod.mk.injEq, List.cons.injEq, List.isEmpty_iff] at he
  obtain ⟨htasks, hstate, howned, howned', -⟩ := he
  have hstranded : ∀ c, (σ.store.channel c).attached = true → σ.IsStranded c := by
    intro c hat
    refine ⟨hat, fun t ht hcut => ?_⟩
    exact absurd (Task.isTidying_of_cutsOff hcut) (by rw [htidying t ht]; decide)
  have hreaches := reaches_of_play hτ
  obtain ⟨hclosed, -⟩ := (tidy_or_stranded ⟨.standard, hσ⟩ hreaches htasks hstate).2 halive
  refine ⟨σ, τ, ⟨.standard, hσ⟩, hreaches, htasks, hstate, halive, hstranded 1 hsecond, ?_, fun hc => ?_⟩
  · refine ((hclosed 0 (by rw [howned]; decide)).1).2 fun hs => ?_
    rw [hs.attached] at hfirst
    cases hfirst
  · exact ((hclosed 1 (by rw [howned']; decide)).1).1 hc (hstranded 1 hsecond)

/-- During negotiation, user code opens a channel when an endpoint of its own is told that the
connection is destroyed. -/
def openWhileDestroying : List (Option Act) :=
  greeted ++ [some (.call (.newEndpoint 7)), none, some (.call (.register 0)), none,
    some (.call .destroy), none, none] ++ openEarly ++ [some (.return .done), none, none, none, none, none]

/-- A destroyed connection at rest that still has a channel, which is not closed. -/
theorem untidy_after_destroy : ∃ σ : Session, σ.Reachable ∧ σ.tasks = [] ∧
    σ.store.connection.state = .closed ∧ σ.store.HasId 0 2 ∧
    (σ.store.channel 0).owned ≠ 0 ∧ (σ.store.channel 0).state = .opening ∧ ¬ σ.store.IsTidy := by
  obtain ⟨σ, hσ, he⟩ := exists_reaches_of_play openWhileDestroying (connect .standard)
    (fun σ => (σ.tasks.isEmpty, σ.store.connection.state, σ.store.connection.registry.get? 2,
      σ.store.channel 0))
    (a := (true, .closed, some (.channel 0), ⟨2, .opening, true, 1, 0⟩)) (by decide +kernel)
  simp only [Prod.mk.injEq, List.isEmpty_iff] at he
  obtain ⟨htasks, hstate, hid, hch⟩ := he
  refine ⟨σ, ⟨.standard, hσ⟩, htasks, hstate, hid, by rw [hch]; decide, by rw [hch], fun ht => ?_⟩
  rw [ht.free] at hid
  cases hid

end Session

end AmqpSession
