/-
What a destroyed connection still does. It stays destroyed, and no task and no call changes what is
registered or opens a channel, but for the tasks that were left to tidy up. So what holds at rest is
known when the connection is destroyed (`backwards`).
-/
import AmqpSession.Proofs.Agreement
import AmqpSession.Proofs.Silence

namespace AmqpSession

open Wire

/-! ## Tasks and calls -/

/-- The task deals with channels or ids although the connection is destroyed. -/
def Task.isTidying : Task → Bool
  | .invalidateEach _ | .channelClosedByPeer _ _ | .clearRegistry | .unregister _ => true
  | _ => false

/-- The channel is as attached as it was and keeps its ids, and nobody takes it up anew. -/
structure Store.Keeps (c : Nat) (s s' : Store) : Prop where
  attached : (s'.channel c).attached = (s.channel c).attached
  ids : ∀ id, s'.HasId c id ↔ s.HasId c id
  /-- No endpoint gets an id. -/
  entries : ∀ {id e}, s'.connection.registry.get? id = some e → s.connection.registry.get? id = some e
  hasHolder : (s'.channel c).HasHolder → (s.channel c).HasHolder

namespace Store.Keeps

variable {c d : Nat} {s s' s'' : Store}

theorem of_spares (h : Spares c s s') (hr : s'.connection.registry = s.connection.registry) :
    Keeps c s s' where
  attached := congrArg _ h.channel
  ids := h.ids
  entries he := by rwa [hr] at he
  hasHolder hh := h.channel ▸ hh

theorem of_eq (hch : s'.channels = s.channels)
    (hr : s'.connection.registry = s.connection.registry) : Keeps c s s' where
  attached := by
    unfold Store.channel
    rw [hch]
  ids id := by rw [HasId, HasId, hr]
  entries he := by rwa [hr] at he
  hasHolder := by
    unfold Store.channel
    rw [hch]
    exact id

theorem refl (c : Nat) (s : Store) : Keeps c s s := of_eq rfl rfl

theorem trans (h : Keeps c s s') (h' : Keeps c s' s'') : Keeps c s s'' where
  attached := h'.attached.trans h.attached
  ids id := (h'.ids id).trans (h.ids id)
  entries he := h.entries (h'.entries he)
  hasHolder hh := h.hasHolder (h'.hasHolder hh)

/-- More or fewer hold a channel that somebody holds. -/
theorem regrips {f : Channel → Channel} (hf : d = c → Regrips (s.channel c) (f (s.channel c))) :
    Keeps c s (s.mapChannel d f) := by
  by_cases hd : d = c
  · subst hd
    have hf := hf rfl
    by_cases hlt : d < s.channels.length
    · have hch := s.channel_mapChannel hlt f
      exact ⟨by rw [hch]; exact hf.attached, fun _ => Iff.rfl, fun he => he,
        fun hh => hf.hasHolder (hch ▸ hh)⟩
    · have hle := Nat.le_of_not_lt hlt
      have hch : (s.mapChannel d f).channel d = s.channel d := by
        rw [s.channel_of_length_le hle, channel_of_length_le _ (s.length_mapChannel d f ▸ hle)]
      exact ⟨by rw [hch], fun _ => Iff.rfl, fun he => he, fun hh => hch ▸ hh⟩
  · exact of_spares (.mapChannel (Ne.symm hd) s f) rfl

theorem hold {e : EndpointRef} (he : s.isLive e = true) : Keeps c s (s.hold e) := by
  cases e with
  | custom n => exact of_eq rfl rfl
  | channel d =>
    refine regrips fun hd => ⟨rfl, rfl, rfl, fun _ => ?_⟩
    subst hd
    exact isLive_channel_iff.1 he

theorem lose (s : Store) (e : EndpointRef) : Keeps c s (s.lose e) := by
  cases e with
  | custom n => exact of_eq rfl rfl
  | channel d =>
    refine regrips fun hd => ⟨rfl, rfl, rfl, fun hh => ?_⟩
    rw [Channel.HasHolder] at hh ⊢
    dsimp only at hh
    omega

theorem unregister {e : EndpointRef} (h : e ≠ .channel c) (s : Store) : Keeps c s (s.unregister e) where
  attached := rfl
  ids := (Spares.unregister h s).ids
  entries := Registry.get?_of_get?_release
  hasHolder hh := hh

end Store.Keeps

/-- Work that is not the tidying of anything, and leaves none for later. -/
structure Next.IsIdle (c : Nat) (s : Store) (n : Next) : Prop where
  keeps : s.Keeps c n.store
  tasks : ∀ t ∈ n.tasks, t.isTidying = false

namespace Next.IsIdle

variable {c : Nat} {s s' : Store} {n : Next}

theorem only (h : s.Keeps c s') : IsIdle c s (.only s') := ⟨h, by simp [Next.only]⟩

theorem follow (h : s.Keeps c s') {tasks : List Task} (ht : ∀ t ∈ tasks, t.isTidying = false) :
    IsIdle c s (.follow s' tasks) := ⟨h, ht⟩

end Next.IsIdle

open Store Next

/-- A destroyed connection works on without a change of what is registered. -/
theorem Task.run_isIdle (c : Nat) {t : Task} {s : Store} {n : Next} (hd : s.IsDestroyed)
    (ht : t.isTidying = false) (hown : t = .handOver c → (s.channel c).HasHolder)
    (h : t.run s = some n) : IsIdle c s n := by
  have hdead : ¬ s.connection.alive = true := by simp [hd.dead]
  have hself : s.Keeps c s := .refl c s
  cases t with
  | user cb => cases h
  | invalidateEach | channelClosedByPeer | clearRegistry | unregister => cases ht
  | notify cb => cases h; exact ⟨hself, by simp [Next.start, isTidying]⟩
  | answer outcome => cases h; exact ⟨hself, by simp⟩
  | releaseHandle =>
    cases h
    unfold Store.releaseHandle
    split
    · rw [hd.destroy]
      exact ⟨hself, by simp [Next.andThen, Next.only, isTidying]⟩
    · exact .only (.of_eq rfl rfl)
  | loseHandle => cases h; exact .only (.of_eq rfl rfl)
  | release e =>
    cases h
    rw [(hd.frozen (.lose s e)).whenLost e]
    exact .only (.lose s e)
  | parse buffer processed =>
    cases h
    rw [hd.parse]
    exact .follow hself (by simp [endOfParse, isTidying])
  | handled e p fault =>
    cases e with
    | some e => cases h; exact .follow hself (by simp [isTidying])
    | none =>
      cases fault with
      | none => cases h; exact .follow hself (by simp [isTidying])
      | some v =>
        cases h
        rw [hd.report]
        exact .follow hself (by simp [endOfParse, isTidying])
  | flush =>
    cases h
    split
    · rw [if_neg hdead]
      exact .only hself
    · exact .only hself
  | closeEach es =>
    cases es with
    | nil => cases h; exact .only hself
    | cons e es =>
      cases h
      rw [if_neg hdead]
      refine .follow hself fun t ht => ?_
      obtain ⟨e', -, rfl⟩ := List.mem_map.1 ht
      rfl
  | destroyed => cases h; exact .only (.of_eq rfl rfl)
  | handOver d =>
    cases h
    refine .only (.regrips fun hd => ⟨rfl, rfl, rfl, fun _ => ?_⟩)
    subst hd
    exact hown rfl
  | handOverConnection => cases h; exact .only (.of_eq rfl rfl)
  | _ =>
    cases h
    rw [if_neg hdead]
    exact .only hself

theorem Session.Call.run_isIdle (c : Nat) {call : Call} {s : Store} (hd : s.IsDestroyed)
    (hl : call.isLegal s = true) : IsIdle c s (call.run s) := by
  have hheld : s.holdHandle.IsDestroyed := hd.frozen (.holdHandle s)
  have hself : s.Keeps c s := .refl c s
  have hhandle : s.Keeps c s.holdHandle := .of_eq rfl rfl
  cases call with
  | parse buffer => exact .follow hhandle (by simp [Task.isTidying])
  | send f =>
    rw [run_send hd]
    exact .follow hself (by simp [Task.isTidying])
  | close =>
    rw [run_close hd]
    exact .follow hself (by simp [Task.isTidying])
  | destroy =>
    rw [run_destroy hd]
    exact .follow hhandle (by simp [Task.isTidying])
  | transportClosed =>
    rw [run_transportClosed hd]
    exact .follow hhandle (by simp [Task.isTidying])
  | register n =>
    rw [run_register hd]
    exact .follow hself (by simp [Task.isTidying])
  | unregister n => exact .follow (.unregister (fun he => by cases he) s) (by simp [Task.isTidying])
  | openChannel =>
    -- the channel is never opened
    rcases s.holdHandle.openChannel_cases with ⟨e, he, -⟩ | ⟨id, r, n, ho, -⟩
    · have hr : Call.run .openChannel s = .follow (s.holdHandle.withChannel .gone)
          [.releaseHandle, .answer (.opened s.channels.length (.error (.alloc e)))] := by
        simp [Call.run, he, Next.andThen, Next.only, Next.follow]
      rw [hr]
      have hspares : Spares c s.holdHandle (s.holdHandle.withChannel .gone) :=
        spares_withChannel c s.holdHandle fun _ => rfl
      exact .follow (hhandle.trans (.of_spares hspares rfl)) (by simp [Task.isTidying])
    · exact absurd hheld.closed ho.2
  | sendOn d body =>
    rw [run_sendOn hd]
    exact .follow (.hold hl) (by simp [Task.isTidying])
  | closeChannel d =>
    obtain ⟨result, hr⟩ := exists_run_closeChannel hd d
    rw [hr]
    exact .follow (.hold hl) (by simp [Task.isTidying])
  | dropChannel d =>
    rw [run_dropChannel hd]
    refine .follow (.regrips fun hd => ⟨rfl, rfl, rfl, fun hh => ?_⟩) (by simp [Task.isTidying])
    rw [Channel.HasHolder] at hh ⊢
    dsimp only at hh
    omega
  | cloneChannel d =>
    refine ⟨.regrips fun hd => ⟨rfl, rfl, rfl, fun _ => ?_⟩, by simp [Call.run, Next.follow, Task.isTidying]⟩
    subst hd
    exact isLive_channel_iff.1 hl
  | cloneHandle | dropHandle | newEndpoint | setEndpointId | dropEndpoint =>
    exact ⟨.of_eq rfl rfl, by simp [Call.run, Next.follow, Task.isTidying]⟩

/-! ## Steps -/

theorem Connection.Moves.alive {t : Option Task} {k k' : Connection} {es : List Event}
    (h : Connection.Moves t k es k') : k'.alive = k.alive ∨ t = some .destroyed ∧ k'.alive = false := by
  induction h with
  | refl => exact .inl rfl
  | tail _ hm ih =>
    cases hm with
    | destroyed ht => exact .inr ⟨ht, rfl⟩
    | _ => exact ih

namespace Session

theorem mem_tidying_iff {n : Next} {log : List Event} {rest : List Task} {t : Task}
    (ht : t.isTidying = true) : t ∈ (proceed n log rest).tasks ↔ t ∈ n.tasks ∨ t ∈ rest := by
  have hfixed : t.isFixed = true := by cases t <;> first | rfl | cases ht
  rw [proceed_tasks, List.mem_append]
  refine or_congr_right ⟨mem_of_map_plain_eq (map_plain_below n rest) hfixed, ?_⟩
  exact mem_of_map_plain_eq (map_plain_below n rest).symm hfixed

/-- A step that neither closes the channel nor takes its ids back, nor anything of that kind off the
stack. -/
structure Continues (c : Nat) (σ τ : Session) : Prop where
  keeps : σ.store.Keeps c τ.store
  tasks : ∀ t : Task, t.isTidying = true → (t ∈ τ.tasks ↔ t ∈ σ.tasks)

theorem Continues.of_isIdle {c : Nat} {σ : Session} {n : Next} {rest : List Task}
    (h : n.IsIdle c σ.store) (hrest : ∀ t : Task, t.isTidying = true → (t ∈ rest ↔ t ∈ σ.tasks)) :
    Continues c σ (proceed n σ.log rest) where
  keeps := h.keeps
  tasks t ht := by
    rw [mem_tidying_iff ht, ← hrest t ht]
    refine ⟨fun hm => hm.resolve_left fun hn => ?_, .inr⟩
    rw [h.tasks t hn] at ht
    cases ht

/-- A step on a destroyed connection runs a task that tidies up, or none goes and none comes. -/
theorem Step.cases_of_destroyed {σ τ : Session} (h : σ.Reachable) (hd : σ.store.IsDestroyed)
    (hs : Step σ τ) (c : Nat) : Continues c σ τ ∨ ∃ t rest n, σ.tasks = t :: rest ∧
      t.isTidying = true ∧ t.run σ.store = some n ∧ τ = proceed n σ.log rest := by
  have htop : ∀ {t : Task} {rest : List Task}, σ.tasks = t :: rest → t.isTidying = false →
      ∀ t' : Task, t'.isTidying = true → (t' ∈ rest ↔ t' ∈ σ.tasks) := by
    intro t rest ht hf t' ht'
    rw [ht, List.mem_cons]
    refine ⟨.inr, fun hm => hm.resolve_left ?_⟩
    rintro rfl
    rw [hf] at ht'
    cases ht'
  obtain ⟨t, rest, n, ht, hn, rfl⟩ | ⟨call, -, hl, rfl⟩ | ⟨cb, r, rest, ht, rfl⟩ := hs.cases_on_stack
  · cases hf : t.isTidying with
    | true => exact .inr ⟨t, rest, n, ht, hf, hn, rfl⟩
    | false =>
      refine .inl (.of_isIdle (Task.run_isIdle c hd hf ?_ hn) (htop ht hf))
      rintro rfl
      have hheld := (h.tracks c).held
      rw [ht, stakes_cons, Task.stake, stake_self] at hheld
      rw [Channel.HasHolder, hheld, Stake.held_add, Stake.held_add]
      dsimp only
      omega
  · exact .inl (.of_isIdle (Call.run_isIdle c hd hl) fun _ _ => Iff.rfl)
  · refine .inl ⟨.refl c _, fun t' ht' => ?_⟩
    have hfixed : t'.isFixed = true := by cases t' <;> first | rfl | cases ht'
    rw [← htop ht rfl t' ht']
    exact ⟨mem_of_map_plain_eq (map_plain_answerWith cb r rest) hfixed,
      mem_of_map_plain_eq (map_plain_answerWith cb r rest).symm hfixed⟩

variable {σ τ : Session}

/-- A connection is destroyed by one task only, and stays so. -/
theorem Step.alive (h : σ.Reachable) (hs : Step σ τ) :
    τ.store.connection.alive = σ.store.connection.alive ∨
      σ.tasks.head? = some .destroyed ∧ τ.store.connection.alive = false := by
  rcases hs.cases h.isProper with ⟨es, old, new, rest, rest', hw⟩ | hc
  · exact hw.moves.alive
  · exact .inl (by rw [hc.connection])

theorem Reachable.isDestroyed (h : σ.Reachable) (ha : σ.store.connection.alive = false) :
    σ.store.IsDestroyed := ⟨ha, h.state_of_not_alive ha⟩

theorem alive_of_step (h : σ.Reachable) (ha : σ.store.connection.alive = false) (hs : Step σ τ) :
    τ.store.connection.alive = false := by
  rcases hs.alive h with he | ⟨-, ha'⟩
  · exact he.trans ha
  · exact ha'

theorem Reachable.trans (h : σ.Reachable) (hr : Reaches σ τ) : τ.Reachable := by
  obtain ⟨o, ho⟩ := h
  exact ⟨o, ho.trans hr⟩

theorem alive_of_reaches (h : σ.Reachable) (ha : σ.store.connection.alive = false) (hr : Reaches σ τ) :
    τ.store.connection.alive = false :=
  (hr.induction (P := fun υ => υ.Reachable ∧ υ.store.connection.alive = false)
    (fun _ _ hυ hs => ⟨hυ.1.step hs, alive_of_step hυ.1 hυ.2 hs⟩) ⟨h, ha⟩).2

/-- What holds in the end, and before a step if it holds after it, holds when a connection is
destroyed. -/
theorem backwards {P : Session → Prop} (hr : Reaches σ τ) (h : σ.Reachable)
    (ha : σ.store.connection.alive = false)
    (hstep : ∀ {σ υ}, σ.Reachable → σ.store.IsDestroyed → Step σ υ → P υ → P σ) (hτ : P τ) : P σ := by
  induction hr using Relation.ReflTransGen.head_induction_on with
  | refl => exact hτ
  | head hs _ ih => exact hstep h (h.isDestroyed ha) hs (ih (h.step hs) (alive_of_step h ha hs))

end Session

end AmqpSession
