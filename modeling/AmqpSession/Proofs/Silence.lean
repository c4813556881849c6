/-
The end of a connection. Once it is destroyed, every piece of work that was left goes by without
user code, the transport or the registry taking notice, but for a few that do not look whether the
connection is still there (`Task.isLoud`). What remains is silent exactly if none of these is left.
-/
import AmqpSession.Proofs.Effort
import AmqpSession.Proofs.Registry
import AmqpSession.Proofs.Step

namespace AmqpSession

open Wire

/-! ## What is not noticed -/

/-- Endpoints are told that they are cut off, and calls return. -/
def Event.isQuiet : Event → Bool
  | .answered _ | .started (.endpointInvalidate _) => true
  | _ => false

/-- The connection as others see it is the same, and channels keep their ids. -/
structure Store.Frozen (s s' : Store) : Prop where
  state : s'.connection.state = s.connection.state
  alive : s'.connection.alive = s.connection.alive
  queue : s'.connection.queue = s.connection.queue
  registry : s'.connection.registry = s.connection.registry
  ids : ∀ c, (s'.channel c).id = (s.channel c).id

namespace Store

theorem id_mapChannel (s : Store) (c : Nat) {f : Channel → Channel} (hf : ∀ ch, (f ch).id = ch.id)
    (c' : Nat) : ((s.mapChannel c f).channel c').id = (s.channel c').id := by
  show ((s.channels.modify c f)[c']?.getD .gone).id = (s.channels[c']?.getD .gone).id
  rw [List.getElem?_modify]
  cases s.channels[c']? with
  | none => rfl
  | some ch =>
    show (if c = c' then f ch else ch).id = ch.id
    split
    · exact hf ch
    · rfl

namespace Frozen

variable {s s' s'' : Store}

theorem refl (s : Store) : s.Frozen s := ⟨rfl, rfl, rfl, rfl, fun _ => rfl⟩

theorem trans (h : s.Frozen s') (h' : s'.Frozen s'') : s.Frozen s'' :=
  ⟨h'.state.trans h.state, h'.alive.trans h.alive, h'.queue.trans h.queue,
    h'.registry.trans h.registry, fun c => (h'.ids c).trans (h.ids c)⟩

theorem mapChannel (s : Store) (c : Nat) {f : Channel → Channel} (hf : ∀ ch, (f ch).id = ch.id) :
    s.Frozen (s.mapChannel c f) :=
  ⟨rfl, rfl, rfl, rfl, s.id_mapChannel c hf⟩

theorem mapEndpoint (s : Store) (n : Nat) (f : Endpoint → Endpoint) : s.Frozen (s.mapEndpoint n f) :=
  ⟨rfl, rfl, rfl, rfl, fun _ => rfl⟩

theorem handles (s : Store) (owned held : Nat) :
    s.Frozen (s.mapConnection fun k => { k with owned := owned, held := held }) :=
  ⟨rfl, rfl, rfl, rfl, fun _ => rfl⟩

theorem holdHandle (s : Store) : s.Frozen s.holdHandle := handles s _ _

theorem loseHandle (s : Store) : s.Frozen s.loseHandle := handles s _ _

theorem detach (s : Store) (c : Nat) : s.Frozen (s.detach c) := mapChannel s c fun _ => rfl

theorem hold (s : Store) (e : EndpointRef) : s.Frozen (s.hold e) := by
  cases e with
  | channel c => exact mapChannel s c fun _ => rfl
  | custom n => exact mapEndpoint s n _

theorem lose (s : Store) (e : EndpointRef) : s.Frozen (s.lose e) := by
  cases e with
  | channel c => exact mapChannel s c fun _ => rfl
  | custom n => exact mapEndpoint s n _

end Frozen

/-- The connection is destroyed. -/
structure IsDestroyed (s : Store) : Prop where
  dead : s.connection.alive = false
  closed : s.connection.state = .closed

theorem IsDestroyed.frozen {s s' : Store} (h : s.IsDestroyed) (hf : s.Frozen s') : s'.IsDestroyed :=
  ⟨hf.alive.trans h.dead, hf.state.trans h.closed⟩

end Store

/-! ## Tasks of a destroyed connection -/

namespace Task

/-- The task does not look whether the connection is destroyed, and it would be noticed. -/
def isLoud (s : Store) : Task → Bool
  | .notify _ | .channelClosedByPeer _ _ => true
  | .clearRegistry => !s.connection.registry.entries.isEmpty
  | .unregister e => s.idOf e ≠ 0 && s.connection.registry.get? (s.idOf e) = some e
  | _ => false

/-- The task is not noticed, whatever became of the registry. -/
def isHarmless : Task → Bool
  | .notify _ | .channelClosedByPeer _ _ | .clearRegistry | .unregister _ => false
  | _ => true

theorem isLoud_of_isHarmless {t : Task} (h : t.isHarmless = true) (s : Store) : t.isLoud s = false := by
  cases t <;> first | rfl | cases h

end Task

/-- Work that is not noticed, and leads to nothing but harmless tasks. -/
structure Next.Idles (s : Store) (n : Next) : Prop where
  frozen : s.Frozen n.store
  fault : n.fault = none
  quiet : ∀ e ∈ n.log, e.isQuiet = true
  harmless : ∀ t ∈ n.tasks, t.isHarmless = true

theorem Next.Idles.only {s s' : Store} (h : s.Frozen s') : Next.Idles s (.only s') :=
  ⟨h, rfl, by simp [Next.only], by simp [Next.only]⟩

theorem Next.Idles.follow {s s' : Store} {tasks : List Task} (h : s.Frozen s')
    (ht : ∀ t ∈ tasks, t.isHarmless = true) : Next.Idles s (.follow s' tasks) :=
  ⟨h, rfl, by simp [Next.follow], ht⟩

namespace Store

variable {s : Store}

theorem IsDestroyed.destroy (h : s.IsDestroyed) : s.destroy = .only s := by
  simp [Store.destroy, h.dead]

theorem IsDestroyed.reaches (h : s.IsDestroyed) (c : Nat) : s.reaches c = false := by
  simp [Store.reaches, h.dead]

theorem IsDestroyed.whenLost (h : s.IsDestroyed) (e : EndpointRef) : s.whenLost e = .only s := by
  cases e with
  | custom n => rfl
  | channel c => simp [Store.whenLost, Store.dropChannel, h.reaches]

theorem IsDestroyed.report (h : s.IsDestroyed) (v : Violation) (processed : Nat) :
    s.report v processed = .follow s (endOfParse processed) := by
  simp [Store.report, h.dead]

theorem IsDestroyed.parse (h : s.IsDestroyed) (buffer : Bytes) (processed : Nat) :
    s.parse buffer processed = .follow s (endOfParse processed) := by
  simp [Store.parse, h.dead]

theorem IsDestroyed.releaseHandle (h : s.IsDestroyed) : Next.Idles s s.releaseHandle := by
  unfold Store.releaseHandle
  split
  · rw [h.destroy]
    show Next.Idles s (.follow s [.loseHandle])
    exact .follow (.refl s) (by simp [Task.isHarmless])
  · exact .only (.loseHandle s)

theorem endOfParse_idles (s : Store) (processed : Nat) :
    Next.Idles s (.follow s (endOfParse processed)) :=
  .follow (.refl s) (by simp [endOfParse, Task.isHarmless])

/-- Nothing is cut off when the registry is empty. -/
theorem clearRegistry_of_isEmpty (h : s.connection.registry.entries.isEmpty = true) :
    s.clearRegistry = (s, []) := by
  have he : s.holdRegistered = (s, []) := by
    simp [holdRegistered, Registry.endpoints_eq_nil h]
  simp only [clearRegistry, he]
  show (s.mapConnection fun k => { k with registry := k.registry.clear }, _) = _
  rw [mapConnection, Registry.clear_eq_self h]

theorem IsDestroyed.destroyed (h : s.IsDestroyed) :
    s.Frozen ((s.setState .closed).mapConnection ({ · with alive := false })) :=
  ⟨h.closed.symm, h.dead.symm, rfl, rfl, fun _ => rfl⟩

theorem invalidateEndpoint_idles (s : Store) (e : EndpointRef) (es : List EndpointRef) :
    Next.Idles s ((s.invalidateEndpoint e).andThen [.release e, .invalidateEach es]) := by
  cases e with
  | channel c =>
    show Next.Idles s (.follow (s.detach c) [.release (.channel c), .invalidateEach es])
    exact .follow (.detach s c) (by simp [Task.isHarmless])
  | custom n =>
    show Next.Idles s (.start s (.endpointInvalidate n) [.release (.custom n), .invalidateEach es])
    exact ⟨.refl s, rfl, by simp [Next.start, Event.isQuiet], by simp [Next.start, Task.isHarmless]⟩

end Store

/-- Work on a destroyed connection goes by. -/
theorem Task.idles {t : Task} {s : Store} {n : Next} (hd : s.IsDestroyed) (hl : t.isLoud s = false)
    (h : t.run s = some n) : Next.Idles s n := by
  have hdead : ¬ s.connection.alive = true := by simp [hd.dead]
  cases t with
  | user cb => cases h
  | notify cb | channelClosedByPeer c text => cases hl
  | answer outcome =>
    cases h
    exact ⟨.refl s, rfl, by simp [Event.isQuiet], by simp⟩
  | releaseHandle => cases h; exact hd.releaseHandle
  | loseHandle => cases h; exact .only (.loseHandle s)
  | release e =>
    cases h
    rw [(hd.frozen (.lose s e)).whenLost e]
    exact .only (.lose s e)
  | unregister e =>
    cases h
    -- the registry knows another endpoint by this id, or none
    have hr : s.unregister e = s := by
      show s.mapConnection (fun k => { k with registry := k.registry.release (s.idOf e) e }) = s
      rw [Store.mapConnection, Registry.release_of_ne (by simpa [isLoud] using hl)]
    rw [hr]
    exact .only (.refl s)
  | parse buffer processed =>
    cases h
    rw [hd.parse]
    exact Store.endOfParse_idles s processed
  | handled e p fault =>
    cases e with
    | some e =>
      cases h
      exact .follow (.refl s) (by simp [isHarmless])
    | none =>
      cases fault with
      | none => cases h; exact .follow (.refl s) (by simp [isHarmless])
      | some v =>
        cases h
        rw [hd.report]
        exact Store.endOfParse_idles s _
  | flush =>
    cases h
    split
    · rw [if_neg hdead]
      exact .only (.refl s)
    · exact .only (.refl s)
  | closeEach es =>
    cases es with
    | nil => cases h; exact .only (.refl s)
    | cons e es =>
      cases h
      rw [if_neg hdead]
      exact .follow (.refl s) (by simp [isHarmless])
  | clearRegistry =>
    have hempty : s.connection.registry.entries.isEmpty = true := by simpa [isLoud] using hl
    simp only [run, Store.clearRegistry_of_isEmpty hempty] at h
    cases h
    exact .follow (.refl s) (by simp [isHarmless])
  | invalidateEach es =>
    cases es with
    | nil => cases h; exact .only (.refl s)
    | cons e es => cases h; exact Store.invalidateEndpoint_idles s e es
  | destroyed => cases h; exact .only hd.destroyed
  | handOver c => cases h; exact .only (.mapChannel s c fun _ => rfl)
  | handOverConnection => cases h; exact .only (.handles s _ _)
  | _ =>
    cases h
    rw [if_neg hdead]
    exact .only (.refl s)

/-! ## Calls on a destroyed connection -/

namespace Store

variable {s : Store}

theorem IsDestroyed.send (h : s.IsDestroyed) (f : Frame) : s.send f = .error .closed := by
  simp [Store.send, h.closed]

theorem IsDestroyed.close (h : s.IsDestroyed) : s.close = .error .alreadyClosed := by
  simp [Store.close, h.closed]

theorem IsDestroyed.transportClosed (h : s.IsDestroyed) : s.transportClosed = .only s := by
  simp [Store.transportClosed, h.closed]

theorem IsDestroyed.register (h : s.IsDestroyed) (e : EndpointRef) :
    s.register e = (.error .illegalState, s) := by
  simp [Store.register, h.closed]

theorem IsDestroyed.sendOn (h : s.IsDestroyed) (c : Nat) (body : Body) :
    s.sendOn c body = .error .detached := by
  simp [Store.sendOn, h.reaches]

theorem IsDestroyed.closeChannel (h : s.IsDestroyed) (c : Nat) :
    ∃ result, s.closeChannel c = (result, .only s) := by
  unfold Store.closeChannel
  split
  · exact ⟨_, rfl⟩
  · exact ⟨_, rfl⟩
  all_goals
    rw [if_neg (by simp [h.reaches])]
    exact ⟨_, rfl⟩

/-- A channel that is never opened. -/
theorem frozen_append_channel (s : Store) :
    s.Frozen { s with channels := s.channels ++ [Channel.new] } := by
  refine ⟨rfl, rfl, rfl, rfl, fun c => ?_⟩
  show ((s.channels ++ [Channel.new])[c]?.getD .gone).id = (s.channels[c]?.getD .gone).id
  rcases Nat.lt_trichotomy c s.channels.length with hc | rfl | hc
  · rw [List.getElem?_append_left hc]
  · simp [Channel.new, Channel.gone]
  · rw [List.getElem?_eq_none (by simp; omega), List.getElem?_eq_none (by omega)]

theorem IsDestroyed.openChannel (h : s.IsDestroyed) :
    ∃ result s', s.openChannel = (result, .only s') ∧ s.Frozen s' := by
  unfold Store.openChannel
  rw [if_pos (.inr h.closed)]
  exact ⟨_, _, rfl, (frozen_append_channel s).trans (.trans (.detach _ _) (.lose _ _))⟩

end Store

namespace Session

section Calls

open Store

variable {s : Store}

/-! A call that looks whether the connection is destroyed returns, and does no more than that. -/

theorem Call.run_send (h : s.IsDestroyed) (f : Frame) :
    Call.run (.send f) s = .follow s [.answer (.sent (.error .closed))] := by
  simp [Call.run, tryOnConnection, (h.frozen (.holdHandle s)).send]

theorem Call.run_close (h : s.IsDestroyed) :
    Call.run .close s = .follow s [.answer (.closed (.error .alreadyClosed))] := by
  simp [Call.run, tryOnConnection, (h.frozen (.holdHandle s)).close]

theorem Call.run_destroy (h : s.IsDestroyed) :
    Call.run .destroy s = .follow s.holdHandle [.releaseHandle, .answer .done] := by
  simp [Call.run, onConnection, (h.frozen (.holdHandle s)).destroy, Next.andThen, Next.only, Next.follow]

theorem Call.run_transportClosed (h : s.IsDestroyed) :
    Call.run .transportClosed s = .follow s.holdHandle [.releaseHandle, .answer .done] := by
  simp [Call.run, onConnection, (h.frozen (.holdHandle s)).transportClosed, Next.andThen, Next.only,
    Next.follow]

theorem Call.run_register (h : s.IsDestroyed) (n : Nat) :
    Call.run (.register n) s = .follow s [.answer (.registered (.error .illegalState))] := by
  simp [Call.run, h.register]

theorem Call.run_sendOn (h : s.IsDestroyed) (c : Nat) (body : Body) : Call.run (.sendOn c body) s =
    .follow (s.hold (.channel c)) [.release (.channel c), .answer (.channel (.error .detached))] := by
  simp [Call.run, onChannel, (h.frozen (.hold s (.channel c))).sendOn, Next.andThen, Next.only,
    Next.follow]

theorem Call.exists_run_closeChannel (h : s.IsDestroyed) (c : Nat) :
    ∃ result, Call.run (.closeChannel c) s =
      .follow (s.hold (.channel c)) [.release (.channel c), .answer (.channel result)] := by
  obtain ⟨result, hcl⟩ := (h.frozen (.hold s (.channel c))).closeChannel c
  exact ⟨result, by simp [Call.run, onChannel, hcl, Next.andThen, Next.only, Next.follow]⟩

theorem Call.run_dropChannel (h : s.IsDestroyed) (c : Nat) : Call.run (.dropChannel c) s =
    .follow (s.mapChannel c fun ch => { ch with owned := ch.owned - 1 }) [.answer .done] := by
  have hf := Frozen.mapChannel s c (f := fun ch => { ch with owned := ch.owned - 1 }) fun _ => rfl
  simp [Call.run, (h.frozen hf).whenLost, Next.andThen, Next.only, Next.follow]

end Calls

/-- A call ends without notice, if it does not take an endpoint out of the registry. -/
theorem Call.idles (c : Call) {s : Store} (hd : s.IsDestroyed) (hc : ∀ n, c ≠ .unregister n) :
    Next.Idles s (c.run s) := by
  have hend : ∀ outcome, ∀ t ∈ [Task.releaseHandle, .answer outcome], t.isHarmless = true := by
    simp [Task.isHarmless]
  cases c with
  | parse buffer => exact Next.Idles.follow (.holdHandle s) (by simp [Task.isHarmless])
  | send f =>
    rw [run_send hd]
    exact Next.Idles.follow (.refl s) (by simp [Task.isHarmless])
  | close =>
    rw [run_close hd]
    exact Next.Idles.follow (.refl s) (by simp [Task.isHarmless])
  | destroy =>
    rw [run_destroy hd]
    exact Next.Idles.follow (.holdHandle s) (hend _)
  | transportClosed =>
    rw [run_transportClosed hd]
    exact Next.Idles.follow (.holdHandle s) (hend _)
  | register n =>
    rw [run_register hd]
    exact Next.Idles.follow (.refl s) (by simp [Task.isHarmless])
  | unregister n => exact absurd rfl (hc n)
  | openChannel =>
    obtain ⟨result, s', ho, hf⟩ := (hd.frozen (.holdHandle s)).openChannel
    have hr : Call.run .openChannel s =
        .follow s' [.releaseHandle, .answer (.opened s.channels.length result)] := by
      simp [Call.run, ho, Next.andThen, Next.only, Next.follow]
    rw [hr]
    exact Next.Idles.follow (.trans (.holdHandle s) hf) (hend _)
  | sendOn c body =>
    rw [run_sendOn hd]
    exact Next.Idles.follow (.hold s _) (by simp [Task.isHarmless])
  | closeChannel c =>
    obtain ⟨result, hr⟩ := exists_run_closeChannel hd c
    rw [hr]
    exact Next.Idles.follow (.hold s _) (by simp [Task.isHarmless])
  | dropChannel c =>
    rw [run_dropChannel hd]
    exact Next.Idles.follow (.mapChannel s c fun _ => rfl) (by simp [Task.isHarmless])
  | cloneHandle =>
    exact Next.Idles.follow (.handles s _ _) (by simp [Task.isHarmless])
  | dropHandle => exact Next.Idles.follow (.handles s _ _) (hend _)
  | cloneChannel c =>
    exact Next.Idles.follow (.mapChannel s c fun _ => rfl) (by simp [Task.isHarmless])
  | newEndpoint id =>
    exact Next.Idles.follow ⟨rfl, rfl, rfl, rfl, fun _ => rfl⟩ (by simp [Task.isHarmless])
  | setEndpointId n id | dropEndpoint n =>
    exact Next.Idles.follow (.mapEndpoint s n _) (by simp [Task.isHarmless])

end Session

/-! ## What is left loud -/

namespace Task

theorem isLoud_unregister_iff {s : Store} {e : EndpointRef} : (unregister e).isLoud s = true ↔
    s.idOf e ≠ 0 ∧ s.connection.registry.get? (s.idOf e) = some e := by
  simp [isLoud]

/-- Only the registry and the ids of channels tell whether a task is loud. -/
theorem isLoud_of_frozen {t : Task} {s s' : Store} (ht : ∀ n, t ≠ .unregister (.custom n))
    (h : s.Frozen s') : t.isLoud s' = t.isLoud s := by
  cases t with
  | clearRegistry => rw [isLoud, isLoud, h.registry]
  | unregister e =>
    cases e with
    | custom n => exact absurd rfl (ht n)
    | channel c =>
      have hid : s'.idOf (.channel c) = s.idOf (.channel c) := h.ids c
      rw [isLoud, isLoud, h.registry, hid]
  | _ => rfl

theorem isLoud_of_plain_eq {t t' : Task} {s : Store} (h : t'.plain = t.plain) :
    t'.isLoud s = t.isLoud s := by
  cases t with
  | tuned | handled => cases t' <;> first | rfl | cases h
  | _ => rw [eq_of_plain_eq h rfl]

theorem ne_unregister_of_isProper {t : Task} (h : t.isProper = true) (n : Nat) :
    t ≠ .unregister (.custom n) := by
  rintro rfl
  cases h

theorem ne_unregister_of_isHarmless {t : Task} (h : t.isHarmless = true) (n : Nat) :
    t ≠ .unregister (.custom n) := by
  rintro rfl
  cases h

end Task

/-- Taking an endpoint out of the registry makes nothing loud. -/
theorem Task.isLoud_unregister {t : Task} {s : Store} (h : t.isLoud s = false) (e : EndpointRef) :
    t.isLoud (s.unregister e) = false := by
  cases t with
  | notify | channelClosedByPeer => cases h
  | clearRegistry =>
    have hempty : s.connection.registry.entries.isEmpty = true := by simpa [isLoud] using h
    have := Registry.isEmpty_release hempty (s.idOf e) e
    simpa [isLoud] using this
  | unregister e' =>
    by_contra hl
    rw [Bool.not_eq_false] at hl
    have hid : (s.unregister e).idOf e' = s.idOf e' := by cases e' <;> rfl
    rw [isLoud_unregister_iff, hid] at hl
    have hold : (unregister e').isLoud s = true :=
      isLoud_unregister_iff.2 ⟨hl.1, Registry.get?_of_get?_release hl.2⟩
    rw [h] at hold
    cases hold
  | _ => rfl

namespace Session

/-! ## Silent steps -/

/-- Nobody notices the step, but that endpoints are told that they are cut off, calls return, and
user code may take an endpoint of its own out of the registry. -/
structure Silent (σ τ : Session) : Prop where
  log : ∃ es, τ.log = es ++ σ.log ∧ ∀ e ∈ es, e.isQuiet = true
  state : τ.store.connection.state = σ.store.connection.state
  queue : τ.store.connection.queue = σ.store.connection.queue
  registry : τ.store.connection.registry = σ.store.connection.registry ∨
    ∃ n, σ.call? (.unregister n) = some τ

/-- The connection is destroyed, and what is left is not loud. -/
structure IsCalm (σ : Session) : Prop where
  destroyed : σ.store.IsDestroyed
  calm : ∀ t ∈ σ.tasks, t.isLoud σ.store = false

theorem Silent.of_idles {σ : Session} {n : Next} (h : Next.Idles σ.store n)
    (rest : List Task) : Silent σ (proceed n σ.log rest) where
  log := ⟨n.log.reverse, rfl, fun e he => h.quiet e (List.mem_reverse.1 he)⟩
  state := h.frozen.state
  queue := h.frozen.queue
  registry := .inl h.frozen.registry

theorem IsCalm.of_idles {σ : Session} {n : Next} (hσ : σ.IsCalm) (hp : σ.IsProper)
    (h : Next.Idles σ.store n) {rest : List Task} (hr : ∀ t ∈ rest, t ∈ σ.tasks) :
    (proceed n σ.log rest).IsCalm where
  destroyed := hσ.destroyed.frozen h.frozen
  calm t ht := by
    rw [proceed_tasks, below, h.fault] at ht
    rcases List.mem_append.1 ht with ht | ht
    · exact Task.isLoud_of_isHarmless (h.harmless t ht) _
    · have hm := hr t ht
      rw [← hσ.calm t hm]
      exact Task.isLoud_of_frozen (Task.ne_unregister_of_isProper (hp t hm)) h.frozen

/-- Calm lasts, and each of its steps is silent. -/
theorem IsCalm.step {σ τ : Session} (hσ : σ.IsCalm) (hp : σ.IsProper) (h : Step σ τ) :
    Silent σ τ ∧ τ.IsCalm := by
  obtain ⟨t, rest, n, ht, hn, rfl⟩ | ⟨c, hi, hl, rfl⟩ | ⟨cb, r, rest, ht, rfl⟩ := h.cases_on_stack
  · have hidle := Task.idles hσ.destroyed (hσ.calm t (by rw [ht]; exact List.mem_cons_self)) hn
    exact ⟨.of_idles hidle rest,
      hσ.of_idles hp hidle fun t' ht' => by rw [ht]; exact List.mem_cons_of_mem _ ht'⟩
  · by_cases hc : ∃ n, c = .unregister n
    · obtain ⟨n, rfl⟩ := hc
      refine ⟨⟨⟨[], rfl, by simp⟩, rfl, rfl, .inr ⟨n, call?_eq_some_iff.2 ⟨hi, hl, rfl⟩⟩⟩,
        ⟨hσ.destroyed.dead, hσ.destroyed.closed⟩, ?_⟩
      intro t ht
      rcases List.mem_cons.1 ht with rfl | ht
      · rfl
      · exact Task.isLoud_unregister (hσ.calm t ht) _
    · have hidle := c.idles hσ.destroyed fun n he => hc ⟨n, he⟩
      exact ⟨.of_idles hidle _, hσ.of_idles hp hidle fun t ht => ht⟩
  · refine ⟨⟨⟨[], rfl, by simp⟩, rfl, rfl, .inl rfl⟩, hσ.destroyed, ?_⟩
    intro t ht'
    obtain ⟨t', hm, he⟩ := exists_mem_of_map_plain_eq (map_plain_answerWith cb r rest) ht'
    rw [← Task.isLoud_of_plain_eq he]
    exact hσ.calm t' (by rw [ht]; exact List.mem_cons_of_mem _ hm)

theorem IsCalm.reaches {σ τ : Session} (hσ : σ.IsCalm) (hr : σ.Reachable) (h : Reaches σ τ) :
    τ.IsCalm ∧ τ.Reachable := by
  refine h.induction (P := fun σ => σ.IsCalm ∧ σ.Reachable) ?_ ⟨hσ, hr⟩
  rintro σ τ ⟨hc, hr⟩ hs
  exact ⟨(hc.step hr.isProper hs).2, hr.step hs⟩

/-! ## Down to the first loud task -/

theorem answerWith_done (cb : Callback) (rest : List Task) : answerWith cb .done rest = rest := by
  cases cb <;> rfl

/-- If user code returns at once, what is not loud is done before long. -/
theorem drain {σ : Session} (hd : σ.store.IsDestroyed) {above below : List Task}
    (ht : σ.tasks = above ++ below) (hl : ∀ t ∈ above, t.isLoud σ.store = false)
    (hu : ∀ t ∈ above, ∀ n, t ≠ .unregister (.custom n)) :
    ∃ τ, Reaches σ τ ∧ τ.tasks = below ∧ σ.store.Frozen τ.store := by
  -- every step but a call leaves less work
  induction hw : σ.effort using Nat.strong_induction_on generalizing σ above with
  | _ w ih =>
    cases above with
    | nil => exact ⟨σ, .refl, ht, .refl _⟩
    | cons t above =>
      by_cases hcb : ∃ cb, t = .user cb
      · obtain ⟨cb, rfl⟩ := hcb
        have hreturn : σ.return? .done = some { σ with tasks := above ++ below } := by
          refine return?_eq_some_iff.2 ⟨cb, above ++ below, ht, ?_⟩
          rw [answerWith_done]
        have hlt := effort_lt_of_next? (a := some (.return .done)) hreturn nofun
        obtain ⟨τ, hr, hτ, hf⟩ := ih _ (hw ▸ hlt) (σ := { σ with tasks := above ++ below }) hd rfl
          (fun t ht => hl t (List.mem_cons_of_mem _ ht))
          (fun t ht => hu t (List.mem_cons_of_mem _ ht)) rfl
        exact ⟨τ, .head (.return .done hreturn) hr, hτ, hf⟩
      · obtain ⟨n, hn⟩ : ∃ n, t.run σ.store = some n := by
          rw [← Option.isSome_iff_exists, Option.isSome_iff_ne_none, ne_eq, Task.run_eq_none_iff]
          exact hcb
        have hidle := Task.idles hd (hl t List.mem_cons_self) hn
        have htick : σ.tick = some (proceed n σ.log (above ++ below)) :=
          tick_eq_some_iff.2 ⟨t, above ++ below, n, ht, hn, rfl⟩
        have hlt := effort_lt_of_next? (a := none) htick nofun
        have ht' : (proceed n σ.log (above ++ below)).tasks = (n.tasks ++ above) ++ below := by
          rw [proceed_tasks, Session.below, hidle.fault, List.append_assoc]
        have hu' : ∀ t' ∈ n.tasks ++ above, ∀ n, t' ≠ .unregister (.custom n) := by
          intro t' ht'
          rcases List.mem_append.1 ht' with ht' | ht'
          · exact Task.ne_unregister_of_isHarmless (hidle.harmless t' ht')
          · exact hu t' (List.mem_cons_of_mem _ ht')
        have hl' : ∀ t' ∈ n.tasks ++ above, t'.isLoud n.store = false := by
          intro t' ht'
          rw [Task.isLoud_of_frozen (hu' t' ht') hidle.frozen]
          rcases List.mem_append.1 ht' with ht' | ht'
          · exact Task.isLoud_of_isHarmless (hidle.harmless t' ht') _
          · exact hl t' (List.mem_cons_of_mem _ ht')
        obtain ⟨τ, hr, hτ, hf⟩ := ih _ (hw ▸ hlt) (σ := proceed n σ.log (above ++ below))
          (hd.frozen hidle.frozen) ht' hl' hu' rfl
        exact ⟨τ, .head (.tick htick) hr, hτ, hidle.frozen.trans hf⟩

/-- A callback that is no `invalidate` is noticed. -/
theorem not_silent_of_started {σ τ : Session} {cb : Callback} (hcb : (Event.started cb).isQuiet = false)
    (h : τ.log = .started cb :: σ.log) : ¬ Silent σ τ := by
  intro hs
  obtain ⟨es, he, hq⟩ := hs.log
  rw [h, ← List.singleton_append, List.append_left_inj] at he
  rw [← he] at hq
  rw [hq _ (List.mem_singleton.2 rfl)] at hcb
  cases hcb

theorem not_silent_of_registry {σ τ : Session} {t : Task} {rest : List Task} (ht : σ.tasks = t :: rest)
    (hu : ∀ cb, t ≠ .user cb)
    (h : τ.store.connection.registry ≠ σ.store.connection.registry) : ¬ Silent σ τ := by
  intro hs
  rcases hs.registry with hr | ⟨n, hc⟩
  · exact h hr
  · have hi := (call?_eq_some_iff.1 hc).1
    rw [isIdle, ht] at hi
    cases t with
    | user cb => exact hu cb rfl
    | _ => cases hi

/-- What a loud task does is noticed. -/
theorem exists_not_silent {σ : Session} {t : Task} {rest : List Task} (ht : σ.tasks = t :: rest)
    (hp : t.isProper = true) (hl : t.isLoud σ.store = true) : ∃ τ, Step σ τ ∧ ¬ Silent σ τ := by
  have step : ∀ n, t.run σ.store = some n → Step σ (proceed n σ.log rest) :=
    fun n hn => .tick (tick_eq_some_iff.2 ⟨t, rest, n, ht, hn, rfl⟩)
  cases t with
  | notify cb =>
    refine ⟨_, step _ rfl, not_silent_of_started ?_ rfl⟩
    cases cb <;> first | rfl | cases hp
  | channelClosedByPeer c text =>
    exact ⟨_, step _ rfl, not_silent_of_started rfl rfl⟩
  | clearRegistry =>
    refine ⟨_, step _ rfl, not_silent_of_registry ht (by simp) ?_⟩
    show σ.store.clearRegistry.1.connection.registry ≠ _
    rw [Store.connection_clearRegistry]
    intro hr
    have hempty : σ.store.connection.registry.entries.isEmpty = true := by
      rw [← hr]
      rfl
    simp [Task.isLoud, hempty] at hl
  | unregister e =>
    refine ⟨_, step _ rfl, not_silent_of_registry ht (by simp) ?_⟩
    obtain ⟨hid, hget⟩ := Task.isLoud_unregister_iff.1 hl
    show σ.store.connection.registry.release (σ.store.idOf e) e ≠ _
    intro hr
    rw [Registry.release, if_pos ⟨hid, hget⟩] at hr
    rw [← hr] at hget
    have hnone : (σ.store.connection.registry.entries.erase (σ.store.idOf e))[σ.store.idOf e]? = none := by
      simp
    exact absurd (hnone.symm.trans hget) (by simp)
  | _ => cases hl

/-- Once a connection is destroyed, all that follows is silent exactly if none of the work that was
left is loud. -/
theorem silent_iff {σ : Session} (h : σ.Reachable) (ha : σ.store.connection.alive = false) :
    (∀ τ υ, Reaches σ τ → Step τ υ → Silent τ υ) ↔ ∀ t ∈ σ.tasks, t.isLoud σ.store = false := by
  have hd : σ.store.IsDestroyed := ⟨ha, h.state_of_not_alive ha⟩
  constructor
  · intro hs
    by_contra hloud
    -- a run in which user code returns at once gets to the first loud task
    obtain ⟨t, hfirst⟩ : ∃ t, σ.tasks.find? (·.isLoud σ.store) = some t := by
      rw [← Option.isSome_iff_exists, List.find?_isSome]
      simpa using hloud
    obtain ⟨hl, above, below, ht, hcalm⟩ := List.find?_eq_some_iff_append.1 hfirst
    have hm : t ∈ σ.tasks := List.mem_of_find?_eq_some hfirst
    obtain ⟨τ, hr, hτ, hf⟩ := drain hd ht
      (fun t' ht' => by simpa using hcalm t' ht')
      fun t' ht' => Task.ne_unregister_of_isProper (h.isProper t' (by rw [ht]; exact List.mem_append_left _ ht'))
    have hp := h.isProper t hm
    have hlτ : t.isLoud τ.store = true := by
      rw [Task.isLoud_of_frozen (Task.ne_unregister_of_isProper hp) hf]
      exact hl
    obtain ⟨υ, hstep, hns⟩ := exists_not_silent hτ hp hlτ
    exact hns (hs τ υ hr hstep)
  · intro hcalm τ υ hr hs
    obtain ⟨hc, hτ⟩ := IsCalm.reaches ⟨hd, hcalm⟩ h hr
    exact (hc.step hτ.isProper hs).1

/-- User code destroys the connection when it learns that it is established. -/
theorem silent_after_connected :
    ∃ σ : Session, σ.Reachable ∧ σ.store.connection.alive = false ∧ σ.tasks.length = 3 ∧
      ∀ τ υ, Reaches σ τ → Step τ υ → Silent τ υ := by
  obtain ⟨σ, hσ, he⟩ := exists_reaches_of_play
    (negotiate ++ [some (.call .destroy)] ++ pass 2 ++ [none, none, none, none, none, none])
    (connect .standard)
    (fun σ => (σ.store.connection.alive, σ.tasks.length, σ.tasks.all fun t => !t.isLoud σ.store))
    (a := (false, 3, true)) (by decide +kernel)
  simp only [Prod.mk.injEq] at he
  refine ⟨σ, ⟨.standard, hσ⟩, he.1, he.2.1, (silent_iff ⟨.standard, hσ⟩ he.1).2 ?_⟩
  simpa using he.2.2

/-- The peer closes a channel, and user code destroys the connection while the answer goes out: the
channel's user is told of the peer's close nevertheless. -/
theorem not_silent_after_destroy :
    ∃ σ τ : Session, σ.Reachable ∧ σ.store.connection.alive = false ∧ Step σ τ ∧
      τ.log = .started (.channelError 0 "bye") :: σ.log ∧ ¬ Silent σ τ := by
  obtain ⟨σ, hσ, he⟩ := exists_reaches_of_play
    (establish ++ [some (.call .openChannel)] ++ pass 0 ++ [none, none, none,
      some (.call (.parse ((Frame.ofChannel 1 .openOk).toWire.octets ++
        (Frame.ofChannel 1 (.close (.plain replySuccess "bye"))).toWire.octets)))] ++
      pass 1 ++ [none, none, none, none, some (.call .destroy)] ++ pass 1 ++ pass 4 ++ pass 8)
    (connect .standard)
    (fun σ => (σ.store.connection.alive,
      σ.tasks.head?.bind fun
        | .channelClosedByPeer c text => some (c, text)
        | _ => none))
    (a := (false, some (0, "bye"))) (by decide +kernel)
  obtain ⟨ha, hhead⟩ := Prod.mk.inj he
  obtain ⟨t, ht, hcase⟩ := Option.bind_eq_some_iff.1 hhead
  obtain ⟨rest, hrest⟩ := List.head?_eq_some_iff.1 ht
  split at hcase
  · cases hcase
    have hlog : ∀ n, (Task.channelClosedByPeer 0 "bye").run σ.store = some n →
        (proceed n σ.log rest).log = .started (.channelError 0 "bye") :: σ.log := by
      intro n hn
      cases hn
      rfl
    exact ⟨σ, _, ⟨.standard, hσ⟩, ha, .tick (tick_eq_some_iff.2 ⟨_, rest, _, hrest, rfl, rfl⟩),
      hlog _ rfl, not_silent_of_started rfl (hlog _ rfl)⟩
  · cases hcase

end Session

end AmqpSession
