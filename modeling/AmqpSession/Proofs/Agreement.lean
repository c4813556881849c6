/-
Channels and the registry agree throughout a run (`Reachable.tracks`). Where nothing is left to do, the
registry names exactly the channels that user code holds and that can still reach their connection
(`registered_iff_attached`), so an established connection is then at rest (`Reachable.rests`).
-/
import AmqpSession.Proofs.Delivery
import AmqpSession.Proofs.Tracking
import Mathlib.Data.Set.Function

namespace AmqpSession

open Wire

/-! ## Tasks and calls -/

open Store Next

/-- A task passes on its part in the channel, or plays it. -/
theorem Task.run_carries (c : Nat) {t : Task} {s : Store} {n : Next} (h : t.run s = some n) :
    Carries c s (t.stake c) n := by
  cases t with
  | user cb => cases h
  | notify cb => cases h; exact .only s
  | notifyAlive cb => cases h; exact .ite fun _ => .only s
  | answer outcome =>
    cases h
    refine .of_spares (.of_eq rfl rfl rfl) ?_
    show 0 + records c [.answered outcome] = _
    rw [records_cons, records_nil, add_zero, zero_add]
    rfl
  | releaseHandle => cases h; exact releaseHandle_carries c s
  | loseHandle => cases h; exact .of_spares (.of_eq rfl rfl rfl) rfl
  | release e => cases h; exact release_carries c s e
  | unregister e => cases h; exact unregister_carries c s e
  | parse buffer processed => cases h; exact parse_carries c s buffer processed
  | handled e p fault =>
    cases e with
    | some e => cases h; exact .of_spares (.of_eq rfl rfl rfl) (add_zero _)
    | none =>
      cases fault with
      | none => cases h; exact .only s
      | some v => cases h; exact report_carries c s v _
  | tuned limits =>
    cases h
    refine .ite fun _ => ?_
    exact (evict_carries c (s.setLimits limits) limits).from_spares
      ⟨rfl, fun _ => Iff.rfl, fun ha => ha, Nat.le_refl _⟩
  | evict surplus limits =>
    cases h
    split
    · exact evictNext_carries c s surplus limits
    · rename_i ha
      exact fun r hr => Tracks.forgotten (w := r) hr (Nat.le_add_right _ _) fun ha' => absurd ha' ha
  | requestHost => cases h; exact .ite fun _ => reply_carries c s _ rfl
  | announce => cases h; exact .ite fun _ => .only s
  | flush =>
    cases h
    split
    · exact .ite fun _ => .of_spares (.of_eq rfl rfl rfl) rfl
    · exact .only s
  | closeEach es =>
    cases es with
    | nil => cases h; exact .only s
    | cons e es =>
      cases h
      split
      · rw [Task.stake, held_cons]
        exact (closeEndpoint_carries c s e).andThen [.release e, .closeEach es]
      · refine .of_spares (.of_eq rfl rfl rfl) ?_
        show stakes c ((e :: es).map .release) + 0 = _
        rw [stakes_map_release]
        rfl
  | sendClose => cases h; exact .ite fun _ => (offer_carries c s _).andThen_zero rfl
  | awaitCloseOk => cases h; exact .ite fun _ => .of_spares (.of_eq rfl rfl rfl) rfl
  | clearRegistry => cases h; exact clearRegistry_carries c s rfl
  | invalidateEach es =>
    cases es with
    | nil => cases h; exact .only s
    | cons e es => cases h; exact invalidateNext_carries c s e es
  | destroyed =>
    cases h
    exact .of_spares ⟨rfl, fun _ => Iff.rfl, fun ha => absurd ha Bool.false_ne_true, Nat.le_refl _⟩ rfl
  | closedByPeer reason =>
    cases h
    refine .ite fun _ => shut_carries c s ?_
    unfold afterPeersClose
    split <;> rfl
  | channelClosedByPeer d text => cases h; exact fun r hr => hr.retire_of
  | flowReply d active => cases h; exact .ite fun _ => reply_carries c s _ rfl
  | handOver d => cases h; exact handOver_carries c s d
  | handOverConnection => cases h; exact .of_spares (.of_eq rfl rfl rfl) rfl

namespace Session

theorem onChannel_carries (c : Nat) {s : Store} {d : Nat} {n : Store → Except ChannelError Unit × Next}
    (hl : s.isLive (.channel d) = true)
    (h : Carries c (s.hold (.channel d)) 0 (n (s.hold (.channel d))).2) :
    Carries c s 0 (onChannel s d n) :=
  hold_carries c hl (h.andThen [.release (.channel d), .answer (.channel _)])

theorem onConnection_carries (c : Nat) {s : Store} {n : Store → Next}
    (h : Carries c s.holdHandle 0 (n s.holdHandle)) : Carries c s 0 (onConnection s n) :=
  (h.andThen_zero rfl).from_spares (spares_holdHandle c s)

theorem tryOnConnection_carries (c : Nat) {ε : Type} {s : Store} {outcome : Except ε Unit → Outcome}
    (ho : ∀ x, (Task.answer (outcome x)).stake c = 0) {n : Store → Except ε Next}
    (h : ∀ m, n s.holdHandle = .ok m → Carries c s.holdHandle 0 m) :
    Carries c s 0 (tryOnConnection s outcome n) := by
  have hanswer : ∀ x, stakes c [.answer (outcome x)] = 0 := by
    intro x
    rw [stakes_cons, ho, zero_add]
    rfl
  unfold tryOnConnection
  split
  · rename_i m hm
    refine ((h m hm).andThen_zero ?_).from_spares (spares_holdHandle c s)
    rw [stakes_cons, hanswer]
    rfl
  · exact (Carries.only s).andThen_zero (hanswer _)

/-- A channel that user code has one more handle of. -/
theorem cloneChannel_carries (c : Nat) {s : Store} {d : Nat} (hl : s.isLive (.channel d) = true) :
    Carries c s 0 (.only (s.mapChannel d fun ch => { ch with owned := ch.owned + 1 })) := by
  by_cases hd : c = d
  · subst hd
    have hh := isLive_channel_iff.1 hl
    have hlt := lt_length_of_hasHolder hh
    intro r hr
    have ht := hr.toNearlyTracks.regrips hlt (k := r.held)
      (f := fun ch => { ch with owned := ch.owned + 1 }) ⟨rfl, rfl, rfl, fun _ => hh⟩ hr.held
    refine NearlyTracks.tracks (w := r) ht ?_
    show ((s.mapChannel c _).channel c).HasHolder
    rw [channel_mapChannel s hlt]
    exact Nat.ne_of_gt (Nat.add_pos_left (Nat.succ_pos _) _)
  · exact .of_spares (.mapChannel hd s _) rfl

/-- A handle of a channel that user code drops. -/
theorem dropChannel_carries (c : Nat) {s : Store} {d : Nat} (ho : (s.channel d).owned ≠ 0) :
    Carries c s 0
      ((s.mapChannel d fun ch => { ch with owned := ch.owned - 1 }).whenLost (.channel d)) := by
  by_cases hd : c = d
  · subst hd
    have hlt := lt_length_of_owned ho
    intro r hr
    have hh : (s.channel c).HasHolder := by rw [Channel.HasHolder]; omega
    exact whenLost_carries (w := r)
      (hr.toNearlyTracks.regrips hlt ⟨rfl, rfl, rfl, fun _ => hh⟩ (k := r.held) hr.held)
  · exact (whenLost_spares c fun he => hd (EndpointRef.channel.inj he).symm).from_spares
      (.mapChannel hd s _)

theorem Call.run_carries (c : Nat) {call : Call} {s : Store} (hl : call.isLegal s = true) :
    Carries c s 0 (call.run s) := by
  cases call with
  | parse buffer => exact .of_spares (spares_holdHandle c s) rfl
  | send f => exact tryOnConnection_carries c (fun _ => rfl) fun m hm => send_carries c hm
  | close => exact tryOnConnection_carries c (fun _ => rfl) fun m hm => close_carries c hm
  | destroy => exact onConnection_carries c (destroy_carries c _)
  | transportClosed => exact onConnection_carries c (transportClosed_carries c _)
  | register n => exact .of_spares (register_spares c s n) rfl
  | unregister n => exact .of_spares (.unregister (fun he => by cases he) s) rfl
  | openChannel =>
    exact (openChannel_carries c s.holdHandle).from_spares (spares_holdHandle c s)
  | sendOn d body =>
    refine onChannel_carries c hl ?_
    split
    · rename_i n h; exact sendOn_carries c h
    · exact .only _
  | closeChannel d => exact onChannel_carries c hl (closeChannel_carries c _ d)
  | cloneHandle => exact .of_spares (.of_eq rfl rfl rfl) rfl
  | dropHandle => exact .of_spares (.of_eq rfl rfl rfl) rfl
  | cloneChannel d =>
    show Carries c s 0 (.andThen (.only _) [.answer .done])
    exact (cloneChannel_carries c hl).andThen_zero rfl
  | dropChannel d => exact (dropChannel_carries c (bne_iff_ne.1 hl)).andThen_zero rfl
  | newEndpoint id => exact .of_spares (.of_eq rfl rfl rfl) rfl
  | setEndpointId n id => exact .of_spares (.of_eq rfl rfl rfl) rfl
  | dropEndpoint n => exact .of_spares (.of_eq rfl rfl rfl) rfl

/-! ## Throughout a run -/

/-- Every channel is in step with the registry, with what is left to do and with what was noted. -/
theorem Reachable.tracks {σ : Session} (h : σ.Reachable) (c : Nat) :
    σ.store.Tracks c (stakes c σ.tasks + records c σ.log) := by
  refine h.induction (P := fun σ => σ.store.Tracks c (stakes c σ.tasks + records c σ.log)) ?_ ?_
  · intro o
    have hnew : (Store.new o).Tracks c 0 := {
      attached := ⟨nofun, fun h => absurd rfl h⟩
      held := rfl
      named := nofun
      known := fun _ hat => by cases hat
      left := fun hw => absurd rfl hw
      none := fun _ => ⟨rfl, rfl, rfl⟩
      failed := fun hw => absurd rfl hw
      leaves := fun _ hn => by cases hn }
    have hn := (offer_carries c (Store.new o) .greeting).andThen [.handOverConnection, .answer .done]
      0 hnew
    rw [zero_add] at hn
    have hlog : records c (connect o).log = records c ((Store.new o).offer .greeting).log := by
      show records c (_ ++ []) = _
      rw [List.append_nil, records_reverse]
    rw [hlog]
    exact hn
  · intro σ τ _ hσ hs
    have hproceed : ∀ {s : Store} {w : Stake} {n : Next} {rest : List Task}, Carries c s w n →
        s.Tracks c (w + stakes c rest + records c σ.log) →
        (proceed n σ.log rest).store.Tracks c
          (stakes c (proceed n σ.log rest).tasks + records c (proceed n σ.log rest).log) := by
      intro s w n rest hn hs
      rw [proceed_tasks, stakes_append, stakes_of_map_plain c (map_plain_below n rest)]
      show n.store.Tracks c (_ + records c (n.log.reverse ++ σ.log))
      rw [records_append, records_reverse, add_add_add_comm, add_comm]
      rw [add_assoc, add_comm] at hs
      exact hn _ hs
    obtain ⟨t, rest, n, ht, hn, rfl⟩ | ⟨call, -, hl, rfl⟩ | ⟨cb, r, rest, ht, rfl⟩ := hs.cases_on_stack
    · rw [ht, stakes_cons] at hσ
      exact hproceed (Task.run_carries c hn) hσ
    · exact hproceed (Call.run_carries c hl) ((zero_add (stakes c σ.tasks)).symm ▸ hσ)
    · rw [ht, stakes_cons, show (Task.user cb).stake c = 0 from rfl, zero_add] at hσ
      rw [stakes_of_map_plain c (map_plain_answerWith cb r rest)]
      exact hσ

/-- What was noted of a channel leaves nothing to do. -/
theorem records_eq (c : Nat) (es : List Event) : records c es = { failed := (records c es).failed } := by
  induction es with
  | nil => rfl
  | cons e es ih =>
    have he : e.stake c = { failed := (e.stake c).failed } := by
      cases e with
      | answered outcome =>
        cases outcome with
        | opened d result =>
          cases result with
          | ok => rfl
          | error => simp only [Event.stake, Task.stake, EndpointRef.stake]; split <;> rfl
        | _ => rfl
      | _ => rfl
    rw [records_cons, ih, he]
    rfl

theorem failed_of_mem {c : Nat} {es : List Event} {e : OpenChannelError}
    (h : .answered (.opened c (.error e)) ∈ es) : (records c es).failed ≠ 0 := by
  obtain ⟨before, after, rfl⟩ := List.append_of_mem h
  have hone : (Event.answered (.opened c (.error e))).stake c = { failed := 1 } := stake_self c _
  rw [records_append, records_cons, hone, Stake.failed_add, Stake.failed_add]
  dsimp only
  omega

/-! ## At rest -/

section Rest

variable {σ : Session}

/-- Where no work is left, a channel is in step with the registry by itself. -/
theorem Reachable.tracks_of_rest (h : σ.Reachable) (ht : σ.tasks = []) (c : Nat) :
    σ.store.Tracks c { failed := (records c σ.log).failed } := by
  have := h.tracks c
  rwa [ht, stakes_nil, zero_add, records_eq] at this

theorem Reachable.hasHolder_iff (h : σ.Reachable) (ht : σ.tasks = []) (c : Nat) :
    (σ.store.channel c).HasHolder ↔ (σ.store.channel c).owned ≠ 0 := by
  rw [Channel.HasHolder, (h.tracks_of_rest ht c).held]
  rfl

theorem reaches_iff_attached (ha : σ.store.connection.alive = true) (c : Nat) :
    σ.store.reaches c = true ↔ (σ.store.channel c).attached = true := by
  rw [reaches, ha, Bool.and_true]

theorem Reachable.reaches_iff (h : σ.Reachable) (ht : σ.tasks = [])
    (ha : σ.store.connection.alive = true) (c : Nat) :
    σ.store.reaches c = true ↔ (σ.store.channel c).state ≠ .closed :=
  (reaches_iff_attached ha c).trans (h.tracks_of_rest ht c).attached

theorem Reachable.hasId_iff (h : σ.Reachable) (ht : σ.tasks = [])
    (ha : σ.store.connection.alive = true) (c : Nat) (id : UInt16) :
    σ.store.HasId c id ↔
      (σ.store.channel c).owned ≠ 0 ∧ σ.store.reaches c = true ∧ (σ.store.channel c).id = id := by
  have htracks := h.tracks_of_rest ht c
  rw [reaches_iff_attached ha]
  constructor
  · intro hn
    obtain ⟨-, hown, hat, -⟩ := htracks.named hn
    have hh := (htracks.leaves ha hn).resolve_right fun hw => hw rfl
    exact ⟨(h.hasHolder_iff ht c).1 hh, hat, hown⟩
  · rintro ⟨ho, hat, rfl⟩
    obtain ⟨id, hn⟩ | hout := htracks.known ha hat ((h.hasHolder_iff ht c).2 ho)
    · rwa [(htracks.named hn).2.1]
    · exact absurd rfl hout

/-- An established connection that user code holds is at rest once no work is left, unless an endpoint of
user code has an id. -/
theorem Reachable.rests (h : σ.Reachable) (ht : σ.tasks = [])
    (hs : σ.store.connection.state = .connected) (ho : σ.store.connection.owned ≠ 0)
    (hc : ∀ id k, σ.store.connection.registry.get? id ≠ some (.custom k)) : σ.store.Rests := by
  have ha := h.alive_of_connected hs
  refine ⟨hs, ha, ho, h.queue_eq_nil ht hs, fun c => (h.tracks_of_rest ht c).held, ?_, ?_⟩
  · intro id e hg
    cases e with
    | custom k => exact absurd hg (hc id k)
    | channel c =>
      obtain ⟨hown, hr, hid⟩ := (h.hasId_iff ht ha c id).1 hg
      exact ⟨c, rfl, hid, ((h.tracks_of_rest ht c).named hg).1, (reaches_iff_attached ha c).1 hr, hown,
        (h.reaches_iff ht ha c).1 hr⟩
  · intro c hown hst
    exact (h.hasId_iff ht ha c _).2 ⟨hown, (h.reaches_iff ht ha c).2 hst, rfl⟩

end Rest

/-- At rest the ids that the registry gave to channels are one to one with the channels that user code
holds and that reach their connection. A channel that user code holds is closed exactly if it does not
reach its connection, and one that was dropped or could not be opened has no id. -/
theorem registered_iff_attached {σ : Session} (h : σ.Reachable) (ht : σ.tasks = [])
    (ha : σ.store.connection.alive = true) :
    Set.BijOn (fun c => (σ.store.channel c).id)
      {c | (σ.store.channel c).owned ≠ 0 ∧ σ.store.reaches c = true} {id | ∃ c, σ.store.HasId c id} ∧
    (∀ c id, σ.store.HasId c id ↔
      (σ.store.channel c).owned ≠ 0 ∧ σ.store.reaches c = true ∧ (σ.store.channel c).id = id) ∧
    (∀ c, (σ.store.channel c).owned ≠ 0 →
      ((σ.store.channel c).state = .closed ↔ σ.store.reaches c = false)) ∧
    (∀ c, ((σ.store.channel c).owned = 0 ∨ ∃ e, .answered (.opened c (.error e)) ∈ σ.log) →
      ∀ id, ¬ σ.store.HasId c id) := by
  have hids := h.hasId_iff ht ha
  refine ⟨⟨?_, ?_, ?_⟩, hids, fun c _ => ?_, fun c hc id hn => ?_⟩
  · rintro c ⟨ho, hr⟩
    exact ⟨c, (hids c _).2 ⟨ho, hr, rfl⟩⟩
  · -- an id belongs to one endpoint only
    rintro c ⟨ho, hr⟩ d ⟨ho', hr'⟩ he
    have hc := (hids c _).2 ⟨ho, hr, he⟩
    have hd := (hids d _).2 ⟨ho', hr', rfl⟩
    exact EndpointRef.channel.inj (Option.some.inj (hc.symm.trans hd))
  · rintro id ⟨c, hn⟩
    obtain ⟨ho, hr, hown⟩ := (hids c id).1 hn
    exact ⟨c, ⟨ho, hr⟩, hown⟩
  · rw [← Bool.not_eq_true, h.reaches_iff ht ha, not_not]
  · obtain ⟨ho, hr, -⟩ := (hids c id).1 hn
    rcases hc with hz | ⟨e, he⟩
    · exact ho hz
    · have hat := (h.tracks_of_rest ht c).failed (failed_of_mem he)
      rw [(reaches_iff_attached ha c).1 hr] at hat
      cases hat

/-- The server allows one channel: the second of two is turned away, and a third is not opened. -/
def openOneTooMany : List (Option Act) :=
  greeted ++ openEarly ++ openEarly ++ [some (.call (.parse (offerOf 1)))] ++ pass 1 ++ pass 2 ++
    pass 2 ++ pass 1 ++ pass 2 ++ pass 1 ++ [none, none, none, none, some (.call .openChannel), none, none]

/-- Of three channels the first has an id, the second is closed, and the third has none. -/
theorem registered_iff_attached_evicted : ∃ σ : Session, σ.Reachable ∧ σ.tasks = [] ∧
    σ.store.connection.alive = true ∧ σ.store.HasId 0 1 ∧
    ((σ.store.channel 1).owned ≠ 0 ∧ (σ.store.channel 1).state = .closed) ∧
    ∀ id, ¬ σ.store.HasId 2 id := by
  obtain ⟨σ, hσ, he⟩ := exists_reaches_of_play openOneTooMany (connect .standard)
    (fun σ => (σ.tasks.isEmpty, σ.store.connection.alive, σ.store.channels))
    (a := (true, true, [⟨1, .opening, true, 1, 0⟩, ⟨2, .closed, false, 1, 0⟩, ⟨0, .closed, false, 0, 0⟩]))
    (by decide +kernel)
  simp only [Prod.mk.injEq, List.isEmpty_iff] at he
  obtain ⟨htasks, halive, hchannels⟩ := he
  obtain ⟨-, hids, hclosed, hnone⟩ := registered_iff_attached ⟨.standard, hσ⟩ htasks halive
  have hch : ∀ c, σ.store.channel c = ([⟨1, .opening, true, 1, 0⟩, ⟨2, .closed, false, 1, 0⟩,
      ⟨0, .closed, false, 0, 0⟩] : List Channel)[c]?.getD .gone := by
    intro c
    rw [Store.channel, hchannels]
  refine ⟨σ, ⟨.standard, hσ⟩, htasks, halive, (hids 0 1).2 ?_, ?_, hnone 2 (.inl ?_)⟩
  · rw [reaches, hch, halive]
    decide
  · refine ⟨by rw [hch]; decide, (hclosed 1 (by rw [hch]; decide)).2 ?_⟩
    rw [reaches, hch]
    rfl
  · rw [hch]
    rfl

end Session

end AmqpSession
