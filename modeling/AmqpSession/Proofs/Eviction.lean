/-
Channels over the limit. A tune that lowers it frees the highest ids, drops what is held back under them,
and turns their endpoints away one after the other, the highest id first (`callsBack_evict`). The others
keep what they have (`Store.Evicts`), and no frame of a channel that was turned away goes out any more
(`eviction_exact`).
-/
import AmqpSession.Proofs.Announcement
import AmqpSession.Proofs.Barred
import AmqpSession.Proofs.Containment
import Mathlib.Data.List.Sort

namespace AmqpSession

open Wire

/-! ## The ids over the limit -/

namespace Registry

theorem ids_ascend (r : Registry) : r.ids.Pairwise (· < ·) :=
  Std.TreeMap.ordered_keys.imp fun h => Std.compare_eq_lt.1 h

/-- The ids over the limit, ascending. -/
def excess (r : Registry) : List UInt16 :=
  if r.channelMax = 0 then [] else r.ids.drop r.channelMax.toNat

theorem map_fst_surplus (r : Registry) : r.surplus.map Prod.fst = r.excess.reverse := by
  unfold surplus excess
  split
  · rfl
  · rw [List.map_reverse, List.map_drop, map_fst_toList]

theorem mem_map_fst_surplus {r : Registry} {id : UInt16} :
    id ∈ r.surplus.map Prod.fst ↔ id ∈ r.excess := by
  rw [map_fst_surplus, List.mem_reverse]

theorem mem_map_snd_surplus {r : Registry} {e : EndpointRef} :
    e ∈ r.surplus.map Prod.snd ↔ ∃ id ∈ r.excess, r.get? id = some e := by
  rw [List.mem_map]
  constructor
  · rintro ⟨⟨id, e⟩, hmem, rfl⟩
    exact ⟨id, mem_map_fst_surplus.1 (List.mem_map_of_mem hmem), mem_surplus hmem⟩
  · rintro ⟨id, hgone, hid⟩
    obtain ⟨⟨id, e'⟩, hmem, rfl⟩ := List.mem_map.1 (mem_map_fst_surplus.2 hgone)
    exact ⟨_, hmem, Option.some.inj ((mem_surplus hmem).symm.trans hid)⟩

/-- The ids that stay in use are the smaller ones. -/
theorem ids_evict (r : Registry) : r.ids = r.evict.ids ++ r.excess := by
  obtain ⟨kept, hkept⟩ : ∃ kept, r.ids = kept ++ r.excess := by
    unfold excess
    split
    · exact ⟨r.ids, (List.append_nil _).symm⟩
    · exact ⟨_, (List.take_append_drop _ _).symm⟩
  have hsplit := r.ids_ascend
  rw [hkept, List.pairwise_append] at hsplit
  obtain ⟨hasc, -, hlt⟩ := hsplit
  have hmem : ∀ id, id ∈ r.evict.ids ↔ id ∈ kept := by
    intro id
    rw [mem_ids_iff, get?_evict]
    split
    · rename_i hgone
      refine ⟨?_, fun hid => ?_⟩
      · rintro ⟨e, ⟨⟩⟩
      · exact absurd (hlt id hid id (mem_map_fst_surplus.1 hgone)) (UInt16.lt_irrefl id)
    · rename_i hstays
      rw [← mem_ids_iff, hkept, List.mem_append, or_iff_left fun h => hstays (mem_map_fst_surplus.2 h)]
  rw [hkept, r.evict.ids_ascend.eq_of_mem_iff hasc hmem]

theorem length_ids_evict (r : Registry) :
    r.evict.ids.length = if r.channelMax = 0 then r.size else min r.channelMax.toNat r.size := by
  have hlen := congrArg List.length r.ids_evict
  rw [List.length_append, r.length_ids, excess] at hlen
  split at hlen
  · rename_i hz
    rw [if_pos hz, hlen]
    rfl
  · rename_i hz
    rw [List.length_drop, r.length_ids] at hlen
    rw [if_neg hz]
    omega

theorem excess_eq_nil {r : Registry} (h : r.channelMax = 0 ∨ r.size ≤ r.channelMax.toNat) :
    r.excess = [] := by
  unfold excess
  split
  · rfl
  · rename_i hz
    rw [List.drop_eq_nil_iff, length_ids]
    exact h.resolve_left hz

theorem evict_eq_self {r : Registry} (h : r.excess = []) : r.evict = r := by
  have hs : r.surplus = [] := by
    rw [← List.map_eq_nil_iff, map_fst_surplus, h]
    rfl
  rw [evict, hs]
  rfl

end Registry

/-! ## What turning away comes to -/

/-- What an endpoint is told that is turned away. -/
def EndpointRef.rejections : EndpointRef → List Callback
  | .channel c => [.channelError c Store.surplusReason, .channelClosed c]
  | .custom n => [.endpointReject n Store.surplusReason]

namespace Store

variable {s : Store} {id : UInt16} {e : EndpointRef} {c : Nat}

/-- Those that are gone are told nothing. -/
def rejections (s : Store) (e : EndpointRef) : List Callback := if s.isLive e then e.rejections else []

/-- What the endpoint is told that has the id. -/
def rejectionsOn (s : Store) (id : UInt16) : List Callback :=
  (s.connection.registry.get? id).elim [] s.rejections

/-- The endpoint is cut off, if it is a channel. -/
def cutOff (s : Store) : EndpointRef → Store
  | .channel c => s.detach c
  | .custom _ => s

theorem connection_cutOff (s : Store) (e : EndpointRef) : (s.cutOff e).connection = s.connection := by
  cases e <;> rfl

theorem endpoints_cutOff (s : Store) (e : EndpointRef) : (s.cutOff e).endpoints = s.endpoints := by
  cases e <;> rfl

theorem length_cutOff (s : Store) (e : EndpointRef) : (s.cutOff e).channels.length = s.channels.length := by
  cases e with
  | channel c => exact length_detach ..
  | custom n => rfl

theorem channel_cutOff (s : Store) (e : EndpointRef) (c : Nat) :
    (s.cutOff e).channel c = if e = .channel c then (s.channel c).cut else s.channel c := by
  split
  · rename_i he
    rw [he]
    exact channel_detach ..
  · rename_i he
    cases e with
    | channel d => exact channel_mapChannel_of_ne _ (fun hd => he (congrArg _ hd.symm)) _
    | custom n => rfl

/-- An endpoint that is held while it is cut off. -/
theorem lose_cutOff_hold (s : Store) (e : EndpointRef) : ((s.hold e).cutOff e).lose e = s.cutOff e := by
  cases e with
  | channel c =>
    show ((s.mapChannel c _).mapChannel c _).mapChannel c _ = s.mapChannel c _
    rw [mapChannel_mapChannel, mapChannel_mapChannel]
    refine congrArg (s.mapChannel c) (funext fun ch => ?_)
    show ({ ch.cut with held := ch.held + 1 - 1 } : Channel) = ch.cut
    rw [Nat.add_sub_cancel]
    rfl
  | custom n =>
    have hid : ((fun en : Endpoint => { en with held := en.held - 1 }) ∘ fun en =>
        { en with held := en.held + 1 }) = id := by
      funext en
      show ({ en with held := en.held + 1 - 1 } : Endpoint) = en
      rw [Nat.add_sub_cancel]
    show { s with endpoints := (s.endpoints.modify n _).modify n _ } = s
    rw [List.modify_modify_eq, hid, List.modify_id]

/-- The state once an endpoint over the limit is turned away. -/
def turnAway (s : Store) (entry : UInt16 × EndpointRef) : Store :=
  if s.isLive entry.2 then (s.discard entry.1).1.cutOff entry.2 else (s.discard entry.1).1

theorem connection_turnAway (s : Store) (entry : UInt16 × EndpointRef) :
    (s.turnAway entry).connection =
      { s.connection with queue := s.connection.queue.filter (·.channel != entry.1) } := by
  unfold turnAway
  split
  · exact connection_cutOff ..
  · rfl

theorem endpoints_turnAway (s : Store) (entry : UInt16 × EndpointRef) :
    (s.turnAway entry).endpoints = s.endpoints := by
  unfold turnAway
  split
  · exact endpoints_cutOff ..
  · rfl

theorem length_turnAway (s : Store) (entry : UInt16 × EndpointRef) :
    (s.turnAway entry).channels.length = s.channels.length := by
  unfold turnAway
  split
  · exact length_cutOff ..
  · rfl

theorem channel_turnAway (s : Store) (entry : UInt16 × EndpointRef) (c : Nat) :
    (s.turnAway entry).channel c =
      if entry.2 = .channel c ∧ s.isLive (.channel c) then (s.channel c).cut else s.channel c := by
  unfold turnAway
  split
  · rename_i hl
    rw [channel_cutOff]
    refine if_congr ⟨fun he => ⟨he, he ▸ hl⟩, And.left⟩ rfl rfl
  · rename_i hl
    have hnot : ¬ (entry.2 = .channel c ∧ s.isLive (.channel c)) := by
      rintro ⟨he, hc⟩
      exact hl (he ▸ hc)
    rw [if_neg hnot]
    rfl

theorem isLive_turnAway (s : Store) (entry : UInt16 × EndpointRef) (e : EndpointRef) :
    (s.turnAway entry).isLive e = s.isLive e := by
  unfold isLive holders
  cases e with
  | custom n =>
    have hsame : (s.turnAway entry).endpoint n = s.endpoint n := by
      unfold endpoint
      rw [endpoints_turnAway]
    dsimp only
    rw [hsame]
  | channel c =>
    dsimp only
    rw [channel_turnAway]
    split <;> rfl

theorem rejections_turnAway (s : Store) (entry : UInt16 × EndpointRef) (e : EndpointRef) :
    (s.turnAway entry).rejections e = s.rejections e := by
  rw [rejections, isLive_turnAway, rejections]

/-- All of them are turned away. -/
def turnAwayEach (s : Store) (surplus : List (UInt16 × EndpointRef)) : Store := surplus.foldl turnAway s

theorem connection_turnAwayEach (s : Store) (surplus : List (UInt16 × EndpointRef)) :
    (s.turnAwayEach surplus).connection =
      { s.connection with
        queue := s.connection.queue.filter fun f => f.channel ∉ surplus.map Prod.fst } := by
  unfold turnAwayEach
  induction surplus generalizing s with
  | nil => simp
  | cons entry surplus ih =>
    rw [List.foldl_cons, ih, connection_turnAway]
    dsimp only
    rw [List.filter_filter]
    congr 1
    refine List.filter_congr fun f _ => ?_
    rw [Bool.eq_iff_iff]
    simp [and_comm]

/-- What is kept for each is kept for all. -/
theorem turnAwayEach_keeps {α : Type} {f : Store → α} (hf : ∀ s entry, f (turnAway s entry) = f s)
    (s : Store) (surplus : List (UInt16 × EndpointRef)) : f (s.turnAwayEach surplus) = f s := by
  unfold turnAwayEach
  induction surplus generalizing s with
  | nil => rfl
  | cons entry surplus ih => rw [List.foldl_cons, ih, hf]

theorem endpoints_turnAwayEach (s : Store) (surplus : List (UInt16 × EndpointRef)) :
    (s.turnAwayEach surplus).endpoints = s.endpoints := turnAwayEach_keeps endpoints_turnAway s surplus

theorem length_turnAwayEach (s : Store) (surplus : List (UInt16 × EndpointRef)) :
    (s.turnAwayEach surplus).channels.length = s.channels.length :=
  turnAwayEach_keeps (f := fun s => s.channels.length) length_turnAway s surplus

theorem channel_turnAwayEach (s : Store) (surplus : List (UInt16 × EndpointRef)) (c : Nat) :
    (s.turnAwayEach surplus).channel c =
      if .channel c ∈ surplus.map Prod.snd ∧ s.isLive (.channel c) then (s.channel c).cut
      else s.channel c := by
  unfold turnAwayEach
  induction surplus generalizing s with
  | nil => exact (if_neg (by simp)).symm
  | cons entry surplus ih =>
    rw [List.foldl_cons, ih, isLive_turnAway, channel_turnAway]
    by_cases he : entry.2 = .channel c ∧ s.isLive (.channel c)
    · have hall : .channel c ∈ (entry :: surplus).map Prod.snd ∧ s.isLive (.channel c) :=
        ⟨List.mem_cons.2 (.inl he.1.symm), he.2⟩
      rw [if_pos he, if_pos hall]
      split <;> rfl
    · rw [if_neg he]
      refine if_congr (and_congr_left fun hl => ?_) rfl rfl
      rw [List.map_cons, List.mem_cons, or_iff_right fun h => he ⟨h.symm, hl⟩]

/-- The ids of `gone` are over the limit, and nobody else loses anything by it. -/
structure Evicts (s : Store) (max : UInt16) (gone : List UInt16) (s' : Store) : Prop where
  limit : s'.connection.registry.channelMax = max
  ascending : s.connection.registry.ids.Pairwise (· < ·)
  /-- The ids that stay in use are the smallest, and as many as there may be. -/
  ids : s.connection.registry.ids = s'.connection.registry.ids ++ gone
  count : s'.connection.registry.ids.length =
    if max = 0 then s.connection.registry.size else min max.toNat s.connection.registry.size
  get? : ∀ id ∉ gone, s'.connection.registry.get? id = s.connection.registry.get? id
  queue : s'.connection.queue = s.connection.queue.filter fun f => f.channel ∉ gone
  /-- A channel over the limit that somebody holds is closed and forgets its connection. -/
  cut : ∀ id ∈ gone, ∀ c, s.HasId c id → s.isLive (.channel c) → s'.channel c = (s.channel c).cut
  channel : ∀ c, (∀ id ∈ gone, s.HasId c id → s.isLive (.channel c) = false) →
    s'.channel c = s.channel c
  length : s'.channels.length = s.channels.length
  endpoints : s'.endpoints = s.endpoints
  /-- Where nothing is over the limit, only the limit is new. -/
  untouched : max = 0 ∨ s.connection.registry.size ≤ max.toNat → gone = [] ∧
    s'.connection.registry = { s.connection.registry with channelMax := max } ∧
    s'.connection.queue = s.connection.queue

/-- The limits are set, and everybody over them is turned away. -/
theorem evicts_turnAwayEach (s : Store) (limits : Tune) :
    s.Evicts limits.channelMax (s.setLimits limits).connection.registry.excess
      (((s.setLimits limits).mapRegistry .evict).turnAwayEach
        (s.setLimits limits).connection.registry.surplus) := by
  generalize hr : (s.setLimits limits).connection.registry = r
  have hids : r.ids = s.connection.registry.ids := by rw [← hr]; rfl
  have hsize : r.size = s.connection.registry.size := by rw [← hr]; rfl
  have hget : ∀ id, r.get? id = s.connection.registry.get? id := fun id => by rw [← hr]; rfl
  have hmax : r.channelMax = limits.channelMax := by rw [← hr]; rfl
  have hregistry : (((s.setLimits limits).mapRegistry .evict).turnAwayEach r.surplus).connection.registry =
      r.evict := by
    rw [connection_turnAwayEach, ← hr]
    rfl
  have hlimit := (congrArg Registry.channelMax hregistry).trans hmax
  have hqueue : (((s.setLimits limits).mapRegistry .evict).turnAwayEach r.surplus).connection.queue =
      s.connection.queue.filter fun f => f.channel ∉ r.excess := by
    rw [connection_turnAwayEach]
    refine List.filter_congr fun f _ => ?_
    simp only [Registry.mem_map_fst_surplus]
  have hown : ∀ c, .channel c ∈ r.surplus.map Prod.snd ↔ ∃ id ∈ r.excess, s.HasId c id := fun c => by
    simp only [Registry.mem_map_snd_surplus, hget]
    rfl
  have hchannel := ((s.setLimits limits).mapRegistry .evict).channel_turnAwayEach r.surplus
  refine ⟨hlimit, s.connection.registry.ids_ascend, ?_, ?_, fun id hid => ?_, hqueue,
    fun id hgone c hid hl => ?_, fun c hc => ?_, length_turnAwayEach _ _, endpoints_turnAwayEach _ _,
    fun hroom => ?_⟩
  · rw [hregistry, ← hids]
    exact r.ids_evict
  · rw [hregistry, r.length_ids_evict, hmax, hsize]
  · rw [hregistry, Registry.get?_evict, if_neg fun h => hid (Registry.mem_map_fst_surplus.1 h), hget]
  · rw [hchannel, if_pos ⟨(hown c).2 ⟨id, hgone, hid⟩, hl⟩]
    rfl
  · rw [hchannel, if_neg]
    · rfl
    · rintro ⟨hmem, hl⟩
      obtain ⟨id, hgone, hid⟩ := (hown c).1 hmem
      exact Bool.false_ne_true ((hc id hgone hid).symm.trans hl)
  · rw [← hmax, ← hsize] at hroom
    have hnil := Registry.excess_eq_nil hroom
    refine ⟨hnil, ?_, ?_⟩
    · rw [hregistry, Registry.evict_eq_self hnil, ← hr]
      rfl
    · rw [hqueue, hnil]
      simp

end Store

/-! ## Turned away one after the other -/

namespace Session

open Store

variable {u : Script} {σ τ υ : Session} {s : Store} {log : List Event} {rest : List Task}
  {cbs cbs' : List Callback}

/-- The script leads from the one session to the other, and on the way user code is called back so, in
this order. -/
def CallsBack (u : Script) (σ : Session) (cbs : List Callback) (τ : Session) : Prop :=
  StateTransition.Reaches (stepBy u) σ τ ∧ ∃ es, τ.log = es ++ σ.log ∧ (callbacks es).reverse = cbs

namespace CallsBack

theorem refl (u : Script) (σ : Session) : CallsBack u σ [] σ := ⟨.refl, [], rfl, rfl⟩

theorem trans (h : CallsBack u σ cbs τ) (h' : CallsBack u τ cbs' υ) : CallsBack u σ (cbs ++ cbs') υ := by
  obtain ⟨hr, es, hlog, hes⟩ := h
  obtain ⟨hr', es', hlog', hes'⟩ := h'
  refine ⟨hr.trans hr', es' ++ es, by rw [hlog', hlog, List.append_assoc], ?_⟩
  rw [callbacks_append, List.reverse_append, hes, hes']

theorem task {t : Task} {n : Next} (hn : t.run s = some n) (hf : n.fault = none) (rest : List Task)
    (log : List Event) :
    CallsBack u ⟨s, t :: rest, log⟩ (callbacks n.log) ⟨n.store, n.tasks ++ rest, n.log.reverse ++ log⟩ := by
  refine ⟨.single (stepBy_of_run hn hf), n.log.reverse, rfl, ?_⟩
  rw [callbacks, List.filterMap_reverse, List.reverse_reverse]
  rfl

theorem user (hu : u.IsPassive) (s : Store) (cb : Callback) (rest : List Task) (log : List Event) :
    ∃ r, CallsBack u ⟨s, .user cb :: rest, log⟩ [] ⟨s, answerWith cb r rest, log⟩ := by
  obtain ⟨r, hr⟩ := hu.stepBy_user s cb rest log
  exact ⟨r, .single hr, [], rfl, rfl⟩

end CallsBack

theorem callbacks_discard (s : Store) (id : UInt16) (es : List Event) :
    callbacks ((s.discard id).2 ++ es) = callbacks es := by
  have hnone : callbacks (s.discard id).2 = [] := by
    refine List.filterMap_eq_nil_iff.2 fun e he => ?_
    obtain ⟨f, -, rfl⟩ := List.mem_map.1 he
    rfl
  rw [callbacks_append, hnone, List.nil_append]

/-- An endpoint that is turned away is told the rest, and let go of. -/
theorem callsBack_rejectEndpoint (hu : u.IsPassive) (ha : s.connection.alive = true) (e : EndpointRef)
    (rest : List Task) (log : List Event) :
    ∃ log', CallsBack u
      ⟨((s.hold e).rejectEndpoint e).store, ((s.hold e).rejectEndpoint e).tasks ++ .release e :: rest, log⟩
      e.rejections.tail ⟨s.cutOff e, rest, log'⟩ := by
  have hrelease : Task.run (.release e) ((s.hold e).cutOff e) = some (.only (s.cutOff e)) := by
    show some ((((s.hold e).cutOff e).lose e).whenLost e) = _
    rw [lose_cutOff_hold]
    refine congrArg some (whenLost_eq_only _ fun c hc => .inr ?_)
    rw [hc, reaches, channel_cutOff, if_pos rfl]
    rfl
  cases e with
  | custom n =>
    obtain ⟨r, huser⟩ := CallsBack.user hu (s.hold (.custom n)) (.endpointReject n surplusReason)
      (.release (.custom n) :: rest) log
    exact ⟨_, huser.trans (.task hrelease rfl _ _)⟩
  | channel c =>
    obtain ⟨r, huser⟩ := CallsBack.user hu ((s.hold (.channel c)).detach c)
      (.channelError c surplusReason) (.notifyAlive (.channelClosed c) :: .release (.channel c) :: rest) log
    have hnotice : Task.run (.notifyAlive (.channelClosed c)) ((s.hold (.channel c)).detach c) =
        some (.start ((s.hold (.channel c)).detach c) (.channelClosed c) []) := congrArg some (if_pos ha)
    obtain ⟨r', huser'⟩ := CallsBack.user hu ((s.hold (.channel c)).detach c) (.channelClosed c)
      (.release (.channel c) :: rest) _
    exact ⟨_, huser.trans ((CallsBack.task hnotice rfl _ _).trans (huser'.trans (.task hrelease rfl _ _)))⟩

/-- The next of the endpoints over the limit is turned away. -/
theorem callsBack_evictNext (hu : u.IsPassive) (ha : s.connection.alive = true)
    (entry : UInt16 × EndpointRef) (surplus : List (UInt16 × EndpointRef)) (limits : Tune)
    (rest : List Task) (log : List Event) :
    ∃ log', CallsBack u ⟨s, .evict (entry :: surplus) limits :: rest, log⟩ (s.rejections entry.2)
      ⟨s.turnAway entry, .evict surplus limits :: rest, log'⟩ := by
  obtain ⟨id, e⟩ := entry
  have hrun : Task.run (.evict ((id, e) :: surplus) limits) s =
      some (s.evictNext ((id, e) :: surplus) limits) := congrArg some (if_pos ha)
  unfold evictNext at hrun
  dsimp only at hrun
  rw [show (s.discard id).1.isLive e = s.isLive e from rfl] at hrun
  unfold turnAway rejections
  dsimp only
  split
  · rename_i hl
    rw [if_pos hl] at hrun
    have hfault : ((((s.discard id).1.hold e).rejectEndpoint e).andThen
        [.release e, .evict surplus limits]).fault = none := by cases e <;> rfl
    have hstep := CallsBack.task (u := u) hrun hfault rest log
    obtain ⟨log', hrest⟩ := callsBack_rejectEndpoint (s := (s.discard id).1) hu ha e
      (.evict surplus limits :: rest) _
    have htold : e.rejections = callbacks ((((s.discard id).1.hold e).rejectEndpoint e).andThen
        [.release e, .evict surplus limits]).log ++ e.rejections.tail := by cases e <;> rfl
    have hqueue : ((((s.discard id).1.hold e).rejectEndpoint e).andThen
        [.release e, .evict surplus limits]).tasks ++ rest =
          (((s.discard id).1.hold e).rejectEndpoint e).tasks ++ .release e :: .evict surplus limits :: rest := by
      cases e <;> rfl
    rw [callbacks_discard] at hstep
    rw [htold]
    refine ⟨log', hstep.trans ?_⟩
    dsimp only
    rw [hqueue]
    exact hrest
  · rename_i hl
    rw [if_neg hl] at hrun
    have hstep := CallsBack.task (u := u) hrun rfl rest log
    rw [callbacks_discard] at hstep
    exact ⟨_, hstep⟩

/-- All endpoints over the limit are turned away, the highest id first, and then the limits announced. -/
theorem callsBack_evict (hu : u.IsPassive) (ha : s.connection.alive = true)
    (surplus : List (UInt16 × EndpointRef)) (limits : Tune) (rest : List Task) (log : List Event) :
    ∃ log', CallsBack u ⟨s, .evict surplus limits :: rest, log⟩
      (surplus.flatMap fun entry => s.rejections entry.2)
      ⟨s.turnAwayEach surplus, .evict [] limits :: rest, log'⟩ := by
  induction surplus generalizing s log with
  | nil => exact ⟨log, .refl u _⟩
  | cons entry surplus ih =>
    obtain ⟨log₁, hfirst⟩ := callsBack_evictNext hu ha entry surplus limits rest log
    have ha' : (s.turnAway entry).connection.alive = true := by
      rw [connection_turnAway]
      exact ha
    obtain ⟨log₂, hothers⟩ := ih ha' log₁
    simp only [rejections_turnAway] at hothers
    exact ⟨log₂, hfirst.trans hothers⟩

/-- A frame of the handshake goes out at once, as soon as it is this side's turn. -/
theorem callsBack_reply (hu : u.IsPassive) (ho : s.connection.isOpen) {f : Frame} {octets : Bytes}
    (hf : f.isPartOfHandshake = true) (hw : f.toWire.result = .ok octets) {t : Task} {tasks : List Task}
    (hn : t.run s = some (s.reply f tasks)) (rest : List Task) (log : List Event) :
    ∃ log', CallsBack u ⟨s, t :: rest, log⟩ [.data f.toWire.octets] ⟨s, tasks ++ rest, log'⟩ := by
  have hsend : s.send f = .ok
      { store := s, tasks := [.user (.data octets)]
        log := [.accepted f, .handed f, .started (.data octets)] } := by
    unfold send
    rw [if_neg (not_or.2 ho), hw]
    exact if_pos ((sendsAtOnce_iff s f).2 (.inr hf))
  rw [reply, hsend] at hn
  obtain ⟨r, huser⟩ := CallsBack.user hu s (.data octets) (tasks ++ rest) _
  rw [Draft.octets_of_result hw]
  exact ⟨_, (CallsBack.task hn rfl _ _).trans huser⟩

/-- The limits are announced, and the virtual host asked for, unless its name cannot be written. -/
theorem callsBack_announce (hu : u.IsPassive) (ha : s.connection.alive = true)
    (hs : s.connection.state = .negotiatingTuning) (limits : Tune) (p : Parsing) (rest : List Task)
    (log : List Event) :
    ∃ (announced : List Frame) (fault : Option Violation) (log' : List Event),
      (∀ f ∈ announced, f.channel = 0) ∧ CallsBack u
        ⟨s, .evict [] limits :: .handled none p none :: rest, log⟩
        (announced.map fun f => .data f.toWire.octets) ⟨s, .handled none p fault :: rest, log'⟩ := by
  have ho : s.connection.isOpen := by
    rw [Connection.isOpen, hs]
    simp
  obtain ⟨octets, hw⟩ := Frame.exists_toWire_tuneOk limits
  have htuneOk : Task.run (.evict [] limits) s =
      some (s.reply (.ofConnection (.tuneOk limits)) [.requestHost]) := congrArg some (if_pos ha)
  obtain ⟨log₁, hfirst⟩ := callsBack_reply hu ho rfl hw htuneOk (.handled none p none :: rest) log
  have hhost : Task.requestHost.run s =
      some (s.reply (.ofConnection (.openRequest s.connection.options.virtualHost)) []) :=
    congrArg some (if_pos ha)
  cases hw' : (Frame.ofConnection (.openRequest s.connection.options.virtualHost)).toWire.result with
  | ok octets' =>
    obtain ⟨log₂, hsecond⟩ := callsBack_reply hu ho rfl hw' hhost (.handled none p none :: rest) log₁
    exact ⟨[.ofConnection (.tuneOk limits), .ofConnection (.openRequest _)], none, log₂,
      by simp [Frame.ofConnection], hfirst.trans hsecond⟩
  | error fault =>
    have hrefuse : s.reply (.ofConnection (.openRequest s.connection.options.virtualHost)) [] =
        .refuse s (.send (.encode fault)) := by
      rw [reply, send, if_neg (not_or.2 ho), hw']
    rw [hrefuse] at hhost
    have hlast : stepBy u ⟨s, .requestHost :: .handled none p none :: rest, log₁⟩ =
        some ⟨s, .handled none p (some (.send (.encode fault))) :: rest, log₁⟩ := by
      simp [stepBy, isIdle, tick, hhost, proceed, Next.refuse, refuse]
    exact ⟨[.ofConnection (.tuneOk limits)], some (.send (.encode fault)), log₁,
      by simp [Frame.ofConnection], hfirst.trans ⟨.single hlast, [], rfl, rfl⟩⟩

/-- What handling a tune comes to. -/
theorem exists_callsBack_tune (hσ : σ.Reachable) (hs : σ.state = .negotiatingTuning) {theirs : Tune}
    (ht : σ.takes? = some (.ofConnection (.tune theirs))) (hu : u.IsPassive) :
    ∃ (limits : Tune) (p : Parsing) (fault : Option Violation) (announced : List Frame) (log' : List Event),
      limits.channelMax = (σ.store.connection.options.agree theirs).channelMax ∧
      (∀ f ∈ announced, f.channel = 0) ∧
      CallsBack u σ (.negotiate (σ.store.connection.options.agree theirs).heartbeat ::
          ((σ.store.setLimits limits).connection.registry.surplus.flatMap
              (fun entry => σ.store.rejections entry.2) ++
            announced.map fun f => .data f.toWire.octets))
        ⟨((σ.store.setLimits limits).mapRegistry .evict).turnAwayEach
            (σ.store.setLimits limits).connection.registry.surplus,
          .handled none p fault :: σ.tasks.tail, log'⟩ := by
  obtain ⟨buffer, processed, rest, r, htasks, -⟩ := exists_of_takes? ht
  obtain ⟨p, hp⟩ := parse_of_takes? hσ ht htasks
  obtain ⟨s, tasks, log⟩ := σ
  obtain rfl : tasks = _ := htasks
  have ha : s.connection.alive = true := by
    cases ha : s.connection.alive with
    | true => rfl
    | false => cases (hσ.state_of_not_alive ha).symm.trans hs
  have hparse : Task.run (.parse buffer processed) s = some (s.parse buffer processed) := rfl
  rw [hp, receive_tune hs] at hparse
  have hbegin := CallsBack.task (u := u) hparse rfl rest log
  obtain ⟨r, huser⟩ := CallsBack.user hu s (.negotiate (s.connection.options.agree theirs).heartbeat)
    (.tuned (s.connection.options.agree theirs) :: .handled none p none :: rest) _
  -- user code may choose another interval, but no other limit
  rw [answerWith_negotiate] at huser
  generalize hlimits : { s.connection.options.agree theirs with
    heartbeat := r.chosen (s.connection.options.agree theirs).heartbeat } = limits at huser
  have hmax : limits.channelMax = (s.connection.options.agree theirs).channelMax := by rw [← hlimits]
  have hset : Task.run (.tuned limits) s = some (.follow ((s.setLimits limits).mapRegistry .evict)
      [.evict (s.setLimits limits).connection.registry.surplus limits]) := congrArg some (if_pos ha)
  obtain ⟨log₁, hevict⟩ := callsBack_evict (s := (s.setLimits limits).mapRegistry .evict) hu ha
    (s.setLimits limits).connection.registry.surplus limits (.handled none p none :: rest) _
  obtain ⟨announced, fault, log₂, hzero, hannounce⟩ := callsBack_announce
    (s := ((s.setLimits limits).mapRegistry .evict).turnAwayEach
      (s.setLimits limits).connection.registry.surplus) hu
    (by rw [connection_turnAwayEach]; exact ha) (by rw [connection_turnAwayEach]; exact hs) limits p rest log₁
  exact ⟨limits, p, fault, announced, log₂, hmax, hzero,
    (hbegin.trans huser).trans ((CallsBack.task hset rfl _ _).trans (hevict.trans hannounce))⟩

/-! ## A tune, and what comes after it -/

/-- No frame of the channel goes out: none is held back under its id, and none is taken from it. What goes
out was held back or is taken. -/
structure Hushes (c : Nat) (id : UInt16) (σ : Session) (later : List Moment) : Prop where
  held : ∀ f ∈ σ.store.connection.queue, f.channel ≠ id
  taken : ∀ m ∈ later, ∀ body, .own body ∉ m.eventsOf c ∧ .sent body ∉ m.eventsOf c
  origin : ∀ m ∈ later, ∀ f, .handed f ∈ m.noted →
    f ∈ σ.store.connection.queue ∨ ∃ m' ∈ later, .accepted f ∈ m'.noted

theorem CallsBack.reachable (h : CallsBack u σ cbs τ) (hσ : σ.Reachable) : τ.Reachable := by
  obtain ⟨o, ho⟩ := hσ
  exact ⟨o, ho.trans (Relation.ReflTransGen.mono (fun _ _ hs => Step.stepBy hs) _ _ h.1)⟩

theorem flatMap_rejections (s : Store) (limits : Tune) :
    (s.setLimits limits).connection.registry.surplus.flatMap (fun entry => s.rejections entry.2) =
      (s.setLimits limits).connection.registry.excess.reverse.flatMap s.rejectionsOn := by
  rw [← Registry.map_fst_surplus, List.flatMap_map]
  refine List.flatMap_congr fun entry hmem => ?_
  have hget : (s.setLimits limits).connection.registry.get? entry.1 = some entry.2 :=
    Registry.mem_surplus hmem
  rw [rejectionsOn, show s.connection.registry.get? entry.1 = some entry.2 from hget]
  rfl

/-- A channel that was turned away is out. -/
theorem isBarred_of_evicts (hσ : σ.Reachable) {max : UInt16} {gone : List UInt16}
    (h : σ.store.Evicts max gone τ.store) {id : UInt16} (hgone : id ∈ gone) {c : Nat}
    (hid : σ.store.HasId c id) (hf : ∀ active, .flowReply c active ∉ τ.tasks) : IsBarred c τ where
  known := by
    rw [h.length]
    exact lt_length_of_attached ((hσ.tracks c).named hid).2.2.1
  gone := by
    by_cases hl : σ.store.isLive (.channel c) = true
    · rw [h.cut id hgone c hid hl]
      exact .inl rfl
    · have hdead := Bool.eq_false_iff.2 hl
      rw [h.channel c fun _ _ _ => hdead]
      exact .inr fun hh => hl (isLive_channel_iff.2 hh)
  flows := hf

/-- A tune is accepted while user code only returns from its callbacks. If the agreed number of channels
is not 0 and more ids are in use, then the smallest ids stay in use, as many as agreed on, and what is
held back under the others is dropped. Who has one of those and is not gone is told so once for that id,
the highest id first, and nobody else is told anything: a channel of an error and then that it is closed,
after it was closed and forgot its connection. Otherwise no id is freed and nothing is dropped. As long
as no callback parsed before, no frame of a channel that was turned away goes out from then on, whatever
user code does with it. -/
theorem surplus_turned_away {o : Options} {ms : List Moment} (h : Trail (connect o) ms σ)
    (hs : σ.state = .negotiatingTuning) {theirs : Tune}
    (ht : σ.takes? = some (.ofConnection (.tune theirs))) (hu : u.IsPassive) :
    ∃ (τ : Session) (p : Parsing) (fault : Option Violation) (gone : List UInt16) (announced : List Frame),
      τ.tasks = .handled none p fault :: σ.tasks.tail ∧
      CallsBack u σ (.negotiate (o.agree theirs).heartbeat :: (gone.reverse.flatMap σ.store.rejectionsOn ++
        announced.map fun f => .data f.toWire.octets)) τ ∧
      (∀ f ∈ announced, f.channel = 0) ∧
      σ.store.Evicts (o.agree theirs).channelMax gone τ.store ∧
      ((∀ m ∈ ms, m.ParsesAtRest) → ∀ id ∈ gone, ∀ c, σ.store.HasId c id →
        ∀ later υ, Trail τ later υ → Hushes c id τ later) := by
  have hσ : σ.Reachable := h.reachable ⟨o, .refl⟩
  have ho : σ.store.connection.options = o := options_of_reaches h.reaches
  obtain ⟨limits, p, fault, announced, log, hmax, hzero, hcalls⟩ := exists_callsBack_tune hσ hs ht hu
  rw [flatMap_rejections] at hcalls
  rw [ho] at hcalls hmax
  have hevicts := evicts_turnAwayEach σ.store limits
  rw [hmax] at hevicts
  refine ⟨_, p, fault, _, announced, rfl, hcalls, hzero, hevicts, fun hp id hgone c hid later υ hlater => ?_⟩
  have hτ := hcalls.reachable hσ
  obtain ⟨buffer, processed, rest, -, htasks, -⟩ := exists_of_takes? ht
  -- the frame is the only one at work, so no answer to another waits below
  have hflows : ∀ active, .flowReply c active ∉ .handled none p fault :: σ.tasks.tail := by
    intro active hmem
    have hturn := (h.stage hp).1
    rw [htasks] at hturn hmem
    rcases List.mem_cons.1 hmem with hmem | hmem
    · cases hmem
    · cases (((List.pairwise_cons.1 hturn).1 _ hmem).1 rfl).2
  refine ⟨fun f hf hfid => ?_, (hlater.barred hτ (isBarred_of_evicts hσ hevicts hgone hid hflows)).2,
    (hlater.origin hτ).1⟩
  rw [hevicts.queue] at hf
  exact of_decide_eq_true (List.mem_filter.1 hf).2 (hfid ▸ hgone)

/-- User code opens three channels and registers an endpoint before the server, which allows two, says
so. -/
def overbook : List (Option Act) :=
  greeted ++ openEarly ++ openEarly ++ openEarly ++ [some (.call (.newEndpoint 4)), none,
    some (.call (.register 0)), none, some (.call (.parse (offerOf 2)))] ++ pass 1 ++ [none]

theorem surplus_turned_away_overbooked : ∃ (ms : List Moment) (σ τ : Session) (announced : List Frame),
    Trail (connect .standard) ms σ ∧ σ.state = .negotiatingTuning ∧
    σ.takes? = some (.ofConnection (.tune ⟨2, 0, 0⟩)) ∧ σ.store.connection.registry.ids = [1, 2, 3, 4] ∧
    CallsBack quiet σ (.negotiate 0 :: ([.endpointReject 0 surplusReason, .channelError 2 surplusReason,
      .channelClosed 2] ++ announced.map fun f => .data f.toWire.octets)) τ ∧
    τ.store.connection.registry.ids = [1, 2] ∧
    τ.store.connection.queue = [.ofChannel 1 .openRequest, .ofChannel 2 .openRequest] ∧
    τ.store.channel 2 = (σ.store.channel 2).cut ∧
    ∀ later υ, Trail τ later υ → Hushes 2 3 τ later := by
  obtain ⟨ms, σ, h, he⟩ := exists_trail_of_record overbook (connect .standard)
    (fun ms σ => decide ((∀ m ∈ ms, m.ParsesAtRest) ∧ σ.state = .negotiatingTuning ∧
      σ.takes? = some (.ofConnection (.tune ⟨2, 0, 0⟩)) ∧ σ.store.connection.registry.ids = [1, 2, 3, 4] ∧
      σ.store.connection.queue =
        [.ofChannel 1 .openRequest, .ofChannel 2 .openRequest, .ofChannel 3 .openRequest] ∧
      σ.store.rejectionsOn 4 = [.endpointReject 0 surplusReason] ∧
      σ.store.rejectionsOn 3 = [.channelError 2 surplusReason, .channelClosed 2] ∧
      σ.store.connection.registry.get? 3 = some (.channel 2) ∧ σ.store.isLive (.channel 2)))
    (a := true) (by decide +kernel)
  obtain ⟨hp, hs, ht, hids, hqueue, hfour, hthree, hid, hl⟩ := of_decide_eq_true he
  obtain ⟨τ, p, fault, gone, announced, -, hcalls, -, hevicts, hhush⟩ :=
    surplus_turned_away h hs ht (u := quiet) fun _ _ => ⟨.done, rfl⟩
  have hmax : (Options.standard.agree ⟨2, 0, 0⟩).channelMax = 2 := by decide
  have hcount := hevicts.count
  rw [hmax, if_neg (by decide), ← Registry.length_ids, hids] at hcount
  obtain ⟨hkept, rfl⟩ : [1, 2] = τ.store.connection.registry.ids ∧ [3, 4] = gone :=
    List.append_inj (show [1, 2] ++ [3, 4] = _ from hids.symm.trans hevicts.ids) hcount.symm
  have hgone : (3 : UInt16) ∈ [3, 4] := List.mem_cons_self
  refine ⟨ms, σ, τ, announced, h, hs, ht, hids, ?_, hkept.symm, ?_, hevicts.cut 3 hgone 2 hid hl,
    hhush hp 3 hgone 2 hid⟩
  · have htold : [3, 4].reverse.flatMap σ.store.rejectionsOn = [.endpointReject 0 surplusReason,
        .channelError 2 surplusReason, .channelClosed 2] := by
      show [4, 3].flatMap σ.store.rejectionsOn = _
      rw [List.flatMap_cons, List.flatMap_singleton, hfour, hthree]
      rfl
    rwa [htold] at hcalls
  · rw [hevicts.queue, hqueue]
    rfl

end Session

end AmqpSession
