/-
How ids are given out. The search for a free one goes all the way round, so it fails only where the
limit is reached or every id is taken; and the limit holds at every moment, because a tune that lowers
it takes the channels over it out at once.
-/
import AmqpSession.Proofs.Client
import AmqpSession.Proofs.Step
import Mathlib.Data.List.Nodup
import Mathlib.Data.List.Perm.Subperm

namespace AmqpSession

open Wire

namespace Registry

/-! ## The ids in use -/

theorem mem_ids_iff {r : Registry} {id : UInt16} : id ∈ r.ids ↔ ∃ e, r.get? id = some e := by
  unfold ids get?
  rw [Std.TreeMap.mem_keys, ← Option.isSome_iff_exists, Std.TreeMap.isSome_getElem?_iff_mem]

theorem endpoints_eq_map (r : Registry) : r.endpoints = r.entries.toList.map Prod.snd := by
  show r.entries.inner.inner.values =
    (Std.DTreeMap.Internal.Impl.Const.toList r.entries.inner.inner).map Prod.snd
  rw [Std.DTreeMap.Internal.Impl.values_eq_map_snd,
    Std.DTreeMap.Internal.Impl.Const.toList_eq_toListModel_map, List.map_map]
  rfl

theorem mem_endpoints_iff {r : Registry} {e : EndpointRef} :
    e ∈ r.endpoints ↔ ∃ id, r.get? id = some e := by
  rw [endpoints_eq_map, List.mem_map]
  constructor
  · rintro ⟨⟨id, e⟩, hmem, rfl⟩
    exact ⟨id, Std.TreeMap.mem_toList_iff_getElem?_eq_some.1 hmem⟩
  · rintro ⟨id, hid⟩
    exact ⟨(id, e), Std.TreeMap.mem_toList_iff_getElem?_eq_some.2 hid, rfl⟩

theorem nodup_ids (r : Registry) : r.ids.Nodup := by
  refine (Std.TreeMap.distinct_keys (t := r.entries)).imp fun h he => ?_
  exact h (Std.LawfulEqCmp.compare_eq_iff_eq.2 he)

theorem length_ids (r : Registry) : r.ids.length = r.size := Std.TreeMap.length_keys

theorem isFree_iff {r : Registry} {id : UInt16} : r.isFree id = true ↔ id ≠ 0 ∧ r.get? id = none := by
  have hnone : r.entries.contains id = false ↔ r.entries[id]? = none := by
    rw [← Bool.not_eq_true, Std.TreeMap.contains_iff_mem, ← Std.TreeMap.isSome_getElem?_iff_mem,
      Option.not_isSome_iff_eq_none]
  unfold isFree get?
  rw [Bool.and_eq_true, bne_iff_ne, Bool.not_eq_true', hnone]

/-- The numbers that ids other than 0 can have. -/
def idRange : List Nat := .range' 1 idCount

theorem mem_idRange_iff {id : UInt16} : id.toNat ∈ idRange ↔ id ≠ 0 := by
  have hlt := id.toNat_lt
  have hzero : id = 0 ↔ id.toNat = 0 := by
    rw [← UInt16.toNat_inj]
    rfl
  rw [idRange, List.mem_range'_1, Ne, hzero, idCount]
  omega

theorem nodup_map_toNat_ids (r : Registry) : (r.ids.map UInt16.toNat).Nodup :=
  r.nodup_ids.map fun _ _ => UInt16.toNat_inj.1

/-- There are as many ids as the registry can hold. -/
theorem idCount_le_size_iff {r : Registry} (hz : r.get? 0 = none) :
    idCount ≤ r.size ↔ ∀ id, id ≠ 0 → ∃ e, r.get? id = some e := by
  have hsub : r.ids.map UInt16.toNat ⊆ idRange := by
    intro n hn
    obtain ⟨id, hid, rfl⟩ := List.mem_map.1 hn
    rw [mem_idRange_iff]
    rintro rfl
    obtain ⟨e, he⟩ := mem_ids_iff.1 hid
    rw [hz] at he
    cases he
  have hlen : (r.ids.map UInt16.toNat).length = r.size := by rw [List.length_map, length_ids]
  have hrange : idRange.length = idCount := List.length_range'
  constructor
  · -- a list of all ids that leaves one out is too short
    intro hfull id hid
    rw [← mem_ids_iff]
    by_contra hmem
    have hsub' : r.ids.map UInt16.toNat ⊆ idRange.erase id.toNat := by
      intro n hn
      obtain ⟨x, hx, rfl⟩ := List.mem_map.1 hn
      refine (List.mem_erase_of_ne fun he => hmem ?_).2 (hsub hn)
      rwa [UInt16.toNat_inj.1 he] at hx
    have hle := (r.nodup_map_toNat_ids.subperm hsub').length_le
    rw [List.length_erase_of_mem (mem_idRange_iff.2 hid), hlen, hrange] at hle
    have hpos : 0 < idCount := by decide
    omega
  · intro hall
    have hsub' : idRange ⊆ r.ids.map UInt16.toNat := by
      intro n hn
      have hn' := hn
      rw [idRange, List.mem_range'_1, idCount] at hn'
      have hnat : (UInt16.ofNat n).toNat = n :=
        UInt16.toNat_ofNat_of_lt' (Nat.lt_of_le_of_lt (Nat.le_of_lt_succ hn'.2) (by decide))
      refine List.mem_map.2 ⟨.ofNat n, mem_ids_iff.2 (hall _ ?_), hnat⟩
      rw [← mem_idRange_iff, hnat]
      exact hn
    have hnodup : idRange.Nodup := List.nodup_range'
    have hle := (hnodup.subperm hsub').length_le
    rwa [hlen, hrange] at hle

/-! ## The search -/

theorem not_isFree_of_search {r : Registry} {steps : Nat} {cursor : UInt16}
    (h : r.search steps cursor = none) {k : Nat} (hk : k < steps) :
    r.isFree (cursor + .ofNat k) = false := by
  induction steps generalizing cursor k with
  | zero => cases hk
  | succ steps ih =>
    unfold search at h
    split at h
    · cases h
    · rename_i hfree
      -- the id `k` steps on from here is `k - 1` steps on from the next
      cases k with
      | zero => simpa using hfree
      | succ k =>
        have := ih h (Nat.lt_of_succ_lt_succ hk)
        rwa [UInt16.add_assoc, ← UInt16.ofNat_one, ← UInt16.ofNat_add, Nat.add_comm 1] at this

/-- The search goes all the way round. -/
theorem taken_of_search {r : Registry} {cursor : UInt16} (h : r.search 65536 cursor = none) {id : UInt16}
    (hid : id ≠ 0) : ∃ e, r.get? id = some e := by
  have hfree := not_isFree_of_search h (id - cursor).toNat_lt
  have hround : cursor + .ofNat (id - cursor).toNat = id := by
    rw [UInt16.ofNat_toNat, UInt16.add_comm, UInt16.sub_add_cancel]
  rw [hround, ← Bool.not_eq_true, isFree_iff, not_and] at hfree
  exact Option.ne_none_iff_exists'.1 (hfree hid)

/-! ## Giving out an id -/

/-- As many channels as agreed on, or all that there can be. -/
def AtLimit (r : Registry) : Prop :=
  (r.channelMax ≠ 0 ∧ r.channelMax.toNat ≤ r.size) ∨ ∀ id, id ≠ 0 → ∃ e, r.get? id = some e

theorem isFull_iff {r : Registry} (hz : r.get? 0 = none) : r.isFull = true ↔ r.AtLimit := by
  rw [AtLimit, ← idCount_le_size_iff hz]
  simp [isFull]

/-- The limit is the only reason to give out no id. -/
theorem register_eq_error {r : Registry} (hz : r.get? 0 = none) {e : EndpointRef} {err : AllocError}
    (h : r.register e = .error err) : err = .channelMaxReached ∧ r.AtLimit := by
  unfold register at h
  split at h
  · rename_i hfull
    cases h
    exact ⟨rfl, (isFull_iff hz).1 hfull⟩
  · split at h
    · rename_i hs
      cases h
      exact ⟨rfl, .inr fun _ => taken_of_search hs⟩
    · cases h

theorem not_atLimit_of_register {r r' : Registry} (hz : r.get? 0 = none) {e : EndpointRef}
    {id : UInt16} (h : r.register e = .ok (id, r')) : ¬ r.AtLimit := by
  intro hfull
  unfold register at h
  rw [if_pos ((isFull_iff hz).2 hfull)] at h
  cases h

theorem channelMax_of_register {r r' : Registry} {e : EndpointRef} {id : UInt16}
    (h : r.register e = .ok (id, r')) : r'.channelMax = r.channelMax := by
  unfold register at h
  split at h
  · cases h
  · split at h
    · cases h
    · cases h
      rfl

/-! ## The limit -/

/-- Channel 0 is nobody's, and the limit is kept. -/
structure WithinLimits (r : Registry) : Prop where
  zero : r.get? 0 = none
  size_le : r.channelMax ≠ 0 → r.size ≤ r.channelMax.toNat

theorem withinLimits_empty (channelMax : UInt16) : (empty channelMax).WithinLimits :=
  ⟨rfl, fun _ => Nat.zero_le _⟩

theorem WithinLimits.register {r r' : Registry} (h : r.WithinLimits) {e : EndpointRef} {id : UInt16}
    (hr : r.register e = .ok (id, r')) : r'.WithinLimits := by
  obtain ⟨hid, hfree, hentries⟩ := register_eq_ok hr
  constructor
  · rw [get?_of_insert hentries, if_neg (Ne.symm hid)]
    exact h.zero
  · intro hne
    rw [channelMax_of_register hr] at hne ⊢
    have hsize : r'.size ≤ r.size + 1 := by
      unfold size
      rw [hentries]
      exact Std.TreeMap.size_insert_le
    have hlt : ¬ r.channelMax.toNat ≤ r.size := fun hle =>
      not_atLimit_of_register h.zero hr (.inl ⟨hne, hle⟩)
    omega

theorem WithinLimits.release {r : Registry} (h : r.WithinLimits) (id : UInt16) (e : EndpointRef) :
    (r.release id e).WithinLimits := by
  refine ⟨?_, ?_⟩
  · cases hg : (r.release id e).get? 0 with
    | none => rfl
    | some e' =>
      have := get?_of_get?_release hg
      rw [h.zero] at this
      cases this
  · unfold Registry.release
    split
    · exact fun hne => Nat.le_trans Std.TreeMap.size_erase_le (h.size_le hne)
    · exact h.size_le

theorem WithinLimits.clear (r : Registry) : r.clear.WithinLimits := ⟨rfl, fun _ => Nat.zero_le _⟩

/-- Every entry that is taken out was there once. -/
theorem size_foldl_erase {entries : Std.TreeMap UInt16 EndpointRef} {l : List (UInt16 × EndpointRef)}
    (hmem : ∀ x ∈ l, x.1 ∈ entries) (hl : (l.map Prod.fst).Nodup) :
    (l.foldl (fun t x => t.erase x.1) entries).size + l.length = entries.size := by
  induction l generalizing entries with
  | nil => rfl
  | cons x l ih =>
    rw [List.map_cons, List.nodup_cons] at hl
    have hx : entries.contains x.1 = true := Std.TreeMap.contains_iff_mem.2 (hmem x List.mem_cons_self)
    have hpos : 0 < entries.size := by
      rw [Nat.pos_iff_ne_zero, ne_eq, ← beq_iff_eq, ← Std.TreeMap.isEmpty_eq_size_eq_zero,
        Std.TreeMap.isEmpty_eq_false_of_contains hx]
      exact Bool.false_ne_true
    have hkept : ∀ y ∈ l, y.1 ∈ entries.erase x.1 := by
      intro y hy
      rw [Std.TreeMap.mem_erase]
      refine ⟨fun he => hl.1 ?_, hmem y (List.mem_cons_of_mem _ hy)⟩
      rw [Std.LawfulEqCmp.compare_eq_iff_eq.1 he]
      exact List.mem_map_of_mem hy
    have hrest := ih hkept hl.2
    rw [Std.TreeMap.size_erase, if_pos hx] at hrest
    rw [List.foldl_cons, List.length_cons]
    omega

theorem map_fst_toList (r : Registry) : r.entries.toList.map Prod.fst = r.ids :=
  Std.TreeMap.map_fst_toList_eq_keys

theorem mem_surplus {r : Registry} {x : UInt16 × EndpointRef} (h : x ∈ r.surplus) :
    r.get? x.1 = some x.2 := by
  unfold surplus at h
  split at h
  · cases h
  · exact Std.TreeMap.mem_toList_iff_getElem?_eq_some.1 (List.mem_of_mem_drop (List.mem_reverse.1 h))

theorem nodup_map_fst_surplus (r : Registry) : (r.surplus.map Prod.fst).Nodup := by
  unfold surplus
  split
  · exact List.nodup_nil
  · rw [List.map_reverse, List.nodup_reverse, List.map_drop, map_fst_toList]
    exact r.nodup_ids.sublist (List.drop_sublist _ _)

theorem length_surplus (r : Registry) (h : r.channelMax ≠ 0) :
    r.surplus.length = r.size - r.channelMax.toNat := by
  unfold surplus
  rw [if_neg h, List.length_reverse, List.length_drop, Std.TreeMap.length_toList]
  rfl

theorem getElem?_foldl_erase (entries : Std.TreeMap UInt16 EndpointRef)
    (l : List (UInt16 × EndpointRef)) (id : UInt16) :
    (l.foldl (fun t x => t.erase x.1) entries)[id]? =
      if id ∈ l.map Prod.fst then none else entries[id]? := by
  induction l generalizing entries with
  | nil => rfl
  | cons x l ih =>
    rw [List.foldl_cons, ih, Std.TreeMap.getElem?_erase, List.map_cons]
    simp only [Std.LawfulEqCmp.compare_eq_iff_eq]
    by_cases hl : id ∈ l.map Prod.fst
    · rw [if_pos hl, if_pos (List.mem_cons_of_mem _ hl)]
    · rw [if_neg hl]
      by_cases hx : x.1 = id
      · rw [if_pos hx, if_pos (hx ▸ List.mem_cons_self)]
      · rw [if_neg hx, if_neg fun h => (List.mem_cons.1 h).elim (fun he => hx he.symm) hl]

theorem get?_evict (r : Registry) (id : UInt16) :
    r.evict.get? id = if id ∈ r.surplus.map Prod.fst then none else r.get? id :=
  getElem?_foldl_erase _ _ _

/-- Every entry over the limit was in use. -/
theorem size_evict (r : Registry) : r.evict.size + r.surplus.length = r.size := by
  have hmem : ∀ x ∈ r.surplus, x.1 ∈ r.entries := fun x hx =>
    Std.TreeMap.mem_keys.1 (mem_ids_iff.2 ⟨x.2, mem_surplus hx⟩)
  exact size_foldl_erase hmem r.nodup_map_fst_surplus

/-- A limit that is lowered is kept at once. -/
theorem withinLimits_evict {r : Registry} (hz : r.get? 0 = none) : r.evict.WithinLimits := by
  constructor
  · rw [get?_evict, hz, ite_self]
  · intro hne
    have hsize := r.size_evict
    rw [r.length_surplus hne] at hsize
    show r.evict.size ≤ r.channelMax.toNat
    omega

end Registry

/-! ## Throughout a run -/

theorem Connection.Move.withinLimits {t : Option Task} {k k' : Connection} {es : List Event}
    (h : Connection.Move t k es k') (hk : k.registry.WithinLimits) : k'.registry.WithinLimits := by
  cases h with
  | register e id r ho hr => exact hk.register hr
  | release id e => exact hk.release id e
  | clear => exact .clear _
  | tune limits => exact Registry.withinLimits_evict (r := { k.registry with channelMax := _ }) hk.zero
  | shut => exact .clear _
  | _ => exact hk

/-- What comes of asking a connection for an id for an endpoint, with the registry afterwards. -/
inductive Connection.Registers (k : Connection) (e : EndpointRef) :
    Except AllocError UInt16 → Registry → Prop where
  /-- The id was free, and nothing else changes but where the next search begins. -/
  | granted {id : UInt16} {r : Registry} (ho : k.isOpen) (hroom : ¬ k.registry.AtLimit) (hid : id ≠ 0)
      (hfree : k.registry.get? id = none) (hmax : r.channelMax = k.registry.channelMax)
      (hget : ∀ x, r.get? x = if x = id then some e else k.registry.get? x) :
      Registers k e (.ok id) r
  | ended (ho : ¬ k.isOpen) : Registers k e (.error .illegalState) k.registry
  | refused (ho : k.isOpen) (hfull : k.registry.AtLimit) :
      Registers k e (.error .channelMaxReached) k.registry

namespace Connection.Registers

variable {k : Connection} {e : EndpointRef}

theorem of_ok (hz : k.registry.get? 0 = none) (ho : k.isOpen) {id : UInt16} {r : Registry}
    (h : k.registry.register e = .ok (id, r)) : k.Registers e (.ok id) r := by
  obtain ⟨hid, hfree, hentries⟩ := Registry.register_eq_ok h
  exact .granted ho (Registry.not_atLimit_of_register hz h) hid hfree
    (Registry.channelMax_of_register h) (Registry.get?_of_insert hentries)

theorem of_error (hz : k.registry.get? 0 = none) (ho : k.isOpen) {err : AllocError}
    (h : k.registry.register e = .error err) : k.Registers e (.error err) k.registry := by
  obtain ⟨rfl, hfull⟩ := Registry.register_eq_error hz h
  exact .refused ho hfull

end Connection.Registers

theorem Store.register_registers {s : Store} (hz : s.connection.registry.get? 0 = none)
    (e : EndpointRef) : ∃ r, s.connection.Registers e (s.register e).1 r ∧
      (s.register e).2 = s.mapRegistry fun _ => r := by
  unfold register
  split
  · rename_i hended
    exact ⟨_, .ended fun ho => hended.elim ho.1 ho.2, rfl⟩
  · rename_i ho
    rw [not_or] at ho
    split
    · rename_i err hr
      exact ⟨_, .of_error hz ho hr, rfl⟩
    · rename_i id r hr
      exact ⟨r, .of_ok hz ho hr, rfl⟩

namespace Session

theorem Reachable.withinLimits {σ : Session} (h : σ.Reachable) :
    σ.store.connection.registry.WithinLimits :=
  h.connection_induction (P := fun k _ => k.registry.WithinLimits)
    (fun o => Registry.withinLimits_empty o.channelMax) (fun _ _ _ _ _ hk hm => hm.withinLimits hk)
    fun _ _ _ hk _ => hk

/-- At every moment ids are within 1 and 65535, and no more are in use than agreed on. A call for a new
id gets one that nobody has, and fails exactly when the connection is closing or closed, or at the
limit. -/
theorem ids_within_limits {σ : Session} (h : σ.Reachable) :
    (∀ id ∈ σ.store.connection.registry.ids, 1 ≤ id.toNat ∧ id.toNat ≤ 65535) ∧
    (σ.store.connection.registry.channelMax ≠ 0 →
      σ.store.connection.registry.size ≤ σ.store.connection.registry.channelMax.toNat) ∧
    (∀ n τ, σ.call? (.register n) = some τ → ∃ result r,
      σ.store.connection.Registers (.custom n) result r ∧
      τ.store = (σ.store.mapRegistry fun _ => r) ∧
      τ.tasks = .answer (.registered result) :: σ.tasks ∧ τ.log = σ.log) ∧
    (∀ τ, σ.call? .openChannel = some τ → ∃ result r,
      σ.store.connection.Registers (.channel σ.store.channels.length) result r ∧
      τ.store.connection.registry = r ∧
      match result with
      | .ok id => (τ.store.channel σ.store.channels.length).id = id ∧
        .answer (.opened σ.store.channels.length (.ok ())) ∈ τ.tasks
      | .error e => .answer (.opened σ.store.channels.length (.error (.alloc e))) ∈ τ.tasks) := by
  have hw := h.withinLimits
  refine ⟨fun id hid => ?_, hw.size_le, fun n τ hc => ?_, fun τ hc => ?_⟩
  · have hne : id ≠ 0 := by
      rintro rfl
      obtain ⟨e, he⟩ := Registry.mem_ids_iff.1 hid
      rw [hw.zero] at he
      cases he
    have hrange := Registry.mem_idRange_iff.2 hne
    rw [Registry.idRange, List.mem_range'_1, Registry.idCount] at hrange
    omega
  · obtain ⟨-, -, rfl⟩ := call?_eq_some_iff.1 hc
    obtain ⟨r, hr, hs⟩ := Store.register_registers hw.zero (.custom n)
    exact ⟨_, r, hr, hs, rfl, rfl⟩
  · obtain ⟨-, -, rfl⟩ := call?_eq_some_iff.1 hc
    have hrun : Call.run .openChannel σ.store = σ.store.holdHandle.openChannel.2.andThen
      [.releaseHandle, .answer (.opened σ.store.channels.length σ.store.holdHandle.openChannel.1)] := rfl
    rw [hrun]
    obtain ⟨e, heq, hwhy⟩ | ⟨id, r, n, ho, hr, hn, heq⟩ := σ.store.holdHandle.openChannel_cases
    · rw [heq]
      refine ⟨.error e, _, ?_, rfl, List.mem_cons_of_mem _ List.mem_cons_self⟩
      obtain ⟨ho, rfl⟩ | ⟨ho, hr⟩ := hwhy
      · exact .ended ho
      · exact .of_error hw.zero ho hr
    · rw [heq]
      obtain ⟨hfault, hchannels, hregistry⟩ := Store.send_aside hn
      refine ⟨.ok id, r, .of_ok hw.zero ho hr, hregistry, ?_, ?_⟩
      · show (n.store.channels[σ.store.channels.length]?.getD .gone).id = id
        rw [hchannels]
        exact congrArg Channel.id (Store.channel_withChannel (σ.store.holdHandle.mapRegistry fun _ => r) _)
      · refine List.mem_append_left _ (List.mem_append_right _ ?_)
        exact List.mem_cons_of_mem _ List.mem_cons_self

/-- A server that offers so many channels at most. -/
def offerOf (channelMax : UInt16) : Bytes :=
  (Frame.ofConnection (.start ⟨0, 9, .empty, Utf8.encode "PLAIN", Utf8.encode "en_US"⟩)).toWire.octets ++
    (Frame.ofConnection (.tune ⟨channelMax, 0, 0⟩)).toWire.octets

/-- User code opens channels while the connection is negotiated. -/
def openEarly : List (Option Act) := [some (.call .openChannel), none, none, none]

/-- Three channels were opened, and the server allows two. While the third is turned away, the other
two are in use, and an endpoint gets no id. -/
theorem ids_within_limits_evicting : ∃ σ τ : Session, σ.Reachable ∧
    σ.tasks.head?.isSome ∧ σ.store.connection.registry.ids = [1, 2] ∧
    σ.store.connection.registry.channelMax = 2 ∧ σ.call? (.register 0) = some τ ∧
    τ.tasks = .answer (.registered (.error .channelMaxReached)) :: σ.tasks := by
  obtain ⟨σ, hσ, he⟩ := exists_reaches_of_play
    (greeted ++ openEarly ++ openEarly ++ openEarly ++ [some (.call (.newEndpoint 7)), none,
      some (.call (.parse (offerOf 2)))] ++ pass 1 ++ pass 2 ++ [none, none]) (connect .standard)
    (fun σ => (σ.tasks.head?.isSome, σ.store.connection.registry.ids,
      σ.store.connection.registry.channelMax, σ.store.connection.state, σ.isIdle,
      (Call.register 0).isLegal σ.store))
    (a := (true, [1, 2], 2, .negotiatingTuning, true, true)) (by decide +kernel)
  simp only [Prod.mk.injEq] at he
  obtain ⟨htasks, hids, hmax, hstate, hidle, hlegal⟩ := he
  have hcall := call?_eq_some_iff.2 ⟨hidle, hlegal, rfl⟩
  obtain ⟨-, hle, hregister, -⟩ := ids_within_limits ⟨.standard, hσ⟩
  obtain ⟨result, r, hr, -, hτ, -⟩ := hregister 0 _ hcall
  refine ⟨σ, _, ⟨.standard, hσ⟩, htasks, hids, hmax, hcall, ?_⟩
  rw [hτ]
  have hsize : σ.store.connection.registry.size = 2 := by
    rw [← Registry.length_ids, hids]
    rfl
  cases hr with
  | granted _ hroom => exact absurd (.inl ⟨by rw [hmax]; decide, by rw [hmax, hsize]; decide⟩) hroom
  | ended ho => exact absurd ⟨by rw [hstate]; decide, by rw [hstate]; decide⟩ ho
  | refused => rfl

end Session

end AmqpSession
