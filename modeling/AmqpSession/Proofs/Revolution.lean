/-
When an id comes back. A search for a free id begins where the last one ended and passes over an id
only if it is in use. An id that was not in use since another was given out is therefore still ahead
of the cursor, and is met before the other; so no id comes back before every other one was in use.
-/
import AmqpSession.Proofs.Allocation

namespace AmqpSession

namespace Registry

/-! ## Histories -/

/-- Frees `id`, whoever it belongs to. -/
def unregister (r : Registry) (id : UInt16) : Registry :=
  if id = 0 then r else { r with entries := r.entries.erase id }

/-- Sets the limit. Ids over it stay in use. -/
def setChannelMax (r : Registry) (channelMax : UInt16) : Registry :=
  { r with channelMax := channelMax }

/-- What can be done to a registry. -/
inductive Op where
  | register (e : EndpointRef)
  | unregister (id : UInt16)
  /-- An endpoint gives back what it takes for its id. -/
  | release (id : UInt16) (e : EndpointRef)
  | evict
  | clear
  | setChannelMax (channelMax : UInt16)
deriving DecidableEq, Repr

/-- The registry after an operation; where no id can be given out, nothing changes. -/
def perform (r : Registry) : Op → Registry
  | .register e =>
    match r.register e with
    | .ok (_, r') => r'
    | .error _ => r
  | .unregister id => r.unregister id
  | .release id e => r.release id e
  | .evict => r.evict
  | .clear => r.clear
  | .setChannelMax channelMax => r.setChannelMax channelMax

/-- The registry after operations in this order. -/
def performAll (r : Registry) (ops : List Op) : Registry := ops.foldl perform r

theorem perform_register_of_ok {r r' : Registry} {e : EndpointRef} {id : UInt16}
    (h : r.register e = .ok (id, r')) : r.perform (.register e) = r' := by
  simp only [perform, h]

theorem perform_register_of_error {r : Registry} {e : EndpointRef} {err : AllocError}
    (h : r.register e = .error err) : r.perform (.register e) = r := by
  simp only [perform, h]

/-- Channel 0 is given to nobody. -/
theorem get?_zero_perform {r : Registry} (h : r.get? 0 = none) (op : Op) :
    (r.perform op).get? 0 = none := by
  cases op with
  | register e =>
    cases hr : r.register e with
    | error err => rwa [perform_register_of_error hr]
    | ok result =>
      obtain ⟨id, r'⟩ := result
      obtain ⟨hid, -, hentries⟩ := register_eq_ok hr
      rwa [perform_register_of_ok hr, get?_of_insert hentries, if_neg hid.symm]
  | unregister id =>
    show (r.unregister id).get? 0 = none
    unfold unregister
    split
    · exact h
    · show (r.entries.erase id)[(0 : UInt16)]? = none
      rw [Std.TreeMap.getElem?_erase]
      split
      · rfl
      · exact h
  | release id e =>
    refine Option.eq_none_iff_forall_ne_some.2 fun e' he' => ?_
    have := get?_of_get?_release he'
    rw [h] at this
    cases this
  | evict => exact (get?_evict r 0).trans (by rw [h, ite_self])
  | clear => rfl
  | setChannelMax channelMax => exact h

theorem get?_zero_performAll {r : Registry} (h : r.get? 0 = none) (ops : List Op) :
    (r.performAll ops).get? 0 = none := by
  induction ops generalizing r with
  | nil => exact h
  | cons op ops ih => exact ih (get?_zero_perform h op)

/-! ## The circle of ids -/

/-- So many steps up from one id to the other, with 0 after the highest. -/
def ahead (cursor id : UInt16) : Nat := (id - cursor).toNat

theorem ahead_eq (cursor id : UInt16) :
    ahead cursor id = (65536 - cursor.toNat + id.toNat) % 65536 := UInt16.toNat_sub id cursor

theorem ahead_self (cursor : UInt16) : ahead cursor cursor = 0 := by
  rw [ahead, UInt16.sub_self]
  rfl

theorem ahead_inj {cursor id id' : UInt16} (h : ahead cursor id = ahead cursor id') : id = id' := by
  have hid := id.toNat_lt
  have hid' := id'.toNat_lt
  have hcursor := cursor.toNat_lt
  rw [ahead_eq, ahead_eq] at h
  refine UInt16.toNat_inj.1 ?_
  omega

/-- Going on from right after `past`, there are that many steps less to what lies behind it. -/
theorem ahead_of_passed {cursor past id : UInt16} (h : ahead cursor past < ahead cursor id) :
    ahead (past + 1) id + (ahead cursor past + 1) = ahead cursor id := by
  have hid := id.toNat_lt
  have hpast := past.toNat_lt
  have hcursor := cursor.toNat_lt
  have hsucc : (past + 1).toNat = (past.toNat + 1) % 65536 := UInt16.toNat_add past 1
  rw [ahead_eq, ahead_eq] at h
  rw [ahead_eq, ahead_eq, ahead_eq, hsucc]
  omega

/-- What was given out last is as far ahead as can be. -/
theorem ahead_lt_of_ne {x y : UInt16} (h : y ≠ x) : ahead (x + 1) y < ahead (x + 1) x := by
  have hx := x.toNat_lt
  have hy := y.toNat_lt
  have hne : y.toNat ≠ x.toNat := fun he => h (UInt16.toNat_inj.1 he)
  have hsucc : (x + 1).toNat = (x.toNat + 1) % 65536 := UInt16.toNat_add x 1
  rw [ahead_eq, ahead_eq, hsucc]
  omega

/-- A search passes over an id only if it is in use. -/
theorem not_isFree_of_passed {r : Registry} {steps : Nat} {cursor found id : UInt16}
    (h : r.search steps cursor = some found) (hid : ahead cursor id < ahead cursor found) :
    r.isFree id = false := by
  induction steps generalizing cursor with
  | zero => cases h
  | succ steps ih =>
    unfold search at h
    split at h
    · cases h
      rw [ahead_self] at hid
      omega
    · rename_i hfree
      by_cases hc : ahead cursor cursor < ahead cursor id
      · -- both lie behind the cursor, so they are as far apart from the next one
        have hnext := ahead_of_passed hc
        have hnext' := ahead_of_passed (Nat.lt_trans hc hid)
        exact ih h (by omega)
      · have heq : ahead cursor id = ahead cursor cursor := by
          rw [ahead_self] at hc ⊢
          omega
        rw [ahead_inj heq]
        exact Bool.eq_false_iff.2 hfree

/-! ## What the cursor meets first -/

/-- Going up from the cursor, `id` comes before `other`. -/
def MeetsFirst (r : Registry) (id other : UInt16) : Prop := ahead r.cursor id < ahead r.cursor other

theorem cursor_of_register {r r' : Registry} {e : EndpointRef} {id : UInt16}
    (h : r.register e = .ok (id, r')) : r.search 65536 r.cursor = some id ∧ r'.cursor = id + 1 := by
  unfold register at h
  split at h
  · cases h
  · split at h
    · cases h
    · rename_i found hs
      cases h
      exact ⟨hs, rfl⟩

/-- The id that is given out is the first free one. -/
theorem not_meetsFirst_of_register {r r' : Registry} {e : EndpointRef} {given id : UInt16}
    (h : r.register e = .ok (given, r')) (hid : id ≠ 0) (hfree : r.get? id = none) :
    ¬ r.MeetsFirst id given := by
  intro hm
  have := not_isFree_of_passed (cursor_of_register h).1 hm
  rw [isFree_iff.2 ⟨hid, hfree⟩] at this
  cases this

theorem meetsFirst_of_register {r r' : Registry} {e : EndpointRef} {given id : UInt16}
    (h : r.register e = .ok (given, r')) (hne : id ≠ given) : r'.MeetsFirst id given := by
  unfold MeetsFirst
  rw [(cursor_of_register h).2]
  exact ahead_lt_of_ne hne

/-- The cursor goes past an id only where that is in use before or after. -/
theorem MeetsFirst.perform {r : Registry} {id other : UInt16} (h : r.MeetsFirst id other) (hid : id ≠ 0)
    (op : Op) (hbefore : r.get? id = none) (hafter : (r.perform op).get? id = none) :
    (r.perform op).MeetsFirst id other := by
  cases op with
  | register e =>
    cases hr : r.register e with
    | error err => rwa [perform_register_of_error hr]
    | ok result =>
      obtain ⟨given, r'⟩ := result
      rw [perform_register_of_ok hr] at hafter ⊢
      obtain ⟨-, -, hentries⟩ := register_eq_ok hr
      have hne : id ≠ given := by
        rintro rfl
        rw [get?_of_insert hentries, if_pos rfl] at hafter
        cases hafter
      have hpassed : ahead r.cursor given < ahead r.cursor id :=
        Nat.lt_of_le_of_ne (Nat.le_of_not_lt (not_meetsFirst_of_register hr hid hbefore))
          fun he => hne (ahead_inj he).symm
      have hid' := ahead_of_passed hpassed
      have hother := ahead_of_passed (Nat.lt_trans hpassed h)
      unfold MeetsFirst at h ⊢
      rw [(cursor_of_register hr).2]
      omega
  | unregister x =>
    show (r.unregister x).MeetsFirst id other
    unfold unregister
    split <;> exact h
  | release x e =>
    show ahead (r.release x e).cursor id < ahead (r.release x e).cursor other
    rw [(r.release_keeps x e).1]
    exact h
  | evict | clear | setChannelMax => exact h

theorem MeetsFirst.performAll {r : Registry} {id other : UInt16} (h : r.MeetsFirst id other)
    (hid : id ≠ 0) {ops : List Op}
    (hfree : ∀ soFar, soFar <+: ops → (r.performAll soFar).get? id = none) :
    (r.performAll ops).MeetsFirst id other := by
  induction ops generalizing r with
  | nil => exact h
  | cons op ops ih =>
    have hbefore := hfree [] List.nil_prefix
    have hafter := hfree [op] (List.prefix_append [op] ops)
    refine ih (h.perform hid op hbefore hafter) fun soFar hs => ?_
    exact hfree (op :: soFar) (List.cons_prefix_cons.2 ⟨rfl, hs⟩)

/-- Whatever is done to a new registry, an id comes back only after a full revolution: between two times
at which `x` is given out, every other id was in use at some time, as one is right after it was given
out. An id is refused only at the limit, and then nothing changes. -/
theorem comes_back_after_revolution (before : List Op) :
    (∀ e x given, ((empty 0).performAll before).register e = .ok (x, given) →
      ∀ between e' again, (given.performAll between).register e' = .ok (x, again) →
        ∀ y, y ≠ 0 → y ≠ x →
          ∃ soFar, soFar <+: between ∧ ∃ owner, (given.performAll soFar).get? y = some owner) ∧
    (∀ e err, ((empty 0).performAll before).register e = .error err →
      err = .channelMaxReached ∧ ((empty 0).performAll before).AtLimit ∧
      ((empty 0).performAll before).perform (.register e) = (empty 0).performAll before) := by
  constructor
  · intro e x given hgiven between e' again hagain y hy hne
    by_contra hunused
    have hfree : ∀ soFar, soFar <+: between → (given.performAll soFar).get? y = none :=
      fun soFar hs => Option.eq_none_iff_forall_ne_some.2 fun owner ho => hunused ⟨soFar, hs, owner, ho⟩
    have hmeets := (meetsFirst_of_register hgiven hne).performAll hy hfree
    exact not_meetsFirst_of_register hagain hy (hfree between (List.prefix_refl _)) hmeets
  · intro e err herr
    obtain ⟨hwhy, hlimit⟩ := register_eq_error (get?_zero_performAll rfl before) herr
    exact ⟨hwhy, hlimit, perform_register_of_error herr⟩

/-! ## A revolution -/

/-- An id is given out and taken back again. -/
def turn : List Op := [.register (.custom 0), .clear]

theorem performAll_append (r : Registry) (ops ops' : List Op) :
    r.performAll (ops ++ ops') = (r.performAll ops).performAll ops' := List.foldl_append

theorem register_unused {cursor id : UInt16} (h : Registry.search ⟨cursor, 0, ∅⟩ 65536 cursor = some id)
    (e : EndpointRef) : Registry.register ⟨cursor, 0, ∅⟩ e =
      .ok (id, ⟨id + 1, 0, (∅ : Std.TreeMap UInt16 EndpointRef).insert id e⟩) := by
  have hroom : Registry.isFull ⟨cursor, 0, ∅⟩ = false := rfl
  simp only [register, hroom, Bool.false_eq_true, if_false, h]

theorem search_unused {cursor : UInt16} (h : cursor ≠ 0) :
    Registry.search ⟨cursor, 0, ∅⟩ 65536 cursor = some cursor := by
  unfold search
  exact if_pos (isFree_iff.2 ⟨h, rfl⟩)

/-- So many ids are given out and taken back, up to the highest. -/
theorem performAll_turns {n : Nat} (h : n ≤ 65534) :
    Registry.performAll ⟨2, 0, ∅⟩ (List.replicate n turn).flatten = ⟨2 + .ofNat n, 0, ∅⟩ := by
  induction n with
  | zero => rfl
  | succ n ih =>
    have hne : (2 + .ofNat n : UInt16) ≠ 0 := by
      intro he
      have hn := congrArg UInt16.toNat he
      rw [UInt16.toNat_add, UInt16.toNat_ofNat_of_lt' (Nat.lt_of_succ_lt (Nat.lt_of_le_of_lt h (by decide)))]
        at hn
      change (2 + n) % 65536 = 0 at hn
      omega
    rw [List.replicate_succ', List.flatten_append, performAll_append, ih (by omega), List.flatten_singleton]
    show (Registry.perform ⟨2 + .ofNat n, 0, ∅⟩ (.register (.custom 0))).clear = _
    rw [perform_register_of_ok (register_unused (search_unused hne) _)]
    show (⟨_, _, _⟩ : Registry) = _
    congr 1
    rw [UInt16.add_assoc, ← UInt16.ofNat_one, ← UInt16.ofNat_add]

/-- The first id comes back after all others were given out once, and so was the highest of them. A
limit that is reached leaves the cursor where it is. -/
theorem comes_back_after_revolution_cleared : ∃ given between again,
    (empty 0).register (.custom 0) = .ok (1, given) ∧
    (given.performAll between).register (.custom 1) = .ok (1, again) ∧
    (∃ soFar, soFar <+: between ∧ ∃ owner, (given.performAll soFar).get? 65535 = some owner) ∧
    ((empty 0).performAll [.register (.custom 0), .setChannelMax 1]).register (.custom 1) =
      .error .channelMaxReached ∧
    (((empty 0).performAll [.register (.custom 0), .setChannelMax 1]).perform
      (.register (.custom 1))).cursor = 2 := by
  obtain ⟨given, hgiven, hcleared⟩ : ∃ given, (empty 0).register (.custom 0) = .ok (1, given) ∧
      given.clear = ⟨2, 0, ∅⟩ := ⟨_, register_unused (search_unused (by decide)) _, rfl⟩
  obtain ⟨turns, hturns⟩ : ∃ turns, Registry.performAll ⟨2, 0, ∅⟩ turns = ⟨0, 0, ∅⟩ := by
    have hall := performAll_turns (n := 65534) (Nat.le_refl _)
    rw [show (2 + .ofNat 65534 : UInt16) = 0 from rfl] at hall
    exact ⟨_, hall⟩
  obtain ⟨again, hagain⟩ : ∃ again,
      (given.performAll (.clear :: turns)).register (.custom 1) = .ok (1, again) := by
    show ∃ again, (given.clear.performAll turns).register _ = _
    rw [hcleared, hturns]
    exact ⟨_, register_unused rfl _⟩
  have hfails : ((empty 0).performAll [.register (.custom 0), .setChannelMax 1]).register (.custom 1) =
      .error .channelMaxReached := rfl
  refine ⟨given, _, again, hgiven, hagain,
    (comes_back_after_revolution []).1 _ _ _ hgiven _ _ _ hagain 65535 (by decide) (by decide), hfails, ?_⟩
  rw [((comes_back_after_revolution _).2 _ _ hfails).2.2]
  rfl

end Registry

/-! ## Runs of a connection -/

theorem Connection.Move.exists_performAll {t : Option Task} {k k' : Connection} {es : List Event}
    (h : Connection.Move t k es k') : ∃ ops, k'.registry = k.registry.performAll ops := by
  cases h with
  | register e id r ho hr => exact ⟨[.register e], (Registry.perform_register_of_ok hr).symm⟩
  | release id e => exact ⟨[.release id e], rfl⟩
  | clear => exact ⟨[.clear], rfl⟩
  | tune limits => exact ⟨[.setChannelMax limits.channelMax, .evict], rfl⟩
  | shut => exact ⟨[.clear], rfl⟩
  | _ => exact ⟨[], rfl⟩

/-- Whatever happens to a connection, its registry only goes through these operations. -/
theorem Session.Reachable.exists_performAll {σ : Session} (h : σ.Reachable) :
    ∃ ops, σ.store.connection.registry = (Registry.empty 0).performAll ops := by
  refine h.connection_induction (P := fun k _ => ∃ ops, k.registry = (Registry.empty 0).performAll ops)
    (fun o => ⟨[.setChannelMax o.channelMax], rfl⟩) ?_ fun _ _ _ hk _ => hk
  rintro t k es k' log ⟨ops, hops⟩ hm
  obtain ⟨more, hmore⟩ := hm.exists_performAll
  exact ⟨ops ++ more, by rw [hmore, hops, Registry.performAll_append]⟩

end AmqpSession
