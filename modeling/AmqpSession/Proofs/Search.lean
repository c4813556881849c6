/-
How long it takes to find a free id. The search as such has no bound: the cursor goes on until it stands
on an id that is free. But 0 is never in use, and a registry that is not full leaves another id over; so
there is a first free id ahead, and every step before it brings the cursor one nearer to it, across the
highest id and 0 too. The search ends there within one round, and the bound of `search`, which is one
round, cuts off only what would go on for ever.
-/
import AmqpSession.Proofs.Revolution

namespace AmqpSession.Registry

/-! ## The search as steps of the cursor -/

/-- The cursor goes past an id that is not free. -/
def skip (r : Registry) : Registry := { r with cursor := r.cursor + 1 }

/-- The cursor goes past `id`, which belongs to `e` from now on. -/
def give (r : Registry) (id : UInt16) (e : EndpointRef) : Registry :=
  { r with cursor := id + 1, entries := r.entries.insert id e }

/-- The search for `e`, with no bound, ends after so many steps of the cursor: it gives out this id and
leaves this registry. -/
inductive Searches (e : EndpointRef) : Registry → Nat → UInt16 → Registry → Prop where
  | found {r : Registry} (h : r.isFree r.cursor = true) : Searches e r 1 r.cursor (r.give r.cursor e)
  | passed {r r' : Registry} {n : Nat} {id : UInt16} (h : r.isFree r.cursor = false)
      (hs : Searches e r.skip n id r') : Searches e r (n + 1) id r'

namespace Searches

variable {e : EndpointRef} {r r' : Registry} {n : Nat} {id : UInt16}

/-- A search ends in one way at most. -/
theorem unique {r'' : Registry} {n' : Nat} {id' : UInt16} (h : r.Searches e n id r')
    (h' : r.Searches e n' id' r'') : n = n' ∧ id = id' ∧ r' = r'' := by
  induction h generalizing n' with
  | found hfree =>
    cases h' with
    | found => exact ⟨rfl, rfl, rfl⟩
    | passed htaken =>
      rw [hfree] at htaken
      cases htaken
  | passed htaken _ ih =>
    cases h' with
    | found hfree =>
      rw [hfree] at htaken
      cases htaken
    | passed _ hs =>
      obtain ⟨rfl, rfl, rfl⟩ := ih hs
      exact ⟨rfl, rfl, rfl⟩

theorem isFree (h : r.Searches e n id r') : r.isFree id = true := by
  induction h with
  | found hfree => exact hfree
  -- what is free does not depend on where the cursor is
  | passed _ _ ih => exact ih

end Searches

/-! ## The next free id -/

theorem ahead_eq_zero_iff {cursor id : UInt16} : ahead cursor id = 0 ↔ cursor = id := by
  constructor
  · intro h
    exact ahead_inj ((ahead_self cursor).trans h.symm)
  · rintro rfl
    exact ahead_self cursor

/-- A step brings the cursor one nearer to every id but the one that it goes past. -/
theorem ahead_succ {cursor id : UInt16} (h : cursor ≠ id) :
    ahead (cursor + 1) id + 1 = ahead cursor id := by
  have hpos : ahead cursor cursor < ahead cursor id := by
    rw [ahead_self]
    exact Nat.pos_of_ne_zero fun hz => h (ahead_eq_zero_iff.1 hz)
  have hpassed := ahead_of_passed hpos
  rwa [ahead_self] at hpassed

/-- Going up from the cursor, with 0 after the highest, `id` is the first that is free. -/
structure IsNextFree (r : Registry) (id : UInt16) : Prop where
  ne_zero : id ≠ 0
  unused : r.get? id = none
  first : ∀ x, x ≠ 0 → r.get? x = none → ahead r.cursor id ≤ ahead r.cursor x

namespace IsNextFree

variable {r : Registry} {id : UInt16}

theorem unique {id' : UInt16} (h : r.IsNextFree id) (h' : r.IsNextFree id') : id = id' :=
  ahead_inj (Nat.le_antisymm (h.first id' h'.ne_zero h'.unused) (h'.first id h.ne_zero h.unused))

theorem isFree_cursor_iff (h : r.IsNextFree id) : r.isFree r.cursor = true ↔ r.cursor = id := by
  constructor
  · intro hfree
    obtain ⟨hne, hunused⟩ := isFree_iff.1 hfree
    have hle := h.first r.cursor hne hunused
    rw [ahead_self] at hle
    exact ahead_eq_zero_iff.1 (Nat.le_zero.1 hle)
  · intro heq
    rw [heq]
    exact isFree_iff.2 ⟨h.ne_zero, h.unused⟩

/-- Past an id that is not free, the next free one is the same. -/
theorem skip (h : r.IsNextFree id) (hne : r.cursor ≠ id) : r.skip.IsNextFree id := by
  refine ⟨h.ne_zero, h.unused, fun x hx hunused => ?_⟩
  have hcursor : r.cursor ≠ x := by
    rintro rfl
    exact hne (h.isFree_cursor_iff.1 (isFree_iff.2 ⟨hx, hunused⟩))
  have hle := h.first x hx hunused
  rw [← ahead_succ hne, ← ahead_succ hcursor] at hle
  exact Nat.le_of_succ_le_succ hle

/-- The search goes up to the next free id and ends with it. -/
theorem searches (h : r.IsNextFree id) (e : EndpointRef) :
    r.Searches e (ahead r.cursor id + 1) id (r.give id e) := by
  -- by induction on the distance, which every step before the last makes one less
  induction hd : ahead r.cursor id generalizing r with
  | zero =>
    obtain rfl := ahead_eq_zero_iff.1 hd
    exact .found (h.isFree_cursor_iff.2 rfl)
  | succ d ih =>
    have hne : r.cursor ≠ id := by
      intro heq
      rw [ahead_eq_zero_iff.2 heq] at hd
      cases hd
    have htaken := Bool.eq_false_iff.2 fun hfree => hne (h.isFree_cursor_iff.1 hfree)
    have hnearer : ahead r.skip.cursor id = d := Nat.succ.inj ((ahead_succ hne).trans hd)
    exact .passed htaken (ih (h.skip hne) hnearer)

end IsNextFree

/-! ## One round is enough -/

theorem isNextFree_of_search {r : Registry} {id : UInt16} (h : r.search 65536 r.cursor = some id) :
    r.IsNextFree id := by
  obtain ⟨hne, hunused⟩ := isFree_iff.1 (isFree_of_search h)
  refine ⟨hne, hunused, fun x hx hx' => Nat.le_of_not_lt fun hlt => ?_⟩
  have htaken := not_isFree_of_passed h hlt
  rw [isFree_iff.2 ⟨hx, hx'⟩] at htaken
  cases htaken

theorem exists_search {r : Registry} {id : UInt16} (hid : id ≠ 0) (hunused : r.get? id = none) :
    ∃ found, r.search 65536 r.cursor = some found := by
  refine Option.ne_none_iff_exists'.1 fun hs => ?_
  obtain ⟨e, he⟩ := taken_of_search hs hid
  rw [hunused] at he
  cases he

theorem exists_isNextFree {r : Registry} {id : UInt16} (hid : id ≠ 0) (hunused : r.get? id = none) :
    ∃ next, r.IsNextFree next := by
  obtain ⟨next, hs⟩ := exists_search hid hunused
  exact ⟨next, isNextFree_of_search hs⟩

theorem search_eq_some_iff {r : Registry} {id : UInt16} :
    r.search 65536 r.cursor = some id ↔ r.IsNextFree id := by
  refine ⟨isNextFree_of_search, fun h => ?_⟩
  obtain ⟨found, hs⟩ := exists_search h.ne_zero h.unused
  rw [hs, (isNextFree_of_search hs).unique h]

/-- A search that is given up after one round would never end. -/
theorem search_eq_some_iff_searches {r : Registry} {id : UInt16} (e : EndpointRef) :
    r.search 65536 r.cursor = some id ↔ ∃ n r', r.Searches e n id r' := by
  rw [search_eq_some_iff]
  constructor
  · intro h
    exact ⟨_, _, h.searches e⟩
  · rintro ⟨n, r', hs⟩
    obtain ⟨hne, hunused⟩ := isFree_iff.1 hs.isFree
    obtain ⟨next, hnext⟩ := exists_isNextFree hne hunused
    obtain ⟨-, rfl, -⟩ := hs.unique (hnext.searches e)
    exact hnext

theorem register_eq_ok_iff {r r' : Registry} {e : EndpointRef} {id : UInt16} :
    r.register e = .ok (id, r') ↔ r.isFull = false ∧ r.IsNextFree id ∧ r' = r.give id e := by
  constructor
  · intro h
    unfold register at h
    split at h
    · cases h
    · rename_i hroom
      split at h
      · cases h
      · rename_i found hs
        cases h
        exact ⟨Bool.eq_false_iff.2 hroom, search_eq_some_iff.1 hs, rfl⟩
  · rintro ⟨hroom, hid, rfl⟩
    unfold register
    rw [if_neg (Bool.eq_false_iff.1 hroom), search_eq_some_iff.2 hid]
    rfl

/-! ## Room for another -/

theorem exists_unused {r : Registry} (hz : r.get? 0 = none) (hroom : r.isFull = false) :
    ∃ id, id ≠ 0 ∧ r.get? id = none := by
  by_contra hall
  have hlimit : r.AtLimit := .inr fun id hid =>
    Option.ne_none_iff_exists'.1 fun hunused => hall ⟨id, hid, hunused⟩
  rw [← isFull_iff hz, hroom] at hlimit
  cases hlimit

theorem isFull_eq_false_of_unused {r : Registry} (hz : r.get? 0 = none) (hmax : r.channelMax = 0)
    {id : UInt16} (hid : id ≠ 0) (hunused : r.get? id = none) : r.isFull = false := by
  rw [← Bool.not_eq_true, isFull_iff hz]
  rintro (⟨hne, -⟩ | hall)
  · exact hne hmax
  · obtain ⟨e, he⟩ := hall id hid
    rw [hunused] at he
    cases he

/-! ## Every registry there can be -/

/-- What operations make of a new registry, whichever they are. -/
def Arises (r : Registry) : Prop := ∃ ops, r = (empty 0).performAll ops

theorem arises_empty : (empty 0).Arises := ⟨[], rfl⟩

theorem Arises.perform {r : Registry} (h : r.Arises) (op : Op) : (r.perform op).Arises := by
  obtain ⟨ops, rfl⟩ := h
  exact ⟨ops ++ [op], (performAll_append _ ops [op]).symm⟩

theorem Arises.get?_zero {r : Registry} (h : r.Arises) : r.get? 0 = none := by
  obtain ⟨ops, rfl⟩ := h
  exact get?_zero_performAll rfl ops

/-! ## All ids in use -/

/-- The ids up to `n` are in use, and the cursor is right behind them. -/
structure HoldsUpTo (r : Registry) (n : Nat) : Prop where
  cursor : r.cursor = .ofNat (n + 1)
  channelMax : r.channelMax = 0
  unused_iff : ∀ x, r.get? x = none ↔ x = 0 ∨ n < x.toNat

theorem HoldsUpTo.register {r : Registry} {n : Nat} (h : r.HoldsUpTo n) (hn : n < 65535)
    (e : EndpointRef) : (r.perform (.register e)).HoldsUpTo (n + 1) := by
  have hnat : r.cursor.toNat = n + 1 := by
    rw [h.cursor]
    exact UInt16.toNat_ofNat_of_lt' (Nat.succ_lt_succ hn)
  have hne : r.cursor ≠ 0 := by
    intro hz
    rw [hz] at hnat
    cases hnat
  have hunused : r.get? r.cursor = none := (h.unused_iff _).2 (.inr (by omega))
  have hnext : r.IsNextFree r.cursor := by
    refine ⟨hne, hunused, fun x _ _ => ?_⟩
    rw [ahead_self]
    exact Nat.zero_le _
  have hroom := isFull_eq_false_of_unused ((h.unused_iff 0).2 (.inl rfl)) h.channelMax hne hunused
  rw [perform_register_of_ok (register_eq_ok_iff.2 ⟨hroom, hnext, rfl⟩)]
  refine ⟨?_, h.channelMax, fun x => ?_⟩
  · show r.cursor + 1 = _
    rw [h.cursor, ← UInt16.ofNat_one, ← UInt16.ofNat_add]
  · rw [get?_of_insert (r := r) rfl]
    by_cases hx : x = r.cursor
    · rw [if_pos hx, hx, hnat]
      simp [hne]
    · have hx' : x.toNat ≠ n + 1 := fun he => hx (UInt16.toNat_inj.1 (he.trans hnat.symm))
      rw [if_neg hx, h.unused_iff]
      exact or_congr_right (by omega)

theorem exists_holdsUpTo {n : Nat} (hn : n ≤ 65535) : ∃ r : Registry, r.Arises ∧ r.HoldsUpTo n := by
  induction n with
  | zero =>
    refine ⟨empty 0, arises_empty, rfl, rfl, fun x => iff_of_true rfl ?_⟩
    rw [← UInt16.toNat_inj]
    exact Nat.eq_zero_or_pos _
  | succ n ih =>
    obtain ⟨r, harises, hholds⟩ := ih (Nat.le_of_succ_le hn)
    exact ⟨_, harises.perform (.register (.custom 0)), hholds.register hn (.custom 0)⟩

theorem HoldsUpTo.all_used {r : Registry} (h : r.HoldsUpTo 65535) {id : UInt16} (hid : id ≠ 0) :
    ∃ e, r.get? id = some e := by
  refine Option.ne_none_iff_exists'.1 fun hunused => ?_
  have hlt := id.toNat_lt
  have hbeyond := ((h.unused_iff id).1 hunused).resolve_left hid
  omega

/-- Where all ids are in use, the one that is given back is the next to be given out. -/
theorem isNextFree_release {r : Registry} (hall : ∀ x, x ≠ 0 → ∃ e, r.get? x = some e)
    {id : UInt16} (hid : id ≠ 0) {e : EndpointRef} (h : r.get? id = some e) :
    (r.release id e).IsNextFree id := by
  have hget := get?_release hid h
  refine ⟨hid, by rw [hget, if_pos rfl], fun x hx hunused => ?_⟩
  by_cases heq : x = id
  · rw [heq]
  · obtain ⟨e', he'⟩ := hall x hx
    rw [hget, if_neg heq, he'] at hunused
    cases hunused

/-! ## The end of the search -/

/-- Where the limits leave room, the search for an id ends within one round of 65536 steps, in this one
way: with the first id from the cursor on that is neither 0 nor in use. The cursor is right behind it
afterwards, it belongs to the endpoint, and no other id and no limit changes. -/
theorem search_ends_at_next_free {r : Registry} (h : r.Arises) (hroom : r.isFull = false)
    (e : EndpointRef) :
    ∃ steps id given, steps ≤ 65536 ∧ r.IsNextFree id ∧
      (∀ n x r', r.Searches e n x r' ↔ n = steps ∧ x = id ∧ r' = given) ∧
      r.register e = .ok (id, given) ∧
      given.cursor = id + 1 ∧
      (∀ x, given.get? x = if x = id then some e else r.get? x) ∧
      given.channelMax = r.channelMax := by
  obtain ⟨unused, hne, hunused⟩ := exists_unused h.get?_zero hroom
  obtain ⟨id, hid⟩ := exists_isNextFree hne hunused
  have hs := hid.searches e
  refine ⟨_, id, _, (id - _).toNat_lt, hid, fun n x r' => ⟨fun hs' => hs'.unique hs, ?_⟩,
    register_eq_ok_iff.2 ⟨hroom, hid, rfl⟩, rfl, get?_of_insert rfl, rfl⟩
  rintro ⟨rfl, rfl, rfl⟩
  exact hs

/-- Every id was given out and the last one taken back: the search goes all the way round to it. -/
theorem search_ends_at_next_free_after_whole_round : ∃ r given : Registry,
    r.Arises ∧ r.isFull = false ∧ r.cursor = 0 ∧ r.Searches (.custom 1) 65536 65535 given ∧
      r.register (.custom 1) = .ok (65535, given) ∧ given.cursor = 0 ∧ given.channelMax = 0 := by
  obtain ⟨full, hfull, hholds⟩ := exists_holdsUpTo (Nat.le_refl 65535)
  obtain ⟨owner, howner⟩ := hholds.all_used (show (65535 : UInt16) ≠ 0 by decide)
  have harises : (full.release 65535 owner).Arises := hfull.perform (.release 65535 owner)
  have hnext := isNextFree_release (fun _ => hholds.all_used) (by decide) howner
  obtain ⟨hcursor, hmax⟩ := full.release_keeps 65535 owner
  rw [hholds.cursor] at hcursor
  rw [hholds.channelMax] at hmax
  have hroom := isFull_eq_false_of_unused harises.get?_zero hmax hnext.ne_zero hnext.unused
  obtain ⟨steps, id, given, -, hid, hends, hregister, hgiven, -, hlimit⟩ :=
    search_ends_at_next_free harises hroom (.custom 1)
  obtain rfl := hid.unique hnext
  obtain ⟨hsteps, -, -⟩ := (hends _ _ _).1 (hnext.searches (.custom 1))
  rw [hcursor] at hsteps
  exact ⟨_, given, harises, hroom, hcursor, (hends _ _ _).2 ⟨hsteps, rfl, rfl⟩, hregister, hgiven,
    hlimit.trans hmax⟩

end AmqpSession.Registry
