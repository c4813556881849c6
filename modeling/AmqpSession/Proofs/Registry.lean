/-
Giving ids out and taking them back, by what the registry says of every id.
-/
import AmqpSession.Registry

namespace AmqpSession.Registry

theorem isFree_of_search {r : Registry} {steps : Nat} {cursor id : UInt16}
    (h : r.search steps cursor = some id) : r.isFree id = true := by
  induction steps generalizing cursor with
  | zero => cases h
  | succ steps ih =>
    unfold search at h
    split at h
    · rename_i hf
      cases h
      exact hf
    · exact ih h

/-- An id that is given out was free. -/
theorem register_eq_ok {r r' : Registry} {e : EndpointRef} {id : UInt16}
    (h : r.register e = .ok (id, r')) :
    id ≠ 0 ∧ r.get? id = none ∧ r'.entries = r.entries.insert id e := by
  unfold register at h
  split at h
  · cases h
  · split at h
    · cases h
    · rename_i found hs
      cases h
      have hfree := isFree_of_search hs
      simp only [isFree, Bool.and_eq_true, bne_iff_ne, ne_eq, Bool.not_eq_true'] at hfree
      have hmem : ¬ id ∈ r.entries := by
        rw [← Std.TreeMap.contains_iff_mem, hfree.2]
        exact Bool.false_ne_true
      exact ⟨hfree.1, Std.TreeMap.getElem?_eq_none hmem, rfl⟩

theorem get?_of_insert {r r' : Registry} {id : UInt16} {e : EndpointRef}
    (h : r'.entries = r.entries.insert id e) (x : UInt16) :
    r'.get? x = if x = id then some e else r.get? x := by
  show r'.entries[x]? = _
  rw [h, Std.TreeMap.getElem?_insert]
  simp only [Std.LawfulEqCmp.compare_eq_iff_eq]
  by_cases hx : id = x
  · rw [if_pos hx, if_pos hx.symm]
  · rw [if_neg hx, if_neg (fun h' => hx h'.symm)]
    rfl

theorem get?_release {r : Registry} {id : UInt16} {e : EndpointRef} (hid : id ≠ 0)
    (h : r.get? id = some e) (x : UInt16) :
    (r.release id e).get? x = if x = id then none else r.get? x := by
  unfold release
  rw [if_pos ⟨hid, h⟩]
  show (r.entries.erase id)[x]? = _
  rw [Std.TreeMap.getElem?_erase]
  simp only [Std.LawfulEqCmp.compare_eq_iff_eq]
  by_cases hx : id = x
  · rw [if_pos hx, if_pos hx.symm]
  · rw [if_neg hx, if_neg (fun h' => hx h'.symm)]
    rfl

/-- An endpoint that has no id gives none back. -/
theorem release_of_ne {r : Registry} {id : UInt16} {e : EndpointRef}
    (h : ¬ (id ≠ 0 ∧ r.get? id = some e)) : r.release id e = r := if_neg h

theorem release_keeps (r : Registry) (id : UInt16) (e : EndpointRef) :
    (r.release id e).cursor = r.cursor ∧ (r.release id e).channelMax = r.channelMax := by
  unfold release
  split <;> exact ⟨rfl, rfl⟩

theorem get?_of_get?_release {r : Registry} {id id' : UInt16} {e e' : EndpointRef}
    (h : (r.release id e).get? id' = some e') : r.get? id' = some e' := by
  by_cases hc : id ≠ 0 ∧ r.get? id = some e
  · rw [get?_release hc.1 hc.2] at h
    split at h
    · cases h
    · exact h
  · rwa [release_of_ne hc] at h

/-- An endpoint that gives its id back leaves the ids of others alone. -/
theorem get?_release_iff {r : Registry} {id x : UInt16} {e e' : EndpointRef} (h : e ≠ e') :
    (r.release id e).get? x = some e' ↔ r.get? x = some e' := by
  refine ⟨get?_of_get?_release, fun hx => ?_⟩
  by_cases hc : id ≠ 0 ∧ r.get? id = some e
  · rw [get?_release hc.1 hc.2, if_neg]
    · exact hx
    · rintro rfl
      exact h (Option.some.inj (hc.2.symm.trans hx))
  · rwa [release_of_ne hc]

theorem isEmpty_release {r : Registry} (h : r.entries.isEmpty = true) (id : UInt16)
    (e : EndpointRef) : (r.release id e).entries.isEmpty = true := by
  unfold release
  split
  · simp [Std.TreeMap.isEmpty_erase, h]
  · exact h

/-! ## Nothing in use -/

theorem entries_eq_empty {r : Registry} (h : r.entries.isEmpty = true) : r.entries = ∅ := by
  obtain ⟨cursor, channelMax, ⟨⟨inner, wf⟩⟩⟩ := r
  cases inner with
  | leaf => rfl
  | inner => cases h

theorem isEmpty_of_get? {r : Registry} (h : ∀ id, r.get? id = none) : r.entries.isEmpty = true := by
  rw [Std.TreeMap.isEmpty_iff_forall_not_mem]
  intro id hid
  rw [Std.TreeMap.mem_iff_isSome_getElem?, show r.entries[id]? = none from h id] at hid
  cases hid

theorem clear_eq_self {r : Registry} (h : r.entries.isEmpty = true) : r.clear = r := by
  rw [clear, ← r.entries_eq_empty h]

theorem endpoints_eq_nil {r : Registry} (h : r.entries.isEmpty = true) : r.endpoints = [] := by
  rw [endpoints, r.entries_eq_empty h]
  rfl

end AmqpSession.Registry
