/-
A connection at rest: established, with nothing held back and no work going on. What an operation on
one channel leaves behind differs in that channel and in one id (`Alters`); `Turns` says it in terms
of what every id belongs to.
-/
import AmqpSession.Proofs.Registry
import AmqpSession.Proofs.Store

namespace AmqpSession

open Wire

namespace Store

/-! ## One channel of many -/

section Channels

variable (s : Store) {c d : Nat}

theorem channel_mapChannel (h : c < s.channels.length) (f : Channel → Channel) :
    (s.mapChannel c f).channel c = f (s.channel c) := by
  unfold channel mapChannel
  rw [List.getElem?_modify_eq, List.getElem?_eq_getElem h]
  rfl

theorem channel_mapChannel_of_ne (h : d ≠ c) (f : Channel → Channel) :
    (s.mapChannel c f).channel d = s.channel d := by
  unfold channel mapChannel
  rw [List.getElem?_modify_ne f _ (Ne.symm h)]

theorem channel_hold (h : c < s.channels.length) :
    (s.hold (.channel c)).channel c = { s.channel c with held := (s.channel c).held + 1 } :=
  s.channel_mapChannel h _

theorem mapChannel_mapChannel (c : Nat) (f g : Channel → Channel) :
    (s.mapChannel c f).mapChannel c g = s.mapChannel c (g ∘ f) := by
  unfold mapChannel
  rw [List.modify_modify_eq]

theorem length_mapChannel (c : Nat) (f : Channel → Channel) :
    (s.mapChannel c f).channels.length = s.channels.length := List.length_modify ..

/-- There is nothing beyond the last channel. -/
theorem channel_of_length_le (h : s.channels.length ≤ c) : s.channel c = .gone := by
  unfold channel
  rw [List.getElem?_eq_none h]
  rfl

theorem channel_length : s.channel s.channels.length = .gone := s.channel_of_length_le (Nat.le_refl _)

theorem lose_hold (c : Nat) : (s.hold (.channel c)).lose (.channel c) = s := by
  show (s.mapChannel c _).mapChannel c _ = s
  rw [mapChannel_mapChannel]
  unfold mapChannel
  have hid : ((fun ch : Channel => { ch with held := ch.held - 1 }) ∘ fun ch =>
      { ch with held := ch.held + 1 }) = id := by
    funext ch
    show ({ ch with held := ch.held + 1 - 1 } : Channel) = ch
    rw [Nat.add_sub_cancel]
  rw [hid, List.modify_id]

theorem loseHandle_holdHandle : s.holdHandle.loseHandle = s := by
  show ({ s with connection := { s.connection with held := s.connection.held + 1 - 1 } } : Store) = s
  rw [Nat.add_sub_cancel]

end Channels

theorem lt_length_of_owned {s : Store} {c : Nat} (h : (s.channel c).owned ≠ 0) :
    c < s.channels.length := by
  refine Nat.lt_of_not_le fun hc => h ?_
  rw [s.channel_of_length_le hc]
  rfl

end Store

/-! ## At rest -/

/-- A channel of user code that can be used under its id. -/
structure Channel.IsNamed (ch : Channel) (id : UInt16) : Prop where
  id_eq : ch.id = id
  ne_zero : id ≠ 0
  attached : ch.attached = true
  owned : ch.owned ≠ 0
  state : ch.state ≠ .closed

namespace Store

variable {s s' : Store} {c : Nat} {id : UInt16}

/-- The connection is established and user code holds on to it. An id belongs to a channel of user
code that was not closed yet, and such a channel has its id. -/
structure Rests (s : Store) : Prop where
  connected : s.connection.state = .connected
  alive : s.connection.alive = true
  owned : s.connection.owned ≠ 0
  queue : s.connection.queue = []
  held : ∀ c, (s.channel c).held = 0
  named : ∀ {id e}, s.connection.registry.get? id = some e →
    ∃ c, e = .channel c ∧ (s.channel c).IsNamed id
  known : ∀ {c}, (s.channel c).owned ≠ 0 → (s.channel c).state ≠ .closed →
    s.connection.registry.get? (s.channel c).id = some (.channel c)

/-- The state of the channel that an id belongs to. -/
def stateOn (s : Store) (id : UInt16) : Option ChannelState :=
  match s.connection.registry.get? id with
  | some (.channel c) => some (s.channel c).state
  | _ => none

/-- A channel that no id belongs to any more. -/
def IsRetired (s : Store) (c : Nat) : Prop :=
  c < s.channels.length ∧ ∀ id, s.connection.registry.get? id ≠ some (.channel c)

theorem stateOn_of_get? (h : s.connection.registry.get? id = some (.channel c)) :
    s.stateOn id = some (s.channel c).state := by
  rw [stateOn, h]

theorem stateOn_of_get?_none (h : s.connection.registry.get? id = none) : s.stateOn id = none := by
  rw [stateOn, h]

theorem exists_of_stateOn {state : ChannelState} (h : s.stateOn id = some state) :
    ∃ c, s.connection.registry.get? id = some (.channel c) ∧ (s.channel c).state = state := by
  unfold stateOn at h
  split at h
  · rename_i c hc
    exact ⟨c, hc, Option.some.inj h⟩
  · cases h

namespace Rests

theorem isNamed (hs : s.Rests) (h : s.connection.registry.get? id = some (.channel c)) :
    (s.channel c).IsNamed id := by
  obtain ⟨_, ⟨⟩, hn⟩ := hs.named h
  exact hn

theorem get?_zero (hs : s.Rests) : s.connection.registry.get? 0 = none := by
  cases h : s.connection.registry.get? 0 with
  | none => rfl
  | some e =>
    obtain ⟨c, -, hn⟩ := hs.named h
    exact absurd rfl hn.ne_zero

theorem get?_of_stateOn_none (hs : s.Rests) (h : s.stateOn id = none) :
    s.connection.registry.get? id = none := by
  cases hg : s.connection.registry.get? id with
  | none => rfl
  | some e =>
    obtain ⟨c, rfl, -⟩ := hs.named hg
    rw [stateOn_of_get? hg] at h
    cases h

theorem get?_ne_length (hs : s.Rests) (id : UInt16) :
    s.connection.registry.get? id ≠ some (.channel s.channels.length) := by
  intro h
  have howned := (hs.isNamed h).owned
  rw [channel_length] at howned
  exact howned rfl

theorem owned_of_isLive (hs : s.Rests) (h : s.isLive (.channel c) = true) :
    (s.channel c).owned ≠ 0 := by
  have hlive : (s.channel c).owned + (s.channel c).held ≠ 0 := bne_iff_ne.1 h
  rw [hs.held c] at hlive
  exact hlive

theorem holdHandle (hs : s.Rests) : s.holdHandle.Rests :=
  ⟨hs.connected, hs.alive, hs.owned, hs.queue, hs.held, hs.named, hs.known⟩

theorem loseHandle (hs : s.Rests) : s.loseHandle.Rests :=
  ⟨hs.connected, hs.alive, hs.owned, hs.queue, hs.held, hs.named, hs.known⟩

/-- A channel without an id is closed as far as user code can see. -/
theorem state_of_isRetired (hs : s.Rests) (h : s.IsRetired c) (hl : s.isLive (.channel c) = true) :
    (s.channel c).state = .closed :=
  Decidable.byContradiction fun hne => h.2 _ (hs.known (hs.owned_of_isLive hl) hne)

end Rests

/-! ## From rest to rest -/

/-- The connection is at rest again. Of all ids, only the one that is named may belong to a channel in
another state than before, or to nobody any more. -/
structure Turns (s s' : Store) (id : UInt16) (state : Option ChannelState) : Prop where
  rests : s'.Rests
  connection : s'.connection = { s.connection with registry := s'.connection.registry }
  stateOn : ∀ x, s'.stateOn x = if x = id then state else s.stateOn x
  get? : ∀ {x c}, s.connection.registry.get? x = some (.channel c) →
    s'.connection.registry.get? x = some (.channel c) ∨ x = id ∧ state = none
  retired : ∀ {c}, s.IsRetired c → s'.IsRetired c
  left : ∀ {c}, s.connection.registry.get? id = some (.channel c) → state = none → s'.IsRetired c

theorem Turns.refl (hs : s.Rests) (id : UInt16) : Turns s s id (s.stateOn id) where
  rests := hs
  connection := rfl
  stateOn x := by
    by_cases hx : x = id
    · rw [if_pos hx, hx]
    · rw [if_neg hx]
  get? h := .inl h
  retired h := h
  left h hst := by
    rw [stateOn_of_get? h] at hst
    cases hst

/-- All but one channel and one id are as before; the id belonged to that channel, if to any. -/
structure Alters (s s' : Store) (c : Nat) (id : UInt16) : Prop where
  connection : s'.connection = { s.connection with registry := s'.connection.registry }
  length : s.channels.length ≤ s'.channels.length
  channel : ∀ d, d ≠ c → s'.channel d = s.channel d
  held : (s'.channel c).held = 0
  get? : ∀ x, x ≠ id → s'.connection.registry.get? x = s.connection.registry.get? x
  own : ∀ x, s.connection.registry.get? x = some (.channel c) → x = id
  only : ∀ d, s.connection.registry.get? id = some (.channel d) → d = c

namespace Alters

theorem stateOn_of_ne (h : Alters s s' c id) {x : UInt16} (hx : x ≠ id) :
    s'.stateOn x = s.stateOn x := by
  unfold stateOn
  rw [h.get? x hx]
  split
  · rename_i d hd
    have hdc : d ≠ c := by
      rintro rfl
      exact hx (h.own x hd)
    rw [h.channel d hdc]
  · rfl

theorem rests (h : Alters s s' c id) (hs : s.Rests)
    (hn : ∀ e, s'.connection.registry.get? id = some e → e = .channel c ∧ (s'.channel c).IsNamed id)
    (hk : (s'.channel c).owned ≠ 0 → (s'.channel c).state ≠ .closed →
      s'.connection.registry.get? (s'.channel c).id = some (.channel c)) : s'.Rests where
  connected := by rw [h.connection]; exact hs.connected
  alive := by rw [h.connection]; exact hs.alive
  owned := by rw [h.connection]; exact hs.owned
  queue := by rw [h.connection]; exact hs.queue
  held := by
    intro d
    by_cases hd : d = c
    · rw [hd]; exact h.held
    · rw [h.channel d hd]; exact hs.held d
  named := by
    intro x e hx
    by_cases hid : x = id
    · subst hid
      exact ⟨c, hn e hx⟩
    · rw [h.get? x hid] at hx
      obtain ⟨d, rfl, hd⟩ := hs.named hx
      have hdc : d ≠ c := by
        rintro rfl
        exact hid (h.own x hx)
      exact ⟨d, rfl, (h.channel d hdc).symm ▸ hd⟩
  known := by
    intro d ho hst
    by_cases hd : d = c
    · rw [hd] at ho hst ⊢
      exact hk ho hst
    · -- another channel is known under another id
      rw [h.channel d hd] at ho hst ⊢
      have hg := hs.known ho hst
      have hx : (s.channel d).id ≠ id := by
        intro hid
        rw [hid] at hg
        exact hd (h.only d hg)
      rw [h.get? _ hx]
      exact hg

theorem isRetired (h : Alters s s' c id) (hc : s.IsRetired c → s'.connection.registry.get? id = none)
    (hn : ∀ e, s'.connection.registry.get? id = some e → e = .channel c) {d : Nat}
    (hd : s.IsRetired d) : s'.IsRetired d := by
  refine ⟨Nat.lt_of_lt_of_le hd.1 h.length, fun x hx => ?_⟩
  by_cases hid : x = id
  · rw [hid] at hx
    cases hn _ hx
    rw [hc hd] at hx
    cases hx
  · rw [h.get? x hid] at hx
    exact hd.2 x hx

/-- The id belongs to the channel afterwards. -/
theorem named (h : Alters s s' c id) (hs : s.Rests)
    (hg : s'.connection.registry.get? id = some (.channel c)) (hn : (s'.channel c).IsNamed id)
    (hc : ¬ s.IsRetired c) : Turns s s' id (some (s'.channel c).state) where
  rests := by
    refine h.rests hs (fun e he => ?_) fun _ _ => ?_
    · rw [hg] at he
      exact ⟨(Option.some.inj he).symm, hn⟩
    · rw [hn.id_eq]
      exact hg
  connection := h.connection
  stateOn x := by
    by_cases hx : x = id
    · rw [if_pos hx, hx, stateOn_of_get? hg]
    · rw [if_neg hx, h.stateOn_of_ne hx]
  get? := by
    intro x d hd
    by_cases hx : x = id
    · subst hx
      rw [h.only d hd]
      exact .inl hg
    · rw [h.get? x hx]
      exact .inl hd
  retired := h.isRetired (fun hr => absurd hr hc) fun e he => by
    rw [hg] at he
    exact (Option.some.inj he).symm
  left _ := nofun

/-- The id belongs to nobody afterwards. -/
theorem unnamed (h : Alters s s' c id) (hs : s.Rests)
    (hg : s'.connection.registry.get? id = none)
    (hc : (s'.channel c).owned ≠ 0 → (s'.channel c).state = .closed) : Turns s s' id none where
  rests := by
    refine h.rests hs (fun e he => ?_) fun ho hst => absurd (hc ho) hst
    rw [hg] at he
    cases he
  connection := h.connection
  stateOn x := by
    by_cases hx : x = id
    · rw [if_pos hx, hx, stateOn_of_get?_none hg]
    · rw [if_neg hx, h.stateOn_of_ne hx]
  get? := by
    intro x d hd
    by_cases hx : x = id
    · exact .inr ⟨hx, rfl⟩
    · rw [h.get? x hx]
      exact .inl hd
  retired := h.isRetired (fun _ => hg) fun e he => by
    rw [hg] at he
    cases he
  left := by
    intro d hd _
    have hlt := lt_length_of_owned (hs.isNamed hd).owned
    obtain rfl := h.only d hd
    refine ⟨Nat.lt_of_lt_of_le hlt h.length, fun x hx => ?_⟩
    by_cases hid : x = id
    · rw [hid, hg] at hx
      cases hx
    · rw [h.get? x hid] at hx
      exact hid (h.own x hx)

end Alters

end Store

end AmqpSession
