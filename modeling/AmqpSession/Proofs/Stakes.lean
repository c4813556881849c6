/-
What becomes of one channel. The work that is left may hold it, may still have to take it out of the
registry, or may still have to cut it off; with that, the registry, the state of the channel and its
way back to the connection agree at every moment (`Tracks`). Channels do not interact, so each is
followed by itself, and every change carries the agreement on (`Carries`).
-/
import AmqpSession.Proofs.Allocation
import Mathlib.Algebra.BigOperators.Group.List.Basic

namespace AmqpSession

open Wire

/-! ## A part in the work -/

/-- How often a channel is held by work, is to be taken out of the registry because nobody holds it
any more, is to be cut off, and was not opened after all. -/
@[ext] structure Stake where
  held : Nat := 0
  leaving : Nat := 0
  outcast : Nat := 0
  failed : Nat := 0

namespace Stake

instance : Add Stake :=
  ⟨fun w v => ⟨w.held + v.held, w.leaving + v.leaving, w.outcast + v.outcast, w.failed + v.failed⟩⟩

instance : Zero Stake := ⟨{}⟩

variable (w v : Stake)

@[simp] theorem held_add : (w + v).held = w.held + v.held := rfl

@[simp] theorem leaving_add : (w + v).leaving = w.leaving + v.leaving := rfl

@[simp] theorem outcast_add : (w + v).outcast = w.outcast + v.outcast := rfl

@[simp] theorem failed_add : (w + v).failed = w.failed + v.failed := rfl

@[simp] theorem held_zero : (0 : Stake).held = 0 := rfl

@[simp] theorem leaving_zero : (0 : Stake).leaving = 0 := rfl

@[simp] theorem outcast_zero : (0 : Stake).outcast = 0 := rfl

@[simp] theorem failed_zero : (0 : Stake).failed = 0 := rfl

instance : AddCommMonoid Stake where
  zero_add w := by ext <;> simp
  add_zero w := by ext <;> simp
  add_assoc w v u := by ext <;> simp [Nat.add_assoc]
  add_comm w v := by ext <;> simp [Nat.add_comm]
  nsmul := nsmulRec

end Stake

/-- A part for work on this endpoint, if it is the channel. -/
def EndpointRef.stake (c : Nat) (e : EndpointRef) (w : Stake) : Stake := if e = .channel c then w else 0

/-- The part that a channel has in a task. -/
def Task.stake (c : Nat) : Task → Stake
  | .release e | .handled (some e) _ _ => e.stake c { held := 1 }
  | .handOver d => EndpointRef.stake c (.channel d) { held := 1 }
  | .unregister e => e.stake c { leaving := 1 }
  | .closeEach es => { held := es.count (.channel c) }
  | .invalidateEach es => { held := es.count (.channel c), outcast := es.count (.channel c) }
  | .evict surplus _ => { outcast := (surplus.map Prod.snd).count (.channel c) }
  | .answer (.opened d (.error _)) => EndpointRef.stake c (.channel d) { failed := 1 }
  | _ => 0

/-- The part that a channel has in the work that is left. -/
def stakes (c : Nat) (tasks : List Task) : Stake := (tasks.map (Task.stake c)).sum

section Stakes

variable (c : Nat)

@[simp] theorem stakes_nil : stakes c [] = 0 := rfl

@[simp] theorem stakes_cons (t : Task) (tasks : List Task) :
    stakes c (t :: tasks) = t.stake c + stakes c tasks := List.sum_cons

@[simp] theorem stakes_append (tasks tasks' : List Task) :
    stakes c (tasks ++ tasks') = stakes c tasks + stakes c tasks' := by
  rw [stakes, List.map_append, List.sum_append]
  rfl

theorem stakes_of_map_plain {tasks tasks' : List Task}
    (h : tasks'.map Task.plain = tasks.map Task.plain) : stakes c tasks' = stakes c tasks := by
  have hplain : ∀ t : Task, t.plain.stake c = t.stake c := by
    intro t
    cases t with
    | handled e => cases e <;> rfl
    | _ => rfl
  exact congrArg List.sum (Session.map_eq_of_map_plain hplain h)

theorem stake_of_ne {d : Nat} (h : d ≠ c) (w : Stake) : EndpointRef.stake c (.channel d) w = 0 :=
  if_neg fun he => h (EndpointRef.channel.inj he)

theorem stake_self (w : Stake) : EndpointRef.stake c (.channel c) w = w := if_pos rfl

/-- An endpoint at the front of a list counts for itself. -/
theorem held_cons (e : EndpointRef) (es : List EndpointRef) :
    ({ held := (e :: es).count (.channel c) } : Stake) =
      e.stake c { held := 1 } + { held := es.count (.channel c) } := by
  rw [List.count_cons, EndpointRef.stake]
  simp only [beq_iff_eq]
  split <;> ext <;> simp [Nat.add_comm]

variable {c}

theorem exists_mem_outcast {tasks : List Task} (h : (stakes c tasks).outcast ≠ 0) :
    ∃ t ∈ tasks, (t.stake c).outcast ≠ 0 := by
  induction tasks with
  | nil => exact absurd rfl h
  | cons t tasks ih =>
    rw [stakes_cons, Stake.outcast_add] at h
    by_cases ht : (t.stake c).outcast = 0
    · obtain ⟨t', hm, ho⟩ := ih (by rwa [ht, Nat.zero_add] at h)
      exact ⟨t', List.mem_cons_of_mem _ hm, ho⟩
    · exact ⟨t, List.mem_cons_self, ht⟩

/-- Only two tasks cut off channels that are out of the registry. -/
theorem Task.outcast_cases {t : Task} (h : (t.stake c).outcast ≠ 0) :
    (∃ es, t = .invalidateEach es ∧ .channel c ∈ es) ∨
      ∃ surplus limits, t = .evict surplus limits ∧ .channel c ∈ surplus.map Prod.snd := by
  have hzero : ∀ (e : EndpointRef) {w : Stake}, w.outcast = 0 → (e.stake c w).outcast = 0 := by
    intro e w hw
    rw [EndpointRef.stake]
    split
    · exact hw
    · rfl
  cases t with
  | invalidateEach es => exact .inl ⟨es, rfl, List.count_pos_iff.1 (Nat.pos_of_ne_zero h)⟩
  | evict surplus limits =>
    exact .inr ⟨surplus, limits, rfl, List.count_pos_iff.1 (Nat.pos_of_ne_zero h)⟩
  | release e | unregister e => exact absurd (hzero e rfl) h
  | handOver d => exact absurd (hzero (.channel d) rfl) h
  | handled e p v =>
    cases e with
    | some e => exact absurd (hzero e rfl) h
    | none => exact absurd rfl h
  | answer o =>
    cases o with
    | opened d result =>
      cases result with
      | ok => exact absurd rfl h
      | error => exact absurd (hzero (.channel d) rfl) h
    | _ => exact absurd rfl h
  | _ => exact absurd rfl h

variable (c)

/-- What is noted of a channel stays noted. -/
def Event.stake : Event → Stake
  | .answered outcome => (Task.answer outcome).stake c
  | _ => 0

/-- The part that a channel has in what was noted. -/
def records (es : List Event) : Stake := (es.map (Event.stake c)).sum

@[simp] theorem records_nil : records c [] = 0 := rfl

@[simp] theorem records_cons (e : Event) (es : List Event) :
    records c (e :: es) = e.stake c + records c es := List.sum_cons

@[simp] theorem records_append (es es' : List Event) :
    records c (es ++ es') = records c es + records c es' := by
  rw [records, List.map_append, List.sum_append]
  rfl

@[simp] theorem records_reverse (es : List Event) : records c es.reverse = records c es := by
  rw [records, List.map_reverse, List.sum_reverse]
  rfl

theorem records_map_discarded (fs : List Frame) : records c (fs.map .discarded) = 0 := by
  induction fs with
  | nil => rfl
  | cons f fs ih => rw [List.map_cons, records_cons, ih]; rfl

/-- A list of endpoints to let go of is as good as letting go of each. -/
theorem stakes_map_release (es : List EndpointRef) :
    stakes c (es.map .release) = { held := es.count (.channel c) } := by
  induction es with
  | nil => rfl
  | cons e es ih => rw [List.map_cons, stakes_cons, ih, held_cons]; rfl

end Stakes

/-! ## Agreement -/

/-- Somebody holds on to the channel. -/
def Channel.HasHolder (ch : Channel) : Prop := ch.owned + ch.held ≠ 0

/-- The channel as it was cut off. -/
def Channel.cut (ch : Channel) : Channel := { ch with state := .closed, attached := false }

namespace Store

theorem isLive_channel_iff {s : Store} {c : Nat} :
    s.isLive (.channel c) = true ↔ (s.channel c).HasHolder := bne_iff_ne

/-- The id belongs to the channel. -/
def HasId (s : Store) (c : Nat) (id : UInt16) : Prop :=
  s.connection.registry.get? id = some (.channel c)

/-- The channel, the registry and the work that is left agree, but for a channel that was let go of
just now. -/
structure NearlyTracks (s : Store) (c : Nat) (w : Stake) : Prop where
  attached : (s.channel c).attached = true ↔ (s.channel c).state ≠ .closed
  held : (s.channel c).held = w.held
  /-- A channel has no id but its own, and nobody is about to cut it off. -/
  named : ∀ {id}, s.HasId c id →
    id ≠ 0 ∧ (s.channel c).id = id ∧ (s.channel c).attached = true ∧ w.outcast = 0
  /-- A channel that somebody holds has its id, or is about to be cut off. -/
  known : s.connection.alive = true → (s.channel c).attached = true → (s.channel c).HasHolder →
    (∃ id, s.HasId c id) ∨ w.outcast ≠ 0
  left : w.leaving ≠ 0 → ¬ (s.channel c).HasHolder
  none : s.channels.length ≤ c → w.leaving = 0 ∧ w.outcast = 0 ∧ w.failed = 0
  failed : w.failed ≠ 0 → (s.channel c).attached = false

/-- The channel, the registry and the work that is left agree. -/
structure Tracks (s : Store) (c : Nat) (w : Stake) : Prop extends NearlyTracks s c w where
  /-- A channel that nobody holds any more gives its id back. -/
  leaves : ∀ {id}, s.connection.alive = true → s.HasId c id →
    (s.channel c).HasHolder ∨ w.leaving ≠ 0

variable {c d : Nat} {s s' s'' : Store} {w w' w'' : Stake}

theorem lt_length_of_hasHolder (h : (s.channel c).HasHolder) : c < s.channels.length := by
  refine Nat.lt_of_not_le fun hc => h ?_
  rw [s.channel_of_length_le hc]
  rfl

theorem lt_length_of_attached (h : (s.channel c).attached = true) : c < s.channels.length := by
  refine Nat.lt_of_not_le fun hc => ?_
  rw [s.channel_of_length_le hc] at h
  cases h

/-- Where nobody holds the channel, or nothing is asked of it, it need not be cut off. -/
theorem Tracks.forgotten {k : Nat} (h : s.Tracks c { w with outcast := k }) (hk : w.outcast ≤ k)
    (hh : s.connection.alive = true → ¬ (s.channel c).HasHolder) : s.Tracks c w where
  attached := h.attached
  held := h.held
  named hn := by
    obtain ⟨hid, hown, hat, ho⟩ := h.named hn
    exact ⟨hid, hown, hat, Nat.eq_zero_of_le_zero (Nat.le_trans hk (Nat.le_of_eq ho))⟩
  known ha _ hh' := absurd hh' (hh ha)
  left := h.left
  none hl := by
    obtain ⟨hleaving, ho, hf⟩ := h.none hl
    exact ⟨hleaving, Nat.eq_zero_of_le_zero (Nat.le_trans hk (Nat.le_of_eq ho)), hf⟩
  failed := h.failed
  leaves := h.leaves

/-- The channel and its ids are as before. -/
structure Spares (c : Nat) (s s' : Store) : Prop where
  channel : s'.channel c = s.channel c
  ids : ∀ id, s'.HasId c id ↔ s.HasId c id
  alive : s'.connection.alive = true → s.connection.alive = true
  length : s.channels.length ≤ s'.channels.length

theorem Spares.of_eq (hch : s'.channels = s.channels)
    (hr : s'.connection.registry = s.connection.registry)
    (ha : s'.connection.alive = s.connection.alive) : Spares c s s' where
  channel := by
    unfold Store.channel
    rw [hch]
  ids id := by rw [HasId, HasId, hr]
  alive h := ha ▸ h
  length := by rw [hch]

theorem Spares.mapChannel (h : c ≠ d) (s : Store) (f : Channel → Channel) :
    Spares c s (s.mapChannel d f) where
  channel := s.channel_mapChannel_of_ne h f
  ids _ := Iff.rfl
  alive h := h
  length := Nat.le_of_eq (s.length_mapChannel d f).symm

theorem Spares.trans (h : Spares c s s') (h' : Spares c s' s'') : Spares c s s'' where
  channel := h'.channel.trans h.channel
  ids id := (h'.ids id).trans (h.ids id)
  alive ha := h.alive (h'.alive ha)
  length := Nat.le_trans h.length h'.length

/-- An endpoint gives back no id but its own. -/
theorem Spares.unregister {e : EndpointRef} (h : e ≠ .channel c) (s : Store) :
    Spares c s (s.unregister e) where
  channel := rfl
  ids _ := Registry.get?_release_iff h
  alive h := h
  length := Nat.le_refl _

theorem Tracks.spared (h : s.Tracks c w) (hs : Spares c s s') : s'.Tracks c w where
  attached := by rw [hs.channel]; exact h.attached
  held := by rw [hs.channel]; exact h.held
  named hn := by rw [hs.channel]; exact h.named ((hs.ids _).1 hn)
  known ha := by
    rw [hs.channel]
    intro hat hh
    exact (h.known (hs.alive ha) hat hh).imp (fun ⟨id, hid⟩ => ⟨id, (hs.ids id).2 hid⟩) id
  left hw := by rw [hs.channel]; exact h.left hw
  none hl := h.none (Nat.le_trans hs.length hl)
  failed hw := by rw [hs.channel]; exact h.failed hw
  leaves ha hn := by
    rw [hs.channel]
    exact h.leaves (hs.alive ha) ((hs.ids _).1 hn)

/-! ## Changes of the channel -/

/-- Nobody takes up a channel that nobody holds. -/
structure Regrips (ch ch' : Channel) : Prop where
  id : ch'.id = ch.id
  state : ch'.state = ch.state
  attached : ch'.attached = ch.attached
  hasHolder : ch'.HasHolder → ch.HasHolder

theorem NearlyTracks.regrips (h : s.NearlyTracks c w) (hlt : c < s.channels.length)
    {f : Channel → Channel} (hf : Regrips (s.channel c) (f (s.channel c))) {k : Nat}
    (hheld : (f (s.channel c)).held = k) :
    (s.mapChannel c f).NearlyTracks c { w with held := k } where
  attached := by rw [channel_mapChannel s hlt, hf.attached, hf.state]; exact h.attached
  held := by rw [channel_mapChannel s hlt]; exact hheld
  named hn := by
    rw [channel_mapChannel s hlt, hf.id, hf.attached]
    exact h.named hn
  known ha hat hh := by
    rw [channel_mapChannel s hlt] at hat hh
    exact h.known ha (hf.attached ▸ hat) (hf.hasHolder hh)
  left hw hh := by
    rw [channel_mapChannel s hlt] at hh
    exact h.left hw (hf.hasHolder hh)
  none hl := absurd hlt (Nat.not_lt.2 (s.length_mapChannel c f ▸ hl))
  failed hw := by rw [channel_mapChannel s hlt, hf.attached]; exact h.failed hw

/-- A channel that is still held keeps its id. -/
theorem NearlyTracks.tracks (h : s.NearlyTracks c w) (hh : (s.channel c).HasHolder) : s.Tracks c w where
  toNearlyTracks := h
  leaves _ _ := .inl hh

/-- A channel that nobody holds any more is to give its id back. -/
theorem NearlyTracks.leaving (h : s.NearlyTracks c w) (hh : ¬ (s.channel c).HasHolder)
    (hr : s.reaches c = true) : s.Tracks c { w with leaving := w.leaving + 1 } where
  attached := h.attached
  held := h.held
  named := h.named
  known _ _ hh' := absurd hh' hh
  left _ := hh
  none hl := by
    rw [reaches, s.channel_of_length_le hl] at hr
    cases hr
  failed := h.failed
  leaves _ _ := .inr (Nat.succ_ne_zero _)

/-- A channel that does not know its connection has no id to give back. -/
theorem NearlyTracks.unreachable (h : s.NearlyTracks c w) (hr : s.reaches c = false) : s.Tracks c w where
  toNearlyTracks := h
  leaves ha hn := by
    rw [reaches, (h.named hn).2.2.1, ha] at hr
    cases hr

/-- A channel that is not closed goes to another state of which the same is true. -/
theorem Tracks.setChannelState (h : s.Tracks c w) {state : ChannelState}
    (hs : (s.channel c).state ≠ .closed) (hstate : state ≠ .closed) :
    (s.setChannelState c state).Tracks c w := by
  have hlt : c < s.channels.length := lt_length_of_attached (h.attached.2 hs)
  have hch : (s.setChannelState c state).channel c = { s.channel c with state := state } :=
    channel_mapChannel s hlt _
  exact {
    attached := by
      rw [hch]
      exact ⟨fun _ => hstate, fun _ => h.attached.2 hs⟩
    held := by rw [hch]; exact h.held
    named := fun hn => by rw [hch]; exact h.named hn
    known := fun ha => by rw [hch]; exact h.known ha
    left := fun hw => by rw [hch]; exact h.left hw
    none := fun hl => absurd hlt (Nat.not_lt.2 (s.length_mapChannel c _ ▸ hl))
    failed := fun hw => by rw [hch]; exact h.failed hw
    leaves := fun ha hn => by rw [hch]; exact h.leaves ha hn }

/-- A channel that was cut off agrees with a registry that does not name it. -/
theorem Tracks.cut {k : Nat} (h : s.Tracks c { w with outcast := k }) (hk : w.outcast ≤ k)
    (hch : s'.channel c = (s.channel c).cut) (hid : ∀ id, ¬ s'.HasId c id)
    (hlen : s'.channels.length = s.channels.length) : s'.Tracks c w where
  attached := by rw [hch]; exact ⟨nofun, fun h => absurd rfl h⟩
  held := by rw [hch]; exact h.held
  named hn := absurd hn (hid _)
  known _ hat := by rw [hch] at hat; cases hat
  left hw := by rw [hch]; exact h.left hw
  none hl := by
    obtain ⟨hleaving, ho, hf⟩ := h.none (hlen ▸ hl)
    exact ⟨hleaving, Nat.eq_zero_of_le_zero (Nat.le_trans hk (Nat.le_of_eq ho)), hf⟩
  failed _ := by rw [hch]; rfl
  leaves _ hn := absurd hn (hid _)

theorem channel_detach (s : Store) (c : Nat) : (s.detach c).channel c = (s.channel c).cut := by
  by_cases hlt : c < s.channels.length
  · exact s.channel_mapChannel hlt _
  · have hle := Nat.le_of_not_lt hlt
    rw [s.channel_of_length_le hle, channel_of_length_le _ (s.length_mapChannel c _ ▸ hle)]
    rfl

theorem length_detach (s : Store) (c : Nat) : (s.detach c).channels.length = s.channels.length :=
  s.length_mapChannel c _

/-- No id belongs to a channel that gave its own back. -/
theorem NearlyTracks.not_hasId_unregister (h : s.NearlyTracks c w)
    (hid : (s'.channel c).id = (s.channel c).id)
    (hr : s'.connection.registry = s.connection.registry) (id : UInt16) :
    ¬ (s'.unregister (.channel c)).HasId c id := by
  intro hn
  have hn' : (s.connection.registry.release (s.channel c).id (.channel c)).get? id =
      some (.channel c) := by
    rw [← hid, ← hr]
    exact hn
  obtain ⟨hne, rfl, -⟩ := h.named (Registry.get?_of_get?_release hn')
  rw [Registry.get?_release hne (Registry.get?_of_get?_release hn'), if_pos rfl] at hn'
  cases hn'

theorem Tracks.retire (h : s.Tracks c w) : (s.retire c).Tracks c w := by
  refine Tracks.cut h (Nat.le_refl _) (s.channel_detach c) (h.not_hasId_unregister ?_ rfl)
    (s.length_detach c)
  rw [channel_detach]
  rfl

/-- A channel that gave back its id because nobody holds it. -/
theorem Tracks.unregister {k : Nat} (h : s.Tracks c { w with leaving := k + 1 }) :
    (s.unregister (.channel c)).Tracks c w := by
  have hids : ∀ id, ¬ (s.unregister (.channel c)).HasId c id := h.not_hasId_unregister rfl rfl
  have hh : ¬ (s.channel c).HasHolder := h.left (Nat.succ_ne_zero _)
  exact {
    attached := h.attached
    held := h.held
    named := fun hn => absurd hn (hids _)
    known := fun _ _ hh' => absurd hh' hh
    left := fun _ => hh
    none := fun hl => absurd (h.none hl).1 (Nat.succ_ne_zero _)
    failed := h.failed
    leaves := fun _ hn => absurd hn (hids _) }

/-! ## Holding all that are registered -/

theorem channel_foldl_hold (es : List EndpointRef) :
    ∀ {s : Store}, c < s.channels.length → (es.foldl hold s).channel c =
      { s.channel c with held := (s.channel c).held + es.count (.channel c) } := by
  induction es with
  | nil => intro s _; rfl
  | cons e es ih =>
    intro s hlt
    have hlen : c < (s.hold e).channels.length := by
      cases e with
      | channel d => exact (s.length_mapChannel d _).symm ▸ hlt
      | custom n => exact hlt
    rw [List.foldl_cons, ih hlen, List.count_cons]
    cases e with
    | custom n => rfl
    | channel d =>
      by_cases hd : d = c
      · subst hd
        rw [channel_hold s hlt, beq_self_eq_true, if_pos rfl, Nat.add_right_comm, Nat.add_assoc]
      · have hne : (EndpointRef.channel d == .channel c) = false :=
          beq_false_of_ne fun he => hd (EndpointRef.channel.inj he)
        rw [hne, show (s.hold (.channel d)).channel c = s.channel c from
          s.channel_mapChannel_of_ne (Ne.symm hd) _]
        rfl

theorem length_foldl_hold (es : List EndpointRef) :
    ∀ s : Store, (es.foldl hold s).channels.length = s.channels.length := by
  induction es with
  | nil => intro s; rfl
  | cons e es ih =>
    intro s
    rw [List.foldl_cons, ih]
    cases e with
    | channel d => exact s.length_mapChannel d _
    | custom n => rfl

theorem channel_foldl_hold_of_not_mem {es : List EndpointRef} (h : .channel c ∉ es) (s : Store) :
    (es.foldl hold s).channel c = s.channel c := by
  by_cases hlt : c < s.channels.length
  · rw [channel_foldl_hold es hlt, List.count_eq_zero_of_not_mem h]
    rfl
  · have hle := Nat.le_of_not_lt hlt
    rw [s.channel_of_length_le hle, channel_of_length_le _ ((length_foldl_hold es s).symm ▸ hle)]

theorem hasId_iff_of_connection (h : s'.connection = s.connection) (c : Nat) (id : UInt16) :
    s'.HasId c id ↔ s.HasId c id := by
  rw [HasId, HasId, h]

/-- Work that takes hold of channels holds those that somebody else holds. -/
theorem Tracks.foldl_hold {es : List EndpointRef} (h : s.Tracks c w)
    (hes : .channel c ∈ es → (s.channel c).HasHolder) :
    (es.foldl hold s).Tracks c (w + { held := es.count (.channel c) }) := by
  have hconn := connection_foldl_hold es s
  by_cases hmem : EndpointRef.channel c ∈ es
  · have hh := hes hmem
    have hch := channel_foldl_hold es (lt_length_of_hasHolder hh)
    have hh' : ((es.foldl hold s).channel c).HasHolder := by
      rw [hch, Channel.HasHolder]
      rw [Channel.HasHolder] at hh
      dsimp only
      omega
    refine NearlyTracks.tracks ?_ hh'
    exact {
      attached := by rw [hch]; exact h.attached
      held := by rw [hch, Stake.held_add, ← h.held]
      named := fun hn => by
        rw [hch]
        exact h.named ((hasId_iff_of_connection hconn c _).1 hn)
      known := fun ha hat _ => by
        rw [hconn] at ha
        rw [hch] at hat
        exact (h.known ha hat hh).imp_left fun ⟨id, hid⟩ =>
          ⟨id, (hasId_iff_of_connection hconn c id).2 hid⟩
      left := fun hw => absurd hh (h.left hw)
      none := fun hl => h.none ((length_foldl_hold es s) ▸ hl)
      failed := fun hw => by rw [hch]; exact h.failed hw }
  · rw [List.count_eq_zero_of_not_mem hmem]
    exact h.spared ⟨channel_foldl_hold_of_not_mem hmem s, hasId_iff_of_connection hconn c,
      fun ha => hconn ▸ ha, Nat.le_of_eq (length_foldl_hold es s).symm⟩

theorem mem_clearRegistry_iff : .channel c ∈ s.clearRegistry.2 ↔
    (∃ id, s.HasId c id) ∧ (s.channel c).HasHolder := by
  show _ ∈ s.connection.registry.endpoints.filter s.isLive ↔ _
  rw [List.mem_filter, Registry.mem_endpoints_iff, isLive_channel_iff]
  rfl

theorem not_hasId_clearRegistry (s : Store) (c : Nat) (id : UInt16) : ¬ s.clearRegistry.1.HasId c id := by
  intro hid
  cases hid

/-- Whoever is held when the registry is cleared was held before. -/
theorem hasHolder_of_clearRegistry (h : (s.clearRegistry.1.channel c).HasHolder) :
    (s.channel c).HasHolder := by
  by_contra hnot
  refine hnot ?_
  have hch := channel_foldl_hold_of_not_mem (fun hmem => hnot (mem_clearRegistry_iff.1 hmem).2) s
  exact hch ▸ h

/-- The channels that a registry names are held before it forgets them, and it is for whoever took
hold of them to cut them off. -/
theorem Tracks.clearRegistry (h : s.Tracks c w) :
    s.clearRegistry.1.Tracks c (w + Task.stake c (.invalidateEach s.clearRegistry.2)) := by
  have hids := not_hasId_clearRegistry s c
  have ht := h.foldl_hold fun hmem => (mem_clearRegistry_iff.1 hmem).2
  refine {
    attached := ht.attached
    held := ht.held
    named := fun hn => absurd hn (hids _)
    known := fun ha hat hh => .inr ?_
    left := ht.left
    none := fun hl => ?_
    failed := ht.failed
    leaves := fun _ hn => absurd hn (hids _) }
  · show w.outcast + s.clearRegistry.2.count (.channel c) ≠ 0
    rcases ht.known ha hat hh with ⟨id, hid⟩ | ho
    · have hid' := (hasId_iff_of_connection (connection_foldl_hold _ s) c id).1 hid
      have hpos := List.count_pos_iff.2
        (mem_clearRegistry_iff.2 ⟨⟨id, hid'⟩, hasHolder_of_clearRegistry hh⟩)
      omega
    · have ho' : w.outcast ≠ 0 := ho
      omega
  · obtain ⟨hleaving, ho, hf⟩ := ht.none hl
    refine ⟨hleaving, ?_, hf⟩
    have hmem : EndpointRef.channel c ∉ s.clearRegistry.2 := fun hmem =>
      absurd (lt_length_of_hasHolder (mem_clearRegistry_iff.1 hmem).2)
        (Nat.not_lt.2 ((length_foldl_hold _ s) ▸ hl))
    show w.outcast + s.clearRegistry.2.count (.channel c) = 0
    rw [List.count_eq_zero_of_not_mem hmem]
    exact ho

end Store

end AmqpSession
