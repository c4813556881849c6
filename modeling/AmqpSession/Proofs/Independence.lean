/-
Channels do not get in each other's way. What comes of a channel, and what is sent on an id, is decided
by the frames that come for it, whatever comes in between (`IsPart`). So it makes no difference in which
way the frames of several channels are interleaved (`channels_independent`).
-/
import AmqpSession.Proofs.Agreement
import AmqpSession.Proofs.Serving

namespace AmqpSession

open Wire

/-! ## Frames on their way in -/

/-- A frame in the octets that it comes in. -/
structure Arrival where
  octets : Bytes
  frame : Frame
  decodes : Frame.decode octets 0 = .ok (some ⟨frame, octets.length⟩)

/-- A frame as this side would send it. -/
def Arrival.of (f : Frame) (h : Frame.decode f.toWire.octets 0 = .ok (some ⟨f, f.toWire.octets.length⟩)) :
    Arrival := ⟨f.toWire.octets, f, h⟩

/-- The octets of frames that arrive one behind the other. -/
def octetsIn (l : List Arrival) : Bytes := l.flatMap (·.octets)

/-- The frames of every channel, each channel's in their order. -/
def Interleaves (family : UInt16 → List Arrival) (l : List Arrival) : Prop :=
  ∀ id, l.filter (·.frame.channel == id) = family id

namespace Interleaves

variable {family : UInt16 → List Arrival} {l l' : List Arrival}

/-- No frame is for the connection itself. -/
theorem channel_ne_zero (hl : Interleaves family l) (h0 : family 0 = []) :
    ∀ a ∈ l, a.frame.channel ≠ 0 := by
  intro a hmem ha
  have hnone : a ∈ family 0 := hl 0 ▸ List.mem_filter.2 ⟨hmem, beq_iff_eq.2 ha⟩
  rw [h0] at hnone
  cases hnone

theorem perm (hl : Interleaves family l) (hl' : Interleaves family l') : l.Perm l' := by
  classical
  refine List.perm_iff_count.2 fun a => ?_
  have hcount : ∀ l : List Arrival, (l.filter (·.frame.channel == a.frame.channel)).count a = l.count a :=
    fun l => List.count_filter (beq_self_eq_true _)
  rw [← hcount l, ← hcount l', hl, hl']

end Interleaves

/-- The channel that an id belongs to. -/
def Store.channelOn (s : Store) (id : UInt16) : Option Channel :=
  match s.connection.registry.get? id with
  | some (.channel c) => some (s.channel c)
  | _ => none

namespace Session

/-! ## After frames for channels -/

/-- The session as the frames leave it, one after the other. -/
def servedAll (σ : Session) (l : List Arrival) : Session := l.foldl (fun σ a => σ.served a.frame) σ

/-- Frames for channels were handled, and nothing else happened. -/
structure After (σ₀ σ : Session) : Prop where
  tasks : σ.tasks = σ₀.tasks
  steady : σ₀.store.Steady σ.store
  cursor : σ.store.connection.registry.cursor = σ₀.store.connection.registry.cursor
  limit : σ.store.connection.registry.channelMax = σ₀.store.connection.registry.channelMax
  length : σ.store.channels.length = σ₀.store.channels.length
  ids : ∀ c, (σ.store.channel c).id = (σ₀.store.channel c).id
  /-- A channel has no id but its own. -/
  named : ∀ c id, σ.store.HasId c id → id ≠ 0 ∧ (σ.store.channel c).id = id
  channels : σ.store.OnlyChannels
  /-- What goes out goes out at once, or is held back, as before. -/
  direct : ∀ id m, σ.store.sendsAtOnce (.ofChannel id m) = σ₀.store.sendsAtOnce (.ofChannel id m)
  reports : reports σ.log = reports σ₀.log

namespace After

variable {σ₀ σ σ' : Session} {f : Frame} {c : Nat}

theorem hasId_unique (h : After σ₀ σ) {id : UInt16} (hid : σ.store.HasId c id) :
    id = (σ₀.store.channel c).id := (h.named c id hid).2.symm.trans (h.ids c)

end After

theorem served_of_none {σ : Session} {f : Frame} (hr : σ.store.recipient? f = none) :
    σ.served f = { σ with log := .received f :: σ.log } := by
  rw [served, hr]

theorem served_of_some {σ : Session} {f : Frame} {c : Nat} (hr : σ.store.recipient? f = some c) :
    σ.served f = { σ with
      store := σ.store.serve c f.body
      log := σ.store.serving c f.body ++ .received f :: σ.log } := by
  rw [served, hr]

theorem After.served {σ₀ σ : Session} (h : After σ₀ σ) (f : Frame) : After σ₀ (σ.served f) := by
  cases hr : σ.store.recipient? f with
  | none =>
    rw [served_of_none hr]
    exact ⟨h.tasks, h.steady, h.cursor, h.limit, h.length, h.ids, h.named, h.channels, h.direct, h.reports⟩
  | some c =>
    obtain ⟨hid, hl⟩ := Store.hasId_of_recipient? hr
    have hlt := Store.lt_length_of_hasHolder hl
    have hconn := Store.connection_serve hlt f.body
    have hids : ∀ d, ((σ.store.serve c f.body).channel d).id = (σ.store.channel d).id := by
      intro d
      by_cases hd : d = c
      · subst hd
        rw [Store.channel_serve hlt, Channel.after_id]
      · rw [Store.channel_serve_of_ne hd]
    -- ids are only given back
    have hget : ∀ id e, (σ.store.serve c f.body).connection.registry.get? id = some e →
        σ.store.connection.registry.get? id = some e := by
      intro id e he
      rw [hconn] at he
      dsimp only at he
      split at he
      · exact Registry.get?_of_get?_release he
      · exact he
    have hregistry : (σ.store.serve c f.body).connection.registry.cursor =
          σ.store.connection.registry.cursor ∧
        (σ.store.serve c f.body).connection.registry.channelMax =
          σ.store.connection.registry.channelMax := by
      rw [hconn]
      dsimp only
      split
      · exact Registry.release_keeps ..
      · exact ⟨rfl, rfl⟩
    rw [served_of_some hr]
    exact {
      tasks := h.tasks
      steady := h.steady.trans ⟨_, _, hconn⟩
      cursor := hregistry.1.trans h.cursor
      limit := hregistry.2.trans h.limit
      length := by
        rw [← h.length]
        show (σ.store.serve c f.body).channels.length = _
        rw [Store.channels_serve, List.length_modify]
      ids := fun d => (hids d).trans (h.ids d)
      named := fun d id hd => by
        obtain ⟨hne, heq⟩ := h.named d id (hget _ _ hd)
        exact ⟨hne, (hids d).trans heq⟩
      channels := fun id e he => h.channels id e (hget _ _ he)
      direct := fun id m => (Store.sendsAtOnce_serve hlt f.body id m).trans (h.direct id m)
      reports := by
        show AmqpSession.reports (σ.store.serving c f.body ++ .received f :: σ.log) = _
        rw [reports_append, Store.reports_serving]
        exact h.reports }

/-! ## Parts that only some frames have to do with -/

/-- What is on an id: who has it, and the frames that were sent on it or are held back. -/
@[ext] structure IdView where
  entry : Option EndpointRef
  channel : Option Channel
  handed : List Frame
  queued : List Frame

/-- What is on an id now. -/
def onId (σ : Session) (id : UInt16) : IdView where
  entry := σ.store.connection.registry.get? id
  channel := σ.store.channelOn id
  handed := (handedOver σ.log).filter (·.channel == id)
  queued := σ.store.connection.queue.filter (·.channel == id)

/-- What there is to a channel: whether it has its id, its state, and what its user was told. -/
structure ChannelView where
  registered : Bool
  channel : Channel
  told : List Callback

/-- What there is to a channel now. -/
def ofChannel (σ : Session) (c : Nat) : ChannelView where
  registered := decide (σ.store.connection.registry.get? (σ.store.channel c).id = some (.channel c))
  channel := σ.store.channel c
  told := toldOf c σ.log

/-- A part of the session that only the frames on one id have to do with: what becomes of it is decided
by such a frame and the part itself. -/
structure IsPart {α : Type} (σ₀ : Session) (id : UInt16) (part : Session → α) : Prop where
  own : ∀ {σ σ' : Session} {f : Frame}, After σ₀ σ → After σ₀ σ' → f.channel = id →
    part σ = part σ' → part (σ.served f) = part (σ'.served f)
  aside : ∀ {σ : Session} {f : Frame}, After σ₀ σ → f.channel ≠ id → part (σ.served f) = part σ

section Part

variable {α : Type} {σ₀ σ σ' : Session} {id : UInt16} {part : Session → α} {l l' : List Arrival}

theorem After.servedAll (h : After σ₀ σ) (l : List Arrival) : After σ₀ (σ.servedAll l) := by
  induction l generalizing σ with
  | nil => exact h
  | cons a l ih => exact ih (h.served a.frame)

/-- The part is the same if only its own frames come. -/
theorem IsPart.servedAll_filter (hp : IsPart σ₀ id part) (h : After σ₀ σ) (h' : After σ₀ σ')
    (he : part σ = part σ') (l : List Arrival) :
    part (σ.servedAll l) = part (σ'.servedAll (l.filter (·.frame.channel == id))) := by
  induction l generalizing σ σ' with
  | nil => exact he
  | cons a l ih =>
    by_cases ha : a.frame.channel = id
    · rw [List.filter_cons_of_pos (by simpa using ha)]
      exact ih (h.served _) (h'.served _) (hp.own h h' ha he)
    · rw [List.filter_cons_of_neg (by simpa using ha)]
      exact ih (h.served _) h' ((hp.aside h ha).trans he)

theorem IsPart.servedAll_eq (hp : IsPart σ₀ id part) (h : After σ₀ σ₀)
    (hl : l.filter (·.frame.channel == id) = l'.filter (·.frame.channel == id)) :
    part (σ₀.servedAll l) = part (σ₀.servedAll l') := by
  rw [hp.servedAll_filter h h rfl l, hl, ← hp.servedAll_filter h h rfl l']

end Part

/-! ### Channels -/

section Parts

variable {σ₀ σ σ' : Session} {f : Frame} {c : Nat} {id : UInt16}

theorem ofChannel_served_of_ne (hr : σ.store.recipient? f ≠ some c) :
    (σ.served f).ofChannel c = σ.ofChannel c := by
  cases hd : σ.store.recipient? f with
  | none =>
    rw [served_of_none hd]
    rfl
  | some d =>
    have hne : c ≠ d := by
      rintro rfl
      exact hr hd
    have hlt := Store.lt_length_of_hasHolder (Store.hasId_of_recipient? hd).2
    have hchannel := Store.channel_serve_of_ne hne σ.store f.body
    have hids : (σ.store.serve d f.body).connection.registry.get? (σ.store.channel c).id =
        some (.channel c) ↔ σ.store.connection.registry.get? (σ.store.channel c).id = some (.channel c) := by
      rw [Store.connection_serve hlt]
      dsimp only
      split
      · exact Registry.get?_release_iff fun he => hne (EndpointRef.channel.inj he).symm
      · exact Iff.rfl
    have htold : toldOf c (σ.store.serving d f.body ++ .received f :: σ.log) = toldOf c σ.log := by
      rw [toldOf_append, Store.toldOf_serving, if_neg hne]
      rfl
    rw [served_of_some hd]
    unfold ofChannel
    dsimp only
    rw [hchannel, htold, decide_eq_decide.2 hids]

theorem ofChannel_served (h : After σ₀ σ) (hr : σ.store.recipient? f = some c) :
    (σ.served f).ofChannel c = {
      registered := !f.body.endsChannel
      channel := (σ.store.channel c).after f.body
      told := f.body.notices c (σ.store.channel c).state ++ toldOf c σ.log } := by
  obtain ⟨hid, hl⟩ := Store.hasId_of_recipient? hr
  have hlt := Store.lt_length_of_hasHolder hl
  obtain ⟨hne, hown⟩ := h.named c _ hid
  have hget : σ.store.connection.registry.get? (σ.store.channel c).id = some (.channel c) := by
    rw [hown]
    exact hid
  have hids : decide ((σ.store.serve c f.body).connection.registry.get? (σ.store.channel c).id =
      some (.channel c)) = !f.body.endsChannel := by
    rw [Store.connection_serve hlt]
    dsimp only
    cases f.body.endsChannel with
    | true =>
      rw [if_pos rfl, Registry.get?_release (hown ▸ hne) hget, if_pos rfl]
      rfl
    | false =>
      rw [if_neg Bool.false_ne_true]
      exact decide_eq_true hget
  have htold : toldOf c (σ.store.serving c f.body ++ .received f :: σ.log) =
      f.body.notices c (σ.store.channel c).state ++ toldOf c σ.log := by
    rw [toldOf_append, Store.toldOf_serving, if_pos rfl]
    rfl
  rw [served_of_some hr]
  unfold ofChannel
  dsimp only
  rw [Store.channel_serve hlt, Channel.after_id, htold, hids]

theorem recipient?_eq_some_iff (h : After σ₀ σ) : σ.store.recipient? f = some c ↔
    ¬ (f.body = .heartbeat ∨ σ₀.store.connection.state = .closing) ∧
      f.channel = (σ₀.store.channel c).id ∧ (σ.ofChannel c).registered = true ∧
      (σ.ofChannel c).channel.HasHolder := by
  rw [← h.steady.state]
  constructor
  · intro hr
    obtain ⟨hid, hl⟩ := Store.hasId_of_recipient? hr
    obtain ⟨-, hown⟩ := h.named c _ hid
    refine ⟨(Store.recipient?_eq_some hr).1, h.hasId_unique hid, decide_eq_true ?_, hl⟩
    rw [hown]
    exact hid
  · rintro ⟨hn, hf, hregistered, hl⟩
    have hget := of_decide_eq_true hregistered
    rw [h.ids, ← hf] at hget
    have haddressee : σ.store.addressee? f = some (.channel c) := by
      rw [Store.addressee?, hget]
      exact if_pos (Store.isLive_channel_iff.2 hl)
    rw [Store.recipient?, if_neg hn, haddressee]

theorem isPart_ofChannel (σ₀ : Session) (c : Nat) :
    IsPart σ₀ (σ₀.store.channel c).id (ofChannel · c) where
  own {σ σ' f} h h' hf he := by
    by_cases hr : σ.store.recipient? f = some c
    · have hr' : σ'.store.recipient? f = some c := by
        rw [recipient?_eq_some_iff h, he] at hr
        exact (recipient?_eq_some_iff h').2 hr
      have hchannel : σ.store.channel c = σ'.store.channel c := congrArg ChannelView.channel he
      have htold : toldOf c σ.log = toldOf c σ'.log := congrArg ChannelView.told he
      rw [ofChannel_served h hr, ofChannel_served h' hr', hchannel, htold]
    · have hr' : σ'.store.recipient? f ≠ some c := by
        rw [recipient?_eq_some_iff h, he] at hr
        exact fun hr' => hr ((recipient?_eq_some_iff h').1 hr')
      rw [ofChannel_served_of_ne hr, ofChannel_served_of_ne hr', he]
  aside h hf := ofChannel_served_of_ne fun hr => hf ((recipient?_eq_some_iff h).1 hr).2.1

/-! ### Ids -/

/-- A channel sends on its own id. -/
theorem filter_answer (x id : UInt16) (p : Frame → Bool) (body : Body) :
    ((body.answer? x).toList.filter p).filter (·.channel == id) =
      if x = id then (body.answer? x).toList.filter p else [] := by
  have hchannel : ∀ g ∈ (body.answer? x).toList.filter p, g.channel = x := by
    intro g hg
    obtain ⟨m, rfl⟩ := Body.eq_ofChannel_of_answer? (Option.mem_toList.1 (List.mem_filter.1 hg).1)
    rfl
  split
  · rename_i hx
    exact List.filter_eq_self.2 fun g hg => by simpa [hchannel g hg] using hx
  · rename_i hx
    exact List.filter_eq_nil_iff.2 fun g hg => by simpa [hchannel g hg] using hx

theorem onId_served_of_ne (h : After σ₀ σ) (hf : f.channel ≠ id ∨ σ.store.recipient? f = none) :
    (σ.served f).onId id = σ.onId id := by
  cases hr : σ.store.recipient? f with
  | none =>
    rw [served_of_none hr]
    rfl
  | some d =>
    replace hf : f.channel ≠ id := hf.resolve_right fun hn => by rw [hr] at hn; cases hn
    obtain ⟨hid, hl⟩ := Store.hasId_of_recipient? hr
    have hlt := Store.lt_length_of_hasHolder hl
    obtain ⟨hne, hown⟩ := h.named d _ hid
    have hget : (σ.store.serve d f.body).connection.registry.get? id =
        σ.store.connection.registry.get? id := by
      rw [Store.connection_serve hlt, hown]
      dsimp only
      split
      · rw [Registry.get?_release hne hid, if_neg hf.symm]
      · rfl
    have hchannel : ∀ c, σ.store.connection.registry.get? id = some (.channel c) →
        (σ.store.serve d f.body).channel c = σ.store.channel c := by
      intro c hc
      refine Store.channel_serve_of_ne ?_ _ _
      rintro rfl
      exact hf (hown.symm.trans (h.named c id hc).2)
    rw [served_of_some hr]
    ext1
    · exact hget
    · show (σ.store.serve d f.body).channelOn id = σ.store.channelOn id
      unfold Store.channelOn
      rw [hget]
      split
      · rename_i c hc
        rw [hchannel c hc]
      · rfl
    · show (handedOver (σ.store.serving d f.body ++ .received f :: σ.log)).filter _ = _
      rw [Store.handedOver_serving, List.filter_append, hown, Store.sentNow, filter_answer, if_neg hf,
        List.append_nil]
      rfl
    · show (σ.store.serve d f.body).connection.queue.filter _ = _
      rw [Store.connection_serve hlt, List.filter_append, hown, Store.heldBack, filter_answer, if_neg hf,
        List.append_nil]
      rfl

theorem onId_served (h : After σ₀ σ) (hr : σ.store.recipient? f = some c) :
    (σ.served f).onId f.channel = {
      entry := if f.body.endsChannel then none else some (.channel c)
      channel := if f.body.endsChannel then none else some ((σ.store.channel c).after f.body)
      handed := (σ.onId f.channel).handed ++ σ.store.sentNow (f.body.answer? f.channel)
      queued := (σ.onId f.channel).queued ++ σ.store.heldBack (f.body.answer? f.channel) } := by
  obtain ⟨hid, hl⟩ := Store.hasId_of_recipient? hr
  have hlt := Store.lt_length_of_hasHolder hl
  obtain ⟨hne, hown⟩ := h.named c _ hid
  have hget : (σ.store.serve c f.body).connection.registry.get? f.channel =
      if f.body.endsChannel then none else some (.channel c) := by
    rw [Store.connection_serve hlt, hown]
    dsimp only
    cases f.body.endsChannel with
    | true => rw [if_pos rfl, if_pos rfl, Registry.get?_release hne hid, if_pos rfl]
    | false =>
      rw [if_neg Bool.false_ne_true, if_neg Bool.false_ne_true]
      exact hid
  rw [served_of_some hr]
  ext1
  · exact hget
  · show (σ.store.serve c f.body).channelOn f.channel = _
    rw [Store.channelOn, hget]
    cases f.body.endsChannel with
    | true => rfl
    | false => exact congrArg some (Store.channel_serve hlt f.body)
  · show (handedOver (σ.store.serving c f.body ++ .received f :: σ.log)).filter _ = _
    rw [Store.handedOver_serving, List.filter_append, hown, Store.sentNow, filter_answer, if_pos rfl]
    rfl
  · show (σ.store.serve c f.body).connection.queue.filter _ = _
    rw [Store.connection_serve hlt, List.filter_append, hown, Store.heldBack, filter_answer, if_pos rfl]
    rfl

theorem channel_onId {σ : Session} (hid : σ.store.HasId c id) :
    (σ.onId id).channel = some (σ.store.channel c) := by
  rw [Store.HasId] at hid
  show σ.store.channelOn id = _
  rw [Store.channelOn, hid]

/-- The same is on the id, so that it is the same channel that has it. -/
theorem channel_eq_of_onId_eq (hid : σ.store.HasId c id) (he : σ.onId id = σ'.onId id) :
    σ'.store.HasId c id ∧ σ.store.channel c = σ'.store.channel c := by
  have hid' : σ'.store.HasId c id := (congrArg IdView.entry he).symm.trans hid
  refine ⟨hid', Option.some.inj ?_⟩
  rw [← channel_onId hid, ← channel_onId hid', he]

/-- Who takes a frame is decided by what is on its id. -/
theorem recipient?_congr (h : After σ₀ σ) (h' : After σ₀ σ') (he : σ.onId f.channel = σ'.onId f.channel) :
    σ.store.recipient? f = σ'.store.recipient? f := by
  have hentry : σ.store.connection.registry.get? f.channel =
      σ'.store.connection.registry.get? f.channel := congrArg IdView.entry he
  unfold Store.recipient? Store.addressee?
  rw [h.steady.state, h'.steady.state, ← hentry]
  cases hg : σ.store.connection.registry.get? f.channel with
  | none => rfl
  | some e =>
    obtain ⟨c, rfl⟩ := h.channels _ _ hg
    have hlive : σ.store.isLive (.channel c) = σ'.store.isLive (.channel c) := by
      show (_ + _ != 0) = (_ + _ != 0)
      rw [(channel_eq_of_onId_eq hg he).2]
    dsimp only
    rw [hlive]

theorem isPart_onId (σ₀ : Session) (id : UInt16) : IsPart σ₀ id (onId · id) where
  own {σ σ' f} h h' hf he := by
    subst hf
    have hrecipient := recipient?_congr h h' he
    cases hr : σ.store.recipient? f with
    | none =>
      rw [hr] at hrecipient
      rw [onId_served_of_ne h (.inr hr), onId_served_of_ne h' (.inr hrecipient.symm), he]
    | some c =>
      rw [hr] at hrecipient
      have hchannel := (channel_eq_of_onId_eq (Store.hasId_of_recipient? hr).1 he).2
      have hsends : ∀ g ∈ (f.body.answer? f.channel).toList,
          σ.store.sendsAtOnce g = σ'.store.sendsAtOnce g := by
        intro g hg
        obtain ⟨m, rfl⟩ := Body.eq_ofChannel_of_answer? (Option.mem_toList.1 hg)
        exact (h.direct _ m).trans (h'.direct _ m).symm
      have hsent : σ.store.sentNow (f.body.answer? f.channel) =
          σ'.store.sentNow (f.body.answer? f.channel) := List.filter_congr hsends
      have hheld : σ.store.heldBack (f.body.answer? f.channel) =
          σ'.store.heldBack (f.body.answer? f.channel) :=
        List.filter_congr fun g hg => congrArg not (hsends g hg)
      rw [onId_served h hr, onId_served h' hrecipient.symm, he, hchannel, hsent, hheld]
  aside h hf := onId_served_of_ne h (.inl hf)

end Parts

/-! ## A call that meets no violation -/

/-- The session has a place for the frame. -/
def HasPlaceFor (σ : Session) (a : Arrival) : Prop :=
  Frame.decode a.octets σ.store.connection.maxFrameSize = .ok (some ⟨a.frame, a.octets.length⟩) ∧
    σ.store.admits a.frame = true

/-- Each frame finds a place when it is its turn. -/
def Welcomes (σ : Session) (l : List Arrival) : Prop :=
  ∀ p a q, l = p ++ a :: q → (σ.servedAll p).HasPlaceFor a

section Welcome

variable {u u' : Script} {σ₀ σ σ' υ : Session} {a : Arrival} {l l' : List Arrival} {n : Nat}

theorem After.refl (hk : σ.Kept) (hc : σ.store.OnlyChannels) : After σ σ where
  tasks := rfl
  steady := .of_eq rfl
  cursor := rfl
  limit := rfl
  length := rfl
  ids _ := rfl
  named c id hid := by
    obtain ⟨log, hr⟩ := hk.reachable
    obtain ⟨hne, hown, -⟩ := (hr.tracks c).named hid
    exact ⟨hne, hown⟩
  channels := hc
  direct _ _ := rfl
  reports := rfl

theorem admits_eq (h : After σ₀ σ) {f : Frame} (hf : f.channel ≠ 0) : σ.store.admits f =
    match σ.store.recipient? f with
    | some c => (σ.store.channel c).state.admits f.body
    | none => true := by
  cases hr : σ.store.recipient? f with
  | some c =>
    obtain ⟨hn, ha⟩ := Store.recipient?_eq_some hr
    exact Store.admits_of_addressee hf hn ha
  | none =>
    rw [Store.admits, if_neg hf]
    rcases Store.ignored_of_recipient? h.channels hr with (hb | hs) | ha
    · rw [hb]
      rfl
    · rw [hs]
      simp
    · rw [ha]
      exact Bool.or_true _

/-- Whether a frame finds a place is decided by what is on its id. -/
theorem HasPlaceFor.congr (h : After σ₀ σ) (h' : After σ₀ σ') (ha : a.frame.channel ≠ 0)
    (he : σ.onId a.frame.channel = σ'.onId a.frame.channel) (hσ : σ.HasPlaceFor a) :
    σ'.HasPlaceFor a := by
  obtain ⟨hd, hadmits⟩ := hσ
  have hrecipient := recipient?_congr h h' he
  constructor
  · obtain ⟨_, _, hc⟩ := h.steady
    obtain ⟨_, _, hc'⟩ := h'.steady
    rw [hc] at hd
    rw [hc']
    exact hd
  · rw [admits_eq h ha] at hadmits
    rw [admits_eq h' ha, ← hrecipient]
    cases hr : σ.store.recipient? a.frame with
    | none => rfl
    | some c =>
      rw [hr] at hadmits
      dsimp only at hadmits ⊢
      rw [← (channel_eq_of_onId_eq (Store.hasId_of_recipient? hr).1 he).2]
      exact hadmits

/-- A frame that finds no place is a violation, whatever comes behind it. -/
theorem exists_violation? (hn : ¬ σ.HasPlaceFor a) (more : Bytes) :
    ∃ v, σ.store.violation? (a.octets ++ more) = some v := by
  unfold Store.violation?
  rcases Frame.decode_of_unlimited a.decodes σ.store.connection.maxFrameSize with hd | ⟨fault, hd⟩
  · have hadmits : σ.store.admits a.frame = false := by
      rw [← Bool.not_eq_true]
      exact fun hadmits => hn ⟨hd, hadmits⟩
    rw [Frame.decode_append (by rw [hd]; simp), hd]
    exact Option.isSome_iff_exists.1 (Store.isSome_fault?_of_not_admits hadmits)
  · rw [Frame.decode_append (by rw [hd]; simp), hd]
    exact ⟨_, rfl⟩

theorem welcomes_cons_iff : σ.Welcomes (a :: l) ↔ σ.HasPlaceFor a ∧ (σ.served a.frame).Welcomes l := by
  constructor
  · intro h
    exact ⟨h [] a l rfl, fun p b q he => h (a :: p) b q (by rw [he]; rfl)⟩
  · rintro ⟨ha, hl⟩ p b q he
    cases p with
    | nil =>
      cases he
      exact ha
    | cons c p =>
      cases he
      exact hl p b q rfl

theorem HasPlaceFor.parses (hσ : σ.HasPlaceFor a) (hu : u.IsPassive) (hk : σ.Kept) (ht : σ.tasks = [])
    (hs : σ.state ≠ .closed) (hc : σ.store.OnlyChannels) (ha : a.frame.channel ≠ 0) :
    Parses u σ a.octets a.octets.length (σ.served a.frame) :=
  parses_served hu hk ht hs hc hσ.1 ha hσ.2

/-- The call goes on behind a frame that found its place. -/
theorem HasPlaceFor.parses_append (hσ : σ.HasPlaceFor a) (hu : u.IsPassive) (h : After σ₀ σ)
    (hk : σ.Kept) (ht : σ₀.tasks = []) (hs : σ₀.state ≠ .closed) (ha : a.frame.channel ≠ 0) {rest : Bytes}
    (hp : Parses u (σ.served a.frame) rest n υ) :
    Parses u σ (a.octets ++ rest) (a.octets.length + n) υ := by
  have hlive : ∀ {τ : Session}, After σ₀ τ → τ.state ≠ .closed :=
    fun h hc => hs (h.steady.state.symm.trans hc)
  have hfirst : Applies u σ [a.octets] (σ.served a.frame) :=
    .cons a.frame hσ.1 (hσ.parses hu hk (h.tasks.trans ht) (hlive h) h.channels ha)
      (hlive (h.served a.frame)) (.nil _)
  have happend := hfirst.parses hk (h.tasks.trans ht) hp
  rwa [List.flatten_singleton] at happend

/-- A call whose frames all find a place. -/
theorem Welcomes.parses (hw : σ.Welcomes l) (hu : u.IsPassive) (h : After σ₀ σ) (hk : σ.Kept)
    (ht : σ₀.tasks = []) (hs : σ₀.state ≠ .closed) (hl : ∀ a ∈ l, a.frame.channel ≠ 0) :
    Parses u σ (octetsIn l) (octetsIn l).length (σ.servedAll l) := by
  induction l generalizing σ with
  | nil =>
    have hi : σ.isIdle = true := by rw [isIdle, h.tasks, ht]
    exact (parses_iff_of_endOfParse hi hk.owned rfl).2 ⟨rfl, rfl⟩
  | cons a l ih =>
    obtain ⟨ha, hw⟩ := welcomes_cons_iff.1 hw
    have hne := hl a List.mem_cons_self
    have hs' : σ.state ≠ .closed := fun hc => hs (h.steady.state.symm.trans hc)
    have hk' := (ha.parses hu hk (h.tasks.trans ht) hs' h.channels hne).kept hk
    have hrest := ih hw (h.served a.frame) hk' fun b hb => hl b (List.mem_cons_of_mem _ hb)
    have hp := ha.parses_append hu h hk ht hs hne hrest
    rwa [← List.length_append] at hp

/-- A call with a frame that finds no place tells of it. -/
theorem exists_parses_of_not_welcomes (hw : ¬ σ.Welcomes l) (hu : u.IsPassive) (h : After σ₀ σ)
    (hk : σ.Kept) (ht : σ₀.tasks = []) (hs : σ₀.state ≠ .closed)
    (hl : ∀ a ∈ l, a.frame.channel ≠ 0) :
    ∃ n υ, Parses u σ (octetsIn l) n υ ∧ reports υ.log ≠ reports σ₀.log := by
  induction l generalizing σ with
  | nil =>
    refine absurd (fun p a q he => ?_) hw
    cases p <;> cases he
  | cons a l ih =>
    have hne := hl a List.mem_cons_self
    have hs' : σ.state ≠ .closed := fun hc => hs (h.steady.state.symm.trans hc)
    by_cases ha : σ.HasPlaceFor a
    · have hk' := (ha.parses hu hk (h.tasks.trans ht) hs' h.channels hne).kept hk
      obtain ⟨n, υ, hrest, hr⟩ := ih (fun hw' => hw (welcomes_cons_iff.2 ⟨ha, hw'⟩)) (h.served a.frame) hk'
        fun b hb => hl b (List.mem_cons_of_mem _ hb)
      exact ⟨_, υ, ha.parses_append hu h hk ht hs hne hrest, hr⟩
    · obtain ⟨v, hv⟩ := exists_violation? ha (octetsIn l)
      obtain ⟨υ, es, hp, -, hlog, -⟩ := exists_parses_violation hu hk (h.tasks.trans ht) hs' hv
      refine ⟨0, υ, hp, fun hr => ?_⟩
      -- one error more than before was told
      rw [← h.reports, hlog, ← List.singleton_append, reports_append, reports_append] at hr
      have hlen := congrArg List.length hr
      rw [List.length_append, List.length_append] at hlen
      have hone : (reports [.started (.error v.message)]).length = 1 := rfl
      omega

end Welcome

/-! ## Interleavings -/

/-- The sessions are the same to every channel, and to the connection. -/
structure Alike (υ υ' : Session) : Prop where
  state : υ'.state = υ.state
  ids : ∀ id, υ'.store.connection.registry.get? id = υ.store.connection.registry.get? id
  cursor : υ'.store.connection.registry.cursor = υ.store.connection.registry.cursor
  limit : υ'.store.connection.registry.channelMax = υ.store.connection.registry.channelMax
  channels : υ'.store.channels = υ.store.channels
  told : ∀ c, toldOf c υ'.log = toldOf c υ.log
  handed : ∀ id, (handedOver υ'.log).filter (·.channel == id) =
    (handedOver υ.log).filter (·.channel == id)
  heldBack : ∀ id, υ'.store.connection.queue.filter (·.channel == id) =
    υ.store.connection.queue.filter (·.channel == id)

section Interleaved

variable {u u' : Script} {σ σ' υ : Session} {l l' : List Arrival} {n : Nat}
  {family : UInt16 → List Arrival}

/-- What the frames of every id come to does not depend on the order of the ids. -/
theorem alike_servedAll (h : After σ σ) (hl : Interleaves family l) (hl' : Interleaves family l') :
    Alike (σ.servedAll l) (σ.servedAll l') := by
  have hfilter : ∀ id, l'.filter (·.frame.channel == id) = l.filter (·.frame.channel == id) :=
    fun id => (hl' id).trans (hl id).symm
  have hall := h.servedAll l
  have hall' := h.servedAll l'
  have hid : ∀ id, (σ.servedAll l').onId id = (σ.servedAll l).onId id := fun id =>
    (isPart_onId σ id).servedAll_eq h (hfilter id)
  have hchannel : ∀ c, (σ.servedAll l').ofChannel c = (σ.servedAll l).ofChannel c := fun c =>
    (isPart_ofChannel σ c).servedAll_eq h (hfilter _)
  exact {
    state := hall'.steady.state.trans hall.steady.state.symm
    ids := fun id => congrArg IdView.entry (hid id)
    cursor := hall'.cursor.trans hall.cursor.symm
    limit := hall'.limit.trans hall.limit.symm
    channels := by
      have hlen := hall'.length.trans hall.length.symm
      refine List.ext_getElem hlen fun c hc hc' => ?_
      have heq : (σ.servedAll l').store.channel c = (σ.servedAll l).store.channel c :=
        congrArg ChannelView.channel (hchannel c)
      rwa [Store.channel, Store.channel, List.getElem?_eq_getElem hc, List.getElem?_eq_getElem hc'] at heq
    told := fun c => congrArg ChannelView.told (hchannel c)
    handed := fun id => congrArg IdView.handed (hid id)
    heldBack := fun id => congrArg IdView.queued (hid id) }

/-- If one interleaving finds a place for every frame, then so does any other. -/
theorem Welcomes.interleaved (h : After σ σ) (h0 : family 0 = []) (hl : Interleaves family l)
    (hl' : Interleaves family l') (hw : σ.Welcomes l) : σ.Welcomes l' := by
  rintro p' a q' rfl
  let own : Arrival → Bool := (·.frame.channel == a.frame.channel)
  have hown : own a = true := beq_self_eq_true _
  have ha := hl'.channel_ne_zero h0 a (List.mem_append_right _ List.mem_cons_self)
  -- the same frame of its id comes at some point of the other interleaving
  have hfilter : l.filter own = p'.filter own ++ a :: q'.filter own := by
    rw [← List.filter_cons_of_pos hown, ← List.filter_append]
    exact (hl a.frame.channel).trans (hl' a.frame.channel).symm
  obtain ⟨p₁, r, rfl, hp₁, hr⟩ := List.filter_eq_append_iff.1 hfilter
  obtain ⟨p₂, q, rfl, hp₂, -, -⟩ := List.filter_eq_cons_iff.1 hr
  have hp : (p₁ ++ p₂).filter own = p'.filter own := by
    rw [List.filter_append, hp₁, List.filter_eq_nil_iff.2 hp₂, List.append_nil]
  have hplace := hw (p₁ ++ p₂) a q (List.append_assoc ..).symm
  exact hplace.congr (h.servedAll _) (h.servedAll _) ha ((isPart_onId σ _).servedAll_eq h hp)

theorem Parses.unique {buffer : Bytes} {m : Nat} {ω : Session} (h : Parses u σ buffer n υ)
    (h' : Parses u σ buffer m ω) : n = m ∧ υ = ω := by
  obtain ⟨τ, hc, hr⟩ := h
  obtain ⟨τ', hc', hr'⟩ := h'
  cases hc.symm.trans hc'
  exact hr.unique hr'

/-- Chunks may as well come in one call. -/
theorem feeds_flatten_iff (hk : σ.Kept) (hi : σ.isIdle = true) (chunks : List Bytes) :
    Feeds u σ [] chunks n υ ↔ Parses u σ chunks.flatten n υ := by
  have hone : ∀ c, Feeds u σ [] [c] n υ ↔ Parses u σ c n υ := by
    refine fun c => ⟨fun h => ?_, fun h => .cons h (.nil υ _)⟩
    cases h with
    | cons h hr =>
      cases hr
      exact h
  cases chunks with
  | nil =>
    refine ⟨fun h => ?_, fun h => ?_⟩
    · cases h
      exact (parses_iff_of_endOfParse hi hk.owned rfl).2 ⟨rfl, rfl⟩
    · obtain ⟨rfl, rfl⟩ := (parses_iff_of_endOfParse hi hk.owned rfl).1 h
      exact .nil _ _
  | cons c cs =>
    induction cs generalizing c with
    | nil => rw [hone, List.flatten_singleton]
    | cons d cs ih =>
      have h := ih (c ++ d)
      rw [List.flatten_cons, List.append_assoc] at h
      exact (feeds_merge hk hi).trans h

/-- Channels are independent of each other. User code only returns from its callbacks, nothing is under
way, and no endpoint of user code has an id. If the frames that come for the channels meet no violation
in one interleaving, however it is cut into chunks, then they meet none in any other: the connection,
the registry and all channels end the same, the user of each channel is told the same, and on each id
the same goes out or is held back. -/
theorem channels_independent (hσ : σ.Reachable) (ht : σ.tasks = [])
    (ho : σ.store.connection.owned ≠ 0) (hc : σ.store.OnlyChannels) (hu : u.IsPassive)
    (hu' : u'.IsPassive) (h0 : family 0 = []) (hl : Interleaves family l) (hl' : Interleaves family l')
    {chunks chunks' : List Bytes} (hchunks : chunks.flatten = octetsIn l)
    (hchunks' : chunks'.flatten = octetsIn l') (hf : Feeds u σ [] chunks n υ)
    (hr : reports υ.log = reports σ.log) :
    ∃ υ', Feeds u' σ [] chunks' n υ' ∧ reports υ'.log = reports σ.log ∧ Alike υ υ' := by
  have hk : σ.Kept := ⟨⟨σ.log, hσ⟩, ho⟩
  have hi : σ.isIdle = true := by rw [isIdle, ht]
  rw [feeds_flatten_iff hk hi, hchunks] at hf
  simp only [feeds_flatten_iff hk hi, hchunks']
  by_cases hs : σ.state = .closed
  · -- a closed connection takes no frames
    have hnothing : ∀ (u : Script) buffer n υ, Parses u σ buffer n υ ↔ n = 0 ∧ υ = σ :=
      fun u buffer n υ => parses_iff_of_endOfParse hi ho
        (Store.parse_of_closed (s := σ.store.holdHandle) hs buffer 0)
    obtain ⟨rfl, rfl⟩ := (hnothing ..).1 hf
    exact ⟨υ, (hnothing ..).2 ⟨rfl, rfl⟩, rfl, rfl, fun _ => rfl, rfl, rfl, rfl, fun _ => rfl, fun _ => rfl,
      fun _ => rfl⟩
  · have h := After.refl hk hc
    by_cases hw : σ.Welcomes l
    · obtain ⟨rfl, rfl⟩ := hf.unique (hw.parses hu h hk ht hs (hl.channel_ne_zero h0))
      have hp := (hw.interleaved h h0 hl hl').parses hu' h hk ht hs (hl'.channel_ne_zero h0)
      have hlen : (octetsIn l').length = (octetsIn l).length :=
        ((hl'.perm hl).flatMap_right Arrival.octets).length_eq
      rw [hlen] at hp
      exact ⟨_, hp, (h.servedAll l').reports, alike_servedAll h hl hl'⟩
    · obtain ⟨m, ω, hp, hne⟩ := exists_parses_of_not_welcomes hw hu h hk ht hs (hl.channel_ne_zero h0)
      obtain ⟨-, rfl⟩ := hf.unique hp
      exact absurd hr hne

/-- User code opens a channel. -/
def openChannelCall : List (Option Act) := some (.call .openChannel) :: pass 0 ++ [none, none, none]

/-- Two channels are opened, and the peer closes the one and asks the other to go on. What comes for them
one after the other may as well come by turns. -/
theorem channels_independent_two : ∃ (σ υ υ' : Session) (l l' : List Arrival), σ.Reachable ∧
    σ.state = .connected ∧ Feeds quiet σ [] [octetsIn l] 64 υ ∧
    Feeds quiet σ [] (l'.map Arrival.octets) 64 υ' ∧ Alike υ υ' ∧
    l.map Arrival.frame = [openAnswer 1, closeRequest 1, openAnswer 2, .ofChannel 2 (.flow true)] ∧
    l'.map Arrival.frame = [openAnswer 2, openAnswer 1, .ofChannel 2 (.flow true), closeRequest 1] ∧
    (υ'.store.channel 0).state = .closed ∧ (υ'.store.channel 1).state = .open ∧
    toldOf 1 υ'.log = [.channelFlow 1 true, .channelReady 1] := by
  let o₁ : Arrival := .of (openAnswer 1) (by decide +kernel)
  let c₁ : Arrival := .of (closeRequest 1) (by decide +kernel)
  let o₂ : Arrival := .of (openAnswer 2) (by decide +kernel)
  let f₂ : Arrival := .of (.ofChannel 2 (.flow true)) (by decide +kernel)
  let l := [o₁, c₁, o₂, f₂]
  let l' := [o₂, o₁, f₂, c₁]
  let family : UInt16 → List Arrival := fun id => l.filter (·.frame.channel == id)
  have hl' : Interleaves family l' := by
    intro id
    by_cases h₁ : id = 1
    · subst h₁
      rfl
    · by_cases h₂ : id = 2
      · subst h₂
        rfl
      · have hnone : ∀ l : List Arrival, (∀ a ∈ l, a.frame.channel = 1 ∨ a.frame.channel = 2) →
            l.filter (·.frame.channel == id) = [] := by
          refine fun l hl => List.filter_eq_nil_iff.2 fun a ha hid => ?_
          rcases hl a ha with hc | hc
          · exact h₁ ((beq_iff_eq.1 hid).symm.trans hc)
          · exact h₂ ((beq_iff_eq.1 hid).symm.trans hc)
        rw [hnone l' (by simp [l', o₁, c₁, o₂, f₂, Arrival.of, openAnswer, closeRequest, Frame.ofChannel])]
        exact (hnone l (by simp [l, o₁, c₁, o₂, f₂, Arrival.of, openAnswer, closeRequest,
          Frame.ofChannel])).symm
  obtain ⟨σ, hσ, he⟩ := exists_reaches_of_play (establish ++ openChannelCall ++ openChannelCall)
    (connect .standard)
    (fun σ => [σ.tasks.isEmpty, decide (σ.state = .connected), decide (σ.store.connection.owned = 1),
      decide (σ.store.connection.registry.endpoints = [.channel 0, .channel 1]),
      decide ((((σ.call? (.parse (octetsIn l))).bind (finish quiet 60)).map fun r => (r.1,
        (r.2.store.channel 0).state, (r.2.store.channel 1).state, toldOf 1 r.2.log,
        decide (reports r.2.log = reports σ.log))) =
        some (64, .closed, .open, [.channelFlow 1 true, .channelReady 1], true))])
    (a := [true, true, true, true, true]) (by decide +kernel)
  simp only [List.cons.injEq, Prod.mk.injEq, List.isEmpty_iff, decide_eq_true_eq, Option.map_eq_some_iff,
    Option.bind_eq_some_iff, Prod.exists, and_true] at he
  obtain ⟨htasks, hstate, howned, hendpoints, n, υ, ⟨τ, hτ, hf⟩, rfl, h0, h1, htold, hreports⟩ := he
  have hfeeds : Feeds quiet σ [] [octetsIn l] 64 υ := by
    refine .cons (n := 64) (m := 0) ⟨τ, hτ, ?_⟩ (.nil υ _)
    rw [htasks]
    exact returns_of_finish hf
  have hchannels : σ.store.OnlyChannels := by
    intro id e hid
    have hmem := Registry.mem_endpoints_iff.2 ⟨id, hid⟩
    rw [hendpoints, List.mem_pair] at hmem
    exact hmem.elim (⟨0, ·⟩) (⟨1, ·⟩)
  have hu : quiet.IsPassive := fun _ _ => ⟨.done, rfl⟩
  obtain ⟨υ', hfeeds', -, halike⟩ := channels_independent ⟨.standard, hσ⟩ htasks (by rw [howned]; decide)
    hchannels hu hu (show family 0 = [] from rfl) (show Interleaves family l from fun _ => rfl) hl'
    (List.flatten_singleton ..) (show (l'.map Arrival.octets).flatten = octetsIn l' from rfl) hfeeds hreports
  have hsame : ∀ c, υ'.store.channel c = υ.store.channel c := by
    intro c
    rw [Store.channel, halike.channels]
    rfl
  refine ⟨σ, υ, υ', l, l', ⟨.standard, hσ⟩, hstate, hfeeds, hfeeds', halike, rfl, rfl, ?_, ?_, ?_⟩
  · rw [hsame, h0]
  · rw [hsame, h1]
  · rw [halike.told, htold]

end Interleaved

end Session

end AmqpSession
