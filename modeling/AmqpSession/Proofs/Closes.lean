/-
What a close of the connection begins with. Every registered endpoint that is not gone is told to close,
in the order of the ids, and a channel that was not closing yet asks for its own close (`Store.closes`).
-/
import AmqpSession.Proofs.Agreement
import AmqpSession.Proofs.Ordinary

namespace AmqpSession

open Wire

namespace Store

/-! ## The closes of channels -/

/-- What the channel with the id, if one has it, sends when the connection is closed. -/
def closeOn? (s : Store) (id : UInt16) : Option Frame :=
  match s.connection.registry.get? id with
  | some (.channel c) =>
    if s.isLive (.channel c) = true ∧ ((s.channel c).state = .opening ∨ (s.channel c).state = .open) then
      some (closeRequest id)
    else none
  | _ => none

/-- One close for each channel that is registered, not gone, and opening or open, in the order of the
ids. -/
def closes (s : Store) : List Frame := s.connection.registry.ids.filterMap s.closeOn?

/-- What an endpoint sends when it is told to close. -/
def closeOf? (s : Store) : EndpointRef → Option Frame
  | .channel c =>
    if (s.channel c).state = .opening ∨ (s.channel c).state = .open then some (s.channelClose c) else none
  | .custom _ => none

variable {s s' : Store} {c : Nat} {e : EndpointRef}

theorem eq_closeRequest_of_closeOn? {id : UInt16} {f : Frame} (h : s.closeOn? id = some f) :
    f = closeRequest id := by
  unfold closeOn? at h
  split at h
  · split at h
    · exact (Option.some.inj h).symm
    · cases h
  · cases h

theorem closes_ascend (s : Store) : s.closes.Pairwise fun f g => f.channel < g.channel := by
  refine List.pairwise_filterMap.2 (Std.TreeMap.ordered_keys.imp fun hlt f hf g hg => ?_)
  rw [eq_closeRequest_of_closeOn? hf, eq_closeRequest_of_closeOn? hg]
  exact Std.compare_eq_lt.1 hlt

theorem connectionClose_notMem_closes (s : Store) : connectionClose ∉ s.closes := by
  intro hmem
  obtain ⟨id, -, hid⟩ := List.mem_filterMap.1 hmem
  exact ofChannel_ne_connectionClose id _ (eq_closeRequest_of_closeOn? hid).symm

/-! ### Told one after the other -/

theorem closeOf?_channel (s : Store) (c : Nat) :
    s.closeOf? (.channel c) =
      if (s.channel c).state = .opening ∨ (s.channel c).state = .open then some (s.channelClose c)
      else none := rfl

/-- A channel that keeps its state and its id sends what it would have sent. -/
theorem closeOf?_mapChannel {f : Channel → Channel}
    (hf : ∀ ch, (f ch).state = ch.state ∧ (f ch).id = ch.id) (e : EndpointRef) :
    (s.mapChannel c f).closeOf? e = s.closeOf? e := by
  cases e with
  | custom n => rfl
  | channel d =>
    have hkeeps : ((s.mapChannel c f).channel d).state = (s.channel d).state ∧
        ((s.mapChannel c f).channel d).id = (s.channel d).id := by
      by_cases hd : d = c
      · subst hd
        by_cases hlt : d < s.channels.length
        · rw [s.channel_mapChannel hlt]
          exact hf _
        · have hle := Nat.le_of_not_lt hlt
          rw [s.channel_of_length_le hle,
            channel_of_length_le _ (Nat.le_trans (Nat.le_of_eq (s.length_mapChannel d f)) hle)]
          exact ⟨rfl, rfl⟩
      · rw [s.channel_mapChannel_of_ne hd]
        exact ⟨rfl, rfl⟩
    rw [closeOf?_channel, closeOf?_channel, channelClose, channelClose, hkeeps.1, hkeeps.2]

theorem closeOf?_hold (e e' : EndpointRef) : (s.hold e').closeOf? e = s.closeOf? e := by
  cases e' with
  | custom n => cases e <;> rfl
  | channel c => exact closeOf?_mapChannel (f := fun ch => { ch with held := ch.held + 1 }) (by simp) e

theorem closeOf?_lose (e e' : EndpointRef) : (s.lose e').closeOf? e = s.closeOf? e := by
  cases e' with
  | custom n => cases e <;> rfl
  | channel c => exact closeOf?_mapChannel (f := fun ch => { ch with held := ch.held - 1 }) (by simp) e

theorem closeOf?_foldl_hold (es : List EndpointRef) (e : EndpointRef) :
    (es.foldl hold s).closeOf? e = s.closeOf? e := by
  induction es generalizing s with
  | nil => rfl
  | cons e' es ih => rw [List.foldl_cons, ih, closeOf?_hold]

/-- Only channels matter. -/
theorem closeOf?_congr (h : s'.channels = s.channels) (e : EndpointRef) :
    s'.closeOf? e = s.closeOf? e := by
  cases e with
  | custom n => rfl
  | channel d => rw [closeOf?_channel, closeOf?_channel, channelClose, channelClose, channel_congr h]

/-! ### One endpoint after the other -/

/-- What may be left of telling one endpoint when the next one is told. -/
def Between (s : Store) : Task → Prop
  | .user _ | .releaseHandle | .unregister _ => True
  | .release e => s.closeOf? e = none
  | _ => False

theorem Between.congr {t : Task} (h : s.Between t) (he : ∀ e, s'.closeOf? e = s.closeOf? e) :
    s'.Between t := by
  cases t with
  | release e => exact (he e).trans h
  | _ => exact h

theorem Between.isFixed {t : Task} (h : s.Between t) : t.isFixed = true := by
  cases t <;> first | rfl | cases h

end Store

open Store

/-- A step on the way from one endpoint to the next, in which the frame is accepted, if there is one. It
leaves an established connection as it is, and holds nothing back unless frames are held back already. -/
structure Next.Tells (s : Store) (f : Option Frame) (n : Next) : Prop where
  requested : n.store.connection.closeRequested = s.connection.closeRequested
  state : n.store.connection.state = s.connection.state
  queue : s.connection.queue = [] → n.store.connection.queue = []
  kept : ∀ log, kept (n.log.reverse ++ log) = kept log ++ f.toList
  fault : n.fault = none
  tasks : ∀ t ∈ n.tasks, n.store.Between t

namespace Next.Tells

variable {s s' : Store} {f : Option Frame} {n : Next} {tasks : List Task}

theorem follow (h : s'.connection = s.connection) (ht : ∀ t ∈ tasks, s'.Between t) :
    Tells s none (.follow s' tasks) where
  requested := congrArg _ h
  state := congrArg _ h
  queue hq := by rw [← hq]; exact congrArg _ h
  kept log := (List.append_nil _).symm
  fault := rfl
  tasks := ht

theorem only (h : s'.connection = s.connection) : Tells s none (.only s') :=
  follow h fun _ ht => absurd ht List.not_mem_nil

theorem andThen (h : Tells s f n) (ht : ∀ t ∈ tasks, n.store.Between t) : Tells s f (n.andThen tasks) :=
  { h with tasks := fun t hm => (List.mem_append.1 hm).elim (h.tasks t) (ht t) }

end Next.Tells

namespace Store

open Next (Tells)

variable {s s' : Store} {c : Nat} {e : EndpointRef}

theorem send_tells {f : Frame} {n : Next} (h : s.send f = .ok n) (hc : s.connection.state = .connected)
    (hf : f.isPartOfHandshake = false) : Tells s (some f) n := by
  obtain ⟨octets, -, -, ⟨hnow, rfl⟩ | ⟨hlater, rfl⟩⟩ := send_cases h
  · exact ⟨rfl, rfl, id, fun log => by simp [kept, hf], rfl, by simp [Between]⟩
  · exact ⟨rfl, rfl, fun hq => absurd (.inl ⟨hc, hq⟩) hlater, fun log => by simp [kept, hf], rfl, by simp⟩

/-- A channel that is opening or open sends its close, and waits for the answer. -/
theorem closeChannel_of_up (hup : (s.channel c).state = .opening ∨ (s.channel c).state = .open)
    (hr : s.reaches c = true) {n : Next}
    (hn : (s.setChannelState c .closing).holdHandle.send (s.channelClose c) = .ok n) :
    (s.closeChannel c).2 = n.andThen [.releaseHandle] := by
  have hlt : c < s.channels.length := by
    refine Nat.lt_of_not_le fun hle => ?_
    rw [s.channel_of_length_le hle] at hup
    simp [Channel.gone] at hup
  have hclose : (s.setChannelState c .closing).channelClose c = s.channelClose c := by
    rw [channelClose, setChannelState, s.channel_mapChannel hlt]
    rfl
  rw [← hclose] at hn
  unfold closeChannel
  rcases hup with hup | hup <;> rw [hup] <;> dsimp only <;> rw [if_pos hr, hn]

theorem closeOf?_setChannelState_closing (s : Store) (c : Nat) (e : EndpointRef) :
    (s.setChannelState c .closing).closeOf? e = if e = .channel c then none else s.closeOf? e := by
  cases e with
  | custom n => exact (if_neg (by simp)).symm
  | channel d =>
    by_cases hd : d = c
    · subst hd
      rw [if_pos rfl, closeOf?_channel]
      refine if_neg ?_
      by_cases hlt : d < s.channels.length
      · rw [setChannelState, s.channel_mapChannel hlt]
        simp
      · rw [setChannelState, channel_of_length_le _
          (Nat.le_trans (Nat.le_of_eq (s.length_mapChannel d _)) (Nat.le_of_not_lt hlt))]
        simp [Channel.gone]
    · rw [if_neg fun h => hd (EndpointRef.channel.inj h), closeOf?_channel, closeOf?_channel, channelClose,
        channelClose, setChannelState, s.channel_mapChannel_of_ne hd]

/-- A channel that is not up has nothing to close. -/
theorem closeChannel_of_not_up {c : Nat} (hup : ¬ s.IsUp c) : (s.closeChannel c).2 = .only s :=
  match (s.closeChannel c).2, s.closesChannel c with
  | _, .aside _ => rfl
  | _, .unsent hs _ => absurd hs hup
  | _, .sent hs _ _ => absurd hs hup

/-- An endpoint that is told to close sends its close, if it has one to send, and only once. -/
theorem closeEndpoint_tells (hc : s.connection.state = .connected) (ha : s.connection.alive = true)
    (hat : ∀ c, (s.channel c).state ≠ .closed → (s.channel c).attached = true) (e : EndpointRef) :
    Tells s (s.closeOf? e) (s.closeEndpoint e) ∧
      ∀ e', (s.closeEndpoint e).store.closeOf? e' = if e' = e then none else s.closeOf? e' := by
  cases e with
  | custom n =>
    refine ⟨⟨rfl, rfl, id, fun log => (List.append_nil _).symm, rfl,
      by simp [closeEndpoint, Next.start, Between]⟩, fun e' => ?_⟩
    split
    · rename_i h
      rw [h]
      rfl
    · rfl
  | channel c =>
    by_cases hup : (s.channel c).state = .opening ∨ (s.channel c).state = .open
    · have hr : s.reaches c = true := by
        rw [reaches, ha, hat c (by rcases hup with h | h <;> rw [h] <;> simp)]
        rfl
      have ho : (s.setChannelState c .closing).holdHandle.connection.isOpen := by
        show s.connection.state ≠ .closing ∧ s.connection.state ≠ .closed
        rw [hc]
        exact ⟨by decide, by decide⟩
      obtain ⟨octets, hw⟩ := exists_toWire_closeRequest (s.channel c).id
      obtain ⟨n, hn⟩ := exists_send ho hw
      have hclose : s.closeEndpoint (.channel c) = n.andThen [.releaseHandle] :=
        closeChannel_of_up hup hr hn
      have hsent : Tells _ _ (n.andThen [.releaseHandle]) :=
        (send_tells hn hc rfl).andThen (by simp [Between])
      have hchannels : n.store.channels = (s.setChannelState c .closing).channels := (send_aside hn).2.1
      rw [closeOf?_channel, if_pos hup, hclose]
      refine ⟨⟨hsent.requested, hsent.state, hsent.queue, hsent.kept, hsent.fault, hsent.tasks⟩,
        fun e' => ?_⟩
      rw [← closeOf?_setChannelState_closing]
      exact closeOf?_congr hchannels e'
    · have hclose : s.closeEndpoint (.channel c) = .only s := closeChannel_of_not_up hup
      have hnone : s.closeOf? (.channel c) = none := if_neg hup
      rw [hclose, hnone]
      refine ⟨.only rfl, fun e' => ?_⟩
      split
      · rename_i h
        rw [h]
        exact hnone
      · rfl

/-- Nothing is left to send for a channel that was told to close. -/
theorem whenLost_of_closeOf?_none (h : s.closeOf? e = none) : s.whenLost e = .only s ∨
    s.whenLost e = .follow s.holdHandle [.unregister e, .releaseHandle] := by
  cases e with
  | custom n => exact .inl rfl
  | channel c =>
    by_cases hl : s.isLive (.channel c) = true
    · exact .inl (if_pos hl)
    · by_cases hr : s.reaches c = true
      · right
        rw [closeOf?_channel] at h
        have hst : (s.channel c).state = .closing ∨ (s.channel c).state = .closed := by
          cases hst : (s.channel c).state with
          | opening => rw [if_pos (.inl hst)] at h; cases h
          | «open» => rw [if_pos (.inr hst)] at h; cases h
          | closing => exact .inl rfl
          | closed => exact .inr rfl
        exact (if_neg hl).trans (dropChannel_of_closing hr hst)
      · exact .inl ((if_neg hl).trans (if_neg hr))

/-- What is left of telling one endpoint sends nothing. -/
theorem Between.run {t : Task} {n : Next} (ht : s.Between t) (hh : t = .releaseHandle → s.handles ≠ 1)
    (hn : t.run s = some n) : Tells s none n ∧ ∀ e, n.store.closeOf? e = s.closeOf? e := by
  cases t with
  | releaseHandle =>
    cases hn
    rw [releaseHandle, if_neg (hh rfl)]
    exact ⟨⟨rfl, rfl, id, fun log => (List.append_nil _).symm, rfl, by simp [Next.only]⟩,
      closeOf?_congr rfl⟩
  | unregister e =>
    cases hn
    exact ⟨⟨rfl, rfl, id, fun log => (List.append_nil _).symm, rfl, by simp [Next.only]⟩,
      closeOf?_congr rfl⟩
  | release e =>
    cases hn
    have hlost : (s.lose e).closeOf? e = none := (closeOf?_lose e e).trans ht
    rcases whenLost_of_closeOf?_none hlost with h | h
    · rw [h]
      exact ⟨.only (connection_lose s e), fun e' => closeOf?_lose e' e⟩
    · rw [h]
      refine ⟨⟨?_, ?_, ?_, fun log => (List.append_nil _).symm, rfl, by simp [Next.follow, Between]⟩,
        fun e' => (closeOf?_congr rfl e').trans (closeOf?_lose e' e)⟩
      · show (s.lose e).connection.closeRequested = _
        rw [connection_lose]
      · show (s.lose e).connection.state = _
        rw [connection_lose]
      · show _ → (s.lose e).connection.queue = _
        rw [connection_lose]
        exact id
  | user cb => cases hn
  | _ => cases ht

/-! ### Which endpoints are told -/

/-- The endpoints that are told of a close. -/
def heldForClose (s : Store) : List EndpointRef := s.connection.registry.endpoints.filter s.isLive

/-- No channel is told twice. -/
def Distinct (es : List EndpointRef) : Prop := es.Pairwise fun e e' => ∀ c, e = .channel c → e' ≠ .channel c

end Store

namespace Session

open Store

variable {σ : Session}

theorem Reachable.named (h : σ.Reachable) {c : Nat} {id : UInt16} (hid : σ.store.HasId c id) :
    (σ.store.channel c).id = id :=
  ((h.tracks c).named hid).2.1

theorem Reachable.distinct (h : σ.Reachable) : Distinct σ.store.heldForClose := by
  refine List.Pairwise.filter _ ?_
  rw [Registry.endpoints_eq_map, List.pairwise_map]
  refine List.Pairwise.imp_of_mem ?_ (Std.TreeMap.distinct_keys_toList (t := σ.store.connection.registry.entries))
  intro p q hp hq hne c hpc hqc
  -- both entries have the id of the channel
  have hid : ∀ r ∈ σ.store.connection.registry.entries.toList, r.2 = .channel c →
      (σ.store.channel c).id = r.1 := by
    intro r hr hrc
    refine h.named ?_
    rw [HasId, ← hrc]
    exact Std.TreeMap.mem_toList_iff_getElem?_eq_some.1 hr
  exact hne (Std.LawfulEqCmp.compare_eq_iff_eq.2 ((hid p hp hpc).symm.trans (hid q hq hqc)))

/-- Told in turn, the channels send the closes in the order of the ids. -/
theorem Reachable.closes_eq (h : σ.Reachable) :
    σ.store.heldForClose.filterMap σ.store.closeOf? = σ.store.closes := by
  rw [heldForClose, closes, List.filterMap_filter, Registry.endpoints_eq_map, List.filterMap_map,
    Registry.ids, ← Std.TreeMap.map_fst_toList_eq_keys, List.filterMap_map]
  refine List.filterMap_congr fun p hp => ?_
  have hget : σ.store.connection.registry.get? p.1 = some p.2 :=
    Std.TreeMap.mem_toList_iff_getElem?_eq_some.1 hp
  show (if σ.store.isLive p.2 = true then σ.store.closeOf? p.2 else none) = σ.store.closeOn? p.1
  rw [closeOn?, hget]
  cases he : p.2 with
  | custom n => exact ite_self _
  | channel c =>
    have hid : (σ.store.channel c).id = p.1 := h.named (hget.trans (congrArg some he))
    dsimp only [closeOf?]
    rw [ite_and, channelClose, hid]
    rfl

end Session

end AmqpSession
