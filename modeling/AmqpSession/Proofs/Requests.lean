/-
Requests of channels: a channel that is opened or closed, or that nobody holds any more. Its state, its
id and its holders are what the reply finds, and the rest of the operation leaves them as it would
without the reply. So for every request that an operation makes a reply may come at once
(`replies_agree`), but for what a close of the whole connection asks for: that expects no reply before
the request is out (`close_confirmed_too_early`).
-/
import AmqpSession.Proofs.Replies

namespace AmqpSession

open Wire

/-! ## Requests of a channel -/

namespace Store

theorem addressee?_of_hasId {c : Nat} {f : Frame} (s : Store) (h : s.HasId c f.channel)
    (hl : s.isLive (.channel c) = true) : s.addressee? f = some (.channel c) := by
  unfold addressee?
  rw [h]
  exact if_pos hl

theorem addressee?_of_free {s : Store} {f : Frame}
    (h : s.connection.registry.get? f.channel = none) : s.addressee? f = none := by
  unfold addressee?
  rw [h]

/-- A channel is let go of. If nobody else holds it then its close may go out. -/
theorem whenLost_cases (s : Store) (c : Nat) : s.whenLost (.channel c) = .only s ∨
    (∃ s' es, s.whenLost (.channel c) = ⟨s', [.unregister (.channel c), .releaseHandle], es, none⟩) ∨
    ∃ octets, s.isLive (.channel c) = false ∧ s.reaches c = true ∧ s.connection.state = .connected ∧
      s.whenLost (.channel c) = (Next.sent s.holdHandle (closeRequest (s.channel c).id) octets).andThen
        [.unregister (.channel c), .releaseHandle] := by
  match s.whenLost (.channel c), s.loses (.channel c) with
  | _, .aside _ => exact .inl rfl
  | _, .last hl hn =>
    cases hn with
    | aside => exact .inl rfl
    | unsent => exact .inr (.inl ⟨_, _, rfl⟩)
    | sent hr _ hsend =>
      obtain ⟨octets, -, -, ⟨hnow, rfl⟩ | ⟨-, rfl⟩⟩ := send_cases hsend
      · exact .inr (.inr ⟨octets, hl, hr, (hnow.resolve_right Bool.false_ne_true).1, rfl⟩)
      · exact .inr (.inl ⟨_, _, rfl⟩)

theorem fault_whenLost (s : Store) (c : Nat) : (s.whenLost (.channel c)).fault = none := by
  obtain h | ⟨s', es, h⟩ | ⟨octets, -, -, -, h⟩ := s.whenLost_cases c <;> rw [h] <;> rfl

end Store

namespace Yields

variable {rest : List Task} {s s' s'' : Store} {es : List Event} {c : Nat} {id : UInt16} {reply : Bytes}

theorem lost {e : EndpointRef} (he : ∀ c, e = .channel c → (s.lose e).isLive e = true ∨
      (s.lose e).reaches c = false) (h : Yields rest (s.lose e) es s') :
    Yields (.release e :: rest) s es s' :=
  .only (s.lose e) (congrArg some (Store.whenLost_eq_only _ he)) h

/-- The reply was all of the buffer. -/
theorem handledReply (reply : Bytes) (hh : s.handles ≠ 1) :
    Yields [.handled none ⟨reply, 0, reply.length⟩ none] s [.answered (.consumed reply.length)]
      s.loseHandle := by
  have := handled (s := s) (p := ⟨reply, 0, reply.length⟩) (Nat.le_refl _) hh
  rwa [Nat.zero_add] at this

/-- A frame that the channel of an established connection answers for. -/
theorem served {g : Frame} (s'' : Store) (cb : Callback) (ha : s.connection.alive = true)
    (hst : s.connection.state = .connected) (hh : s''.handles ≠ 1)
    (hd : Frame.decode reply s.connection.maxFrameSize = .ok (some ⟨g, reply.length⟩))
    (hg : g.channel ≠ 0) (hb : g.body ≠ .heartbeat) (hc : s.addressee? g = some (.channel c))
    (hn : (s.hold (.channel c)).receiveOnChannel c g.body = .start s'' cb [])
    (he : (s''.lose (.channel c)).isLive (.channel c) = true ∨
      (s''.lose (.channel c)).reaches c = false) :
    Yields [.parse reply 0] s [.answered (.consumed reply.length), .started cb, .received g]
      (s''.lose (.channel c)).loseHandle := by
  have hrun : Task.run (.parse reply 0) s = some ((Next.start s'' cb []).within g (some (.channel c))
      ⟨reply, 0, reply.length⟩) := by
    show some (s.parse reply 0) = _
    rw [Store.parse_of_live ha (by rw [hst]; nofun), hd]
    dsimp only
    rw [Store.receive_addressed hg (fun h => h.elim hb (by rw [hst]; nofun)) hc, Store.deliver, hn]
  have hlost : Yields [.release (.channel c), .handled none ⟨reply, 0, reply.length⟩ none] s''
      [.answered (.consumed reply.length)] (s''.lose (.channel c)).loseHandle := by
    refine .lost (fun d hd => ?_) (.handledReply reply hh)
    cases hd
    exact he
  exact .task hrun rfl (.user (.follow s'' rfl hlost))

/-- The channel that asked for it is open. -/
theorem opened (ha : s.connection.alive = true) (hst : s.connection.state = .connected)
    (hh : s.handles ≠ 0) (hid : id ≠ 0)
    (hd : Frame.decode reply s.connection.maxFrameSize = .ok (some ⟨openAnswer id, reply.length⟩))
    (hc : s.HasId c id) (hl : s.isLive (.channel c) = true) (ho : (s.channel c).state = .opening) :
    Yields [.parse reply 0] s.holdHandle
      [.answered (.consumed reply.length), .started (.channelReady c), .received (openAnswer id)]
      (s.setChannelState c .open) := by
  have hlose : ((s.holdHandle.hold (.channel c)).setChannelState c .open).lose (.channel c) =
      s.holdHandle.setChannelState c .open := by
    rw [Store.setChannelState_hold, Store.lose_hold]
  have hserved := served (s := s.holdHandle) (c := c)
    ((s.holdHandle.hold (.channel c)).setChannelState c .open) (.channelReady c) ha hst
    (s.hasSpare_holdHandle hh).2 hd hid nofun (s.addressee?_of_hasId hc hl)
    (if_pos ((s.holdHandle.state_channel_hold c (.channel c)).trans ho)) (.inl ?_)
  · rw [hlose] at hserved
    have hstore : (s.holdHandle.setChannelState c .open).loseHandle = s.setChannelState c .open :=
      (s.setChannelState c .open).loseHandle_holdHandle
    rwa [hstore] at hserved
  · rw [hlose]
    exact Store.isLive_setChannelState hl .open

/-- The channel that closes is closed. -/
theorem closed (ha : s.connection.alive = true) (hst : s.connection.state = .connected)
    (hh : s.handles ≠ 0) (hid : id ≠ 0)
    (hd : Frame.decode reply s.connection.maxFrameSize = .ok (some ⟨closeAnswer id, reply.length⟩))
    (hc : s.HasId c id) (hl : s.isLive (.channel c) = true) (ho : (s.channel c).state = .closing) :
    Yields [.parse reply 0] s.holdHandle
      [.answered (.consumed reply.length), .started (.channelClosed c), .received (closeAnswer id)]
      (s.retire c) := by
  have hlt : c < s.holdHandle.channels.length := Store.lt_length_of_hasHolder (Store.isLive_channel_iff.1 hl)
  have hlose : ((s.holdHandle.hold (.channel c)).retire c).lose (.channel c) = s.holdHandle.retire c := by
    rw [Store.retire_hold hlt, Store.lose_hold]
  have hserved := served (s := s.holdHandle) (c := c) ((s.holdHandle.hold (.channel c)).retire c)
    (.channelClosed c) ha hst
    (s.hasSpare_holdHandle hh).2 hd hid nofun (s.addressee?_of_hasId hc hl)
    (if_pos ((s.holdHandle.state_channel_hold c (.channel c)).trans ho))
    (.inr ((s.holdHandle.hold (.channel c)).reaches_lose_detach c))
  rw [hlose] at hserved
  have hstore : (s.holdHandle.retire c).loseHandle = s.retire c := (s.retire c).loseHandle_holdHandle
  rwa [hstore] at hserved

/-- Nobody waits for the confirmation. -/
theorem passedOver (ha : s.connection.alive = true) (hst : s.connection.state = .connected)
    (hh : s.handles ≠ 0) (hid : id ≠ 0)
    (hd : Frame.decode reply s.connection.maxFrameSize = .ok (some ⟨closeAnswer id, reply.length⟩))
    (hc : s.addressee? (closeAnswer id) = none) :
    Yields [.parse reply 0] s.holdHandle
      [.answered (.consumed reply.length), .received (closeAnswer id)] s := by
  have hopen : s.holdHandle.connection.state ≠ .closed := by
    show s.connection.state ≠ _
    rw [hst]
    nofun
  have hrun : Task.run (.parse reply 0) s.holdHandle =
      some ((Next.only s.holdHandle).within (closeAnswer id) none ⟨reply, 0, reply.length⟩) := by
    show some (s.holdHandle.parse reply 0) = _
    rw [Store.parse_of_live (s := s.holdHandle) ha hopen,
      show s.holdHandle.connection.maxFrameSize = s.connection.maxFrameSize from rfl, hd]
    dsimp only
    rw [Store.receive_ignored (s := s.holdHandle) hid (.inr hc)]
  have hhandled := handledReply reply (s.hasSpare_holdHandle hh).2
  rw [Store.loseHandle_holdHandle] at hhandled
  exact .task hrun rfl hhandled

end Yields

namespace Session

variable {base : List Task} {ρ τ : Session} {reply : Bytes} {f g : Frame} {c : Nat}

/-- A frame that goes out at once, and is not part of the handshake, finds the connection established. -/
theorem connected_of_send {s : Store} {n : Next} (hp : f.isPartOfHandshake = false)
    (h : s.send f = .ok n) (hn : n.tasks ≠ []) :
    s.connection.state = .connected ∧ ∃ octets, n = .sent s f octets := by
  obtain ⟨octets, -, -, ⟨hnow, rfl⟩ | ⟨-, rfl⟩⟩ := Store.send_cases h
  · refine ⟨(hnow.resolve_right ?_).1, octets, rfl⟩
    rw [hp]
    exact Bool.false_ne_true
  · exact absurd rfl hn

/-- The new channel has its id and waits for the answer when it is asked for. -/
theorem hands_opens (h : ρ.call? .openChannel = some τ) (hf : τ.Hands f) :
    ∃ c id cb o, f = openRequest id ∧ id ≠ 0 ∧ τ.store.HasId c id ∧
      τ.store.channel c = ⟨id, .opening, true, 0, 1⟩ ∧ τ.store.connection.state = .connected ∧
      τ.tasks = .user cb :: ([.handOver c, .releaseHandle, .answer o] ++ ρ.tasks) := by
  obtain ⟨-, -, rfl⟩ := call?_eq_some_iff.1 h
  obtain ⟨octets, rest, es, htasks, hlog⟩ := hf
  have hrun : Call.run .openChannel ρ.store = ρ.store.holdHandle.openChannel.2.andThen
      [.releaseHandle, .answer (.opened ρ.store.channels.length ρ.store.holdHandle.openChannel.1)] := rfl
  obtain ⟨e, hopen, -⟩ | ⟨id, r, n, -, hr, hsend, hopen⟩ := ρ.store.holdHandle.openChannel_cases
  · rw [hrun, hopen] at htasks
    cases htasks
  · rw [hrun, hopen] at htasks hlog ⊢
    obtain ⟨hst, octets', rfl⟩ := connected_of_send rfl hsend fun hn => by
      dsimp only [Next.andThen, proceed] at htasks
      rw [hn] at htasks
      cases htasks
    cases hlog
    obtain ⟨hid, -, hentries⟩ := Registry.register_eq_ok hr
    refine ⟨_, id, _, _, rfl, hid, ?_, Store.channel_withChannel _ _, hst, rfl⟩
    show r.get? id = _
    rw [Registry.get?_of_insert hentries, if_pos rfl]
    rfl

/-- The channel is open before it goes to its caller or after. -/
theorem Replied.opened {id : UInt16} {cb : Callback} {o : Outcome}
    (h : Replied base τ (openRequest id) (openAnswer id) reply) (hid : id ≠ 0)
    (hc : τ.store.HasId c id) (hch : τ.store.channel c = ⟨id, .opening, true, 0, 1⟩)
    (hst : τ.store.connection.state = .connected)
    (hτ : τ.tasks = .user cb :: ([.handOver c, .releaseHandle, .answer o] ++ base)) :
    RepliesAgree base τ reply True := by
  have ha := h.reachable.alive_of_connected hst
  have hs := h.hasSpare _ hτ Nat.one_ne_zero
  let handOver : Channel → Channel := fun ch => { ch with held := ch.held - 1, owned := ch.owned + 1 }
  have hrest : ∀ s : Store, s.handles ≠ 1 → Yields [.handOver c, .releaseHandle, .answer o] s
      [.answered o] (s.mapChannel c handOver).loseHandle := fun s hh =>
    .only (s.mapChannel c handOver) rfl (.releaseHandle hh (.answer (.done _)))
  have hlive : τ.store.isLive (.channel c) = true := by
    rw [Store.isLive_channel_iff, hch]
    exact Nat.one_ne_zero
  have hlt := Store.lt_length_of_hasHolder (Store.isLive_channel_iff.1 hlive)
  have hch' : (τ.store.mapChannel c handOver).loseHandle.channel c = ⟨id, .opening, true, 1, 0⟩ := by
    refine (Store.channel_mapChannel _ hlt _).trans ?_
    rw [hch]
    rfl
  have hafter : Yields [.parse reply 0] (τ.store.mapChannel c handOver).loseHandle.holdHandle
      [.answered (.consumed reply.length), .started (.channelReady c), .received (openAnswer id)]
      ((τ.store.mapChannel c handOver).loseHandle.setChannelState c .open) := by
    refine .opened ha hst hs.loseHandle hid h.decodes hc (Store.isLive_channel_iff.2 ?_) ?_
    · rw [hch']
      exact Nat.one_ne_zero
    · exact congrArg Channel.state hch'
  -- the hand-over counts handles and leaves the state of the channel alone
  have hcommute : ((τ.store.setChannelState c .open).mapChannel c handOver).loseHandle =
      (τ.store.mapChannel c handOver).loseHandle.setChannelState c .open := by
    show ((τ.store.mapChannel c _).mapChannel c _).loseHandle =
      ((τ.store.mapChannel c _).mapChannel c _).loseHandle
    rw [Store.mapChannel_mapChannel, Store.mapChannel_mapChannel]
    rfl
  rw [← hcommute] at hafter
  have hh : (τ.store.mapChannel c handOver).loseHandle.handles ≠ 0 := hs.loseHandle
  exact repliesAgree_of_yields hτ h.idle hs.handles_ne_zero hh
    (.opened ha hst hs.handles_ne_zero hid h.decodes hc hlive (congrArg Channel.state hch))
    (hrest _ hs.2) (hrest _ hs.2) hafter (.refl _) fun _ => ⟨rfl, rfl, rfl⟩

/-- The channel closes already when its close goes out. -/
theorem hands_closes (h : ρ.call? (.closeChannel c) = some τ) (hf : τ.Hands f) :
    ∃ cb o, f = closeRequest (ρ.store.channel c).id ∧ ρ.store.isLive (.channel c) = true ∧
      ρ.store.reaches c = true ∧
      τ.store = ((ρ.store.hold (.channel c)).setChannelState c .closing).holdHandle ∧
      τ.store.connection.state = .connected ∧
      τ.tasks = .user cb :: ([.releaseHandle, .release (.channel c), .answer o] ++ ρ.tasks) := by
  obtain ⟨-, hl, rfl⟩ := call?_eq_some_iff.1 h
  replace hl : ρ.store.isLive (.channel c) = true := hl
  obtain ⟨octets, rest, es, htasks, hlog⟩ := hf
  have hrun : Call.run (.closeChannel c) ρ.store = ((ρ.store.hold (.channel c)).closeChannel c).2.andThen
      [.release (.channel c), .answer (.channel ((ρ.store.hold (.channel c)).closeChannel c).1)] := rfl
  have hlt := Store.lt_length_of_hasHolder (Store.isLive_channel_iff.1 hl)
  have hclose := (ρ.store.hold (.channel c)).closesChannel c
  rw [hrun] at htasks hlog ⊢
  generalize (ρ.store.hold (.channel c)).closeChannel c = result at hclose htasks hlog ⊢
  obtain ⟨outcome, n⟩ := result
  cases hclose with
  | aside | unsent => cases htasks
  | sent _ hr hsend =>
    have hid : (((ρ.store.hold (.channel c)).setChannelState c .closing).channel c).id =
        (ρ.store.channel c).id := by
      have hlt' : c < (ρ.store.setChannelState c .closing).channels.length :=
        Nat.lt_of_lt_of_eq hlt (Store.length_mapChannel ..).symm
      rw [Store.setChannelState_hold, Store.channel_hold _ hlt', Store.setChannelState,
        Store.channel_mapChannel _ hlt]
    obtain ⟨hst, octets', rfl⟩ := connected_of_send rfl hsend fun hn => by
      dsimp only [Next.andThen, proceed] at htasks
      rw [hn] at htasks
      cases htasks
    cases hlog
    refine ⟨_, _, congrArg closeRequest hid, hl, ?_, rfl, hst, rfl⟩
    unfold Store.reaches at hr ⊢
    rwa [Store.channel_hold _ hlt] at hr

/-- The channel is closed before the call lets go of it or after. -/
theorem Replied.closed {id : UInt16} {cb : Callback} {o : Outcome}
    (h : Replied base τ (closeRequest id) (closeAnswer id) reply) (hid : id ≠ 0)
    (hc : τ.store.HasId c id) (hl : (τ.store.lose (.channel c)).isLive (.channel c) = true)
    (ho : (τ.store.channel c).state = .closing) (hst : τ.store.connection.state = .connected)
    (hτ : τ.tasks = .user cb :: ([.releaseHandle, .release (.channel c), .answer o] ++ base)) :
    RepliesAgree base τ reply True := by
  have ha := h.reachable.alive_of_connected hst
  have hs := h.hasSpare _ hτ Nat.one_ne_zero
  have hlt : c < τ.store.channels.length := by
    have := Store.lt_length_of_hasHolder (Store.isLive_channel_iff.1 hl)
    rwa [Store.lose, Store.length_mapChannel] at this
  have hlose : (τ.store.lose (.channel c)).channel c =
      { τ.store.channel c with held := (τ.store.channel c).held - 1 } := Store.channel_mapChannel _ hlt _
  have hlive : τ.store.isLive (.channel c) = true := by
    rw [Store.isLive_channel_iff] at hl ⊢
    rw [hlose] at hl
    unfold Channel.HasHolder at hl ⊢
    dsimp only at hl
    omega
  have hrest : ∀ s : Store, s.handles ≠ 1 → ((s.lose (.channel c)).isLive (.channel c) = true ∨
      (s.lose (.channel c)).reaches c = false) →
      Yields [.releaseHandle, .release (.channel c), .answer o] s [.answered o]
        (s.loseHandle.lose (.channel c)) := by
    intro s hh he
    refine .releaseHandle hh (.lost (fun d hd => ?_) (.answer (.done _)))
    cases hd
    exact he
  have hh : (τ.store.loseHandle.lose (.channel c)).handles ≠ 0 := hs.loseHandle
  have hafter : Yields [.parse reply 0] (τ.store.loseHandle.lose (.channel c)).holdHandle
      [.answered (.consumed reply.length), .started (.channelClosed c), .received (closeAnswer id)]
      ((τ.store.loseHandle.lose (.channel c)).retire c) := by
    refine .closed ha hst hh hid h.decodes hc hl ?_
    exact (congrArg Channel.state hlose).trans ho
  have hcommute : (τ.store.retire c).loseHandle.lose (.channel c) =
      (τ.store.loseHandle.lose (.channel c)).retire c :=
    congrArg Store.loseHandle (Store.retire_lose hlt).symm
  rw [← hcommute] at hafter
  exact repliesAgree_of_yields hτ h.idle hs.handles_ne_zero hh
    (.closed ha hst hs.handles_ne_zero hid h.decodes hc hlive ho)
    (hrest _ hs.2 (.inr (τ.store.reaches_lose_detach c))) (hrest _ hs.2 (.inl hl)) hafter (.refl _)
    fun _ => ⟨rfl, rfl, rfl⟩

/-- Nobody waits for the answer to the close of a channel that nobody holds any more. -/
theorem Replied.passedOver {id : UInt16} {cb : Callback} {last : List Task} {fin : Store → Store}
    (h : Replied base τ (closeRequest id) (closeAnswer id) reply) (hlast : IsLast last fin)
    (hid : id ≠ 0) (hc : τ.store.HasId c id) (hch : (τ.store.channel c).id = id)
    (hl : τ.store.isLive (.channel c) = false) (hst : τ.store.connection.state = .connected)
    (hτ : τ.tasks = .user cb :: (([.unregister (.channel c), .releaseHandle] ++ last) ++ base)) :
    RepliesAgree base τ reply True := by
  have ha := h.reachable.alive_of_connected hst
  have hk := h.kept
  let s : Store := (τ.store.unregister (.channel c)).loseHandle
  have hheld : τ.store.connection.held = 1 + handlesOf last + handlesOf base := by
    rw [h.reachable.held_eq, hτ, handlesOf_cons, handlesOf_append, handlesOf_append, handlesOf_cons,
      handlesOf_cons]
    show 0 + (0 + (1 + 0) + handlesOf last + handlesOf base) = _
    omega
  have hs : τ.store.handles ≠ 0 ∧ τ.store.handles ≠ 1 := by
    unfold Store.handles
    omega
  have hsheld : s.connection.held = handlesOf last + handlesOf base := by
    show τ.store.connection.held - 1 = _
    omega
  have hfin : (fin s).handles ≠ 0 := by
    cases hlast with
    | answer =>
      show τ.store.connection.owned + s.connection.held ≠ 0
      omega
    | handled =>
      show τ.store.connection.owned + (s.connection.held - 1) ≠ 0
      rw [hsheld, show handlesOf [_] = 1 from rfl]
      omega
  obtain ⟨es, hcb, hr, hes⟩ := hlast.yields (s := s) (by omega) hfin
  have hrest : Yields ([.unregister (.channel c), .releaseHandle] ++ last) τ.store es (fin s) :=
    .only (τ.store.unregister (.channel c)) rfl (.releaseHandle hs.2 hes)
  -- the id is still in use when the reply comes first, but nobody holds its channel
  have hin : τ.store.addressee? (closeAnswer id) = none := by
    unfold Store.addressee?
    rw [show τ.store.connection.registry.get? (closeAnswer id).channel = _ from hc]
    exact if_neg (by rw [hl]; exact Bool.false_ne_true)
  -- and when it comes last the id is free
  have hfreed : (τ.store.connection.registry.release (τ.store.idOf (.channel c)) (.channel c)).get? id =
      none := by
    rw [show τ.store.idOf (.channel c) = id from hch, Registry.get?_release hid hc, if_pos rfl]
  have hafter : Yields [.parse reply 0] (fin s).holdHandle
      [.answered (.consumed reply.length), .received (closeAnswer id)] (fin s) := by
    cases hlast with
    | answer => exact .passedOver ha hst hfin hid h.decodes (Store.addressee?_of_free hfreed)
    | handled => exact .passedOver ha hst hfin hid h.decodes (Store.addressee?_of_free hfreed)
  refine repliesAgree_of_yields hτ h.idle hs.1 hfin (.passedOver ha hst hs.1 hid h.decodes hin) hrest hrest
    hafter ?_ fun _ => ⟨rfl, hr, rfl⟩
  rw [hcb]
  exact .refl _

/-- A channel that is not about to be cut off has its id. -/
theorem Reachable.hasId_of_reaches (h : ρ.Reachable) (hr : ρ.store.reaches c = true)
    (hh : (ρ.store.channel c).HasHolder) (hc : (stakes c ρ.tasks).outcast = 0) :
    ρ.store.HasId c (ρ.store.channel c).id ∧ (ρ.store.channel c).id ≠ 0 := by
  rw [Store.reaches, Bool.and_eq_true] at hr
  have htracks := h.tracks c
  have hout : (stakes c ρ.tasks + records c ρ.log).outcast = 0 := by
    rw [Stake.outcast_add, hc, records_eq]
    rfl
  obtain ⟨id, hid⟩ := (htracks.known hr.2 hr.1 hh).resolve_right (absurd hout)
  obtain ⟨hne, rfl, -⟩ := htracks.named hid
  exact ⟨hid, hne⟩

/-- A channel is let go of, and `t` is what is left then. -/
theorem Replied.lost {last : List Task} {fin : Store → Store} (h : Replied base τ f g reply) (t : Store)
    (log : List Event) (hlast : IsLast last fin)
    (hids : t.reaches c = true → t.HasId c (t.channel c).id ∧ (t.channel c).id ≠ 0)
    (hτ : τ = proceed (t.whenLost (.channel c)) log (last ++ base)) :
    RepliesAgree base τ reply True := by
  subst hτ
  obtain hlost | ⟨s', es', hlost⟩ | ⟨octets, hl, hr, hst, hlost⟩ := t.whenLost_cases c
  · rw [hlost] at h
    cases hlast <;> cases h.hands.isIdle
  · rw [hlost] at h
    cases h.hands.isIdle
  · rw [hlost] at h ⊢
    obtain rfl := h.hands.eq
    obtain rfl := h.isReply.of_closeRequest
    obtain ⟨hid, hne⟩ := hids hr
    exact h.passedOver hlast hne hid rfl hl hst (congrArg _ (List.append_assoc ..).symm)

/-- Whoever lets go of a channel held it, so that it had its id. -/
theorem hasId_mapChannel (hρ : ρ.Reachable) (hout : (stakes c ρ.tasks).outcast = 0)
    (hh : (ρ.store.channel c).HasHolder) {h : Channel → Channel} (hid : ∀ ch, (h ch).id = ch.id)
    (hat : ∀ ch, (h ch).attached = ch.attached) (hr : (ρ.store.mapChannel c h).reaches c = true) :
    (ρ.store.mapChannel c h).HasId c ((ρ.store.mapChannel c h).channel c).id ∧
      ((ρ.store.mapChannel c h).channel c).id ≠ 0 := by
  have hch := ρ.store.channel_mapChannel (Store.lt_length_of_hasHolder hh) h
  rw [Store.reaches, hch, hat] at hr
  rw [hch, hid]
  exact hρ.hasId_of_reaches hr hh hout

/-- User code opens a channel. -/
theorem Replied.opens (h : Replied ρ.tasks τ f g reply) (hc : ρ.call? .openChannel = some τ) :
    RepliesAgree ρ.tasks τ reply True := by
  obtain ⟨c, id, cb, o, rfl, hid, hasId, hch, hst, htasks⟩ := hands_opens hc h.hands
  cases h.isReply
  exact h.opened hid hasId hch hst htasks

/-- User code closes a channel. -/
theorem Replied.closes (h : Replied ρ.tasks τ f g reply) (hρ : ρ.Reachable)
    (hc : ρ.call? (.closeChannel c) = some τ) (hout : (stakes c ρ.tasks).outcast = 0) :
    RepliesAgree ρ.tasks τ reply True := by
  obtain ⟨cb, o, rfl, hl, hr, hstore, hst, htasks⟩ := hands_closes hc h.hands
  obtain rfl := h.isReply.of_closeRequest
  rw [Store.isLive_channel_iff] at hl
  obtain ⟨hid, hne⟩ := hρ.hasId_of_reaches hr hl hout
  have hstore' : τ.store = (ρ.store.mapChannel c
      fun ch => { ch with state := .closing, held := ch.held + 1 }).holdHandle := by
    rw [hstore]
    exact congrArg Store.holdHandle (Store.mapChannel_mapChannel ..)
  have hlt := Store.lt_length_of_hasHolder hl
  have hch : τ.store.channel c =
      { ρ.store.channel c with state := .closing, held := (ρ.store.channel c).held + 1 } := by
    rw [hstore']
    exact Store.channel_mapChannel _ hlt _
  refine h.closed hne (by rw [hstore]; exact hid) ?_ (congrArg Channel.state hch) hst htasks
  have hlt' : c < τ.store.channels.length := by
    rw [hstore']
    exact Nat.lt_of_lt_of_eq hlt (Store.length_mapChannel ..).symm
  rw [Store.isLive_channel_iff, Store.lose, Store.channel_mapChannel _ hlt', hch]
  exact hl

/-- User code lets go of a channel. -/
theorem Replied.leaves (h : Replied ρ.tasks τ f g reply) (hρ : ρ.Reachable)
    (hc : ρ.call? (.dropChannel c) = some τ) (hout : (stakes c ρ.tasks).outcast = 0) :
    RepliesAgree ρ.tasks τ reply True := by
  obtain ⟨-, howned, rfl⟩ := call?_eq_some_iff.1 hc
  have hh : (ρ.store.channel c).HasHolder := by
    have : (ρ.store.channel c).owned ≠ 0 := bne_iff_ne.1 howned
    unfold Channel.HasHolder
    omega
  exact h.lost (ρ.store.mapChannel c fun ch => { ch with owned := ch.owned - 1 }) ρ.log (.answer .done)
    (hasId_mapChannel hρ hout hh (fun _ => rfl) fun _ => rfl) (proceed_andThen (Store.fault_whenLost _ c) ..)

/-- An operation on a channel ends. -/
theorem Replied.ends {last : List Task} {fin : Store → Store} (h : Replied base τ f g reply)
    (hρ : ρ.Reachable) (hlast : IsLast last fin)
    (ht : ρ.tasks = .release (.channel c) :: last ++ base) (hτ : ρ.tick = some τ)
    (hout : (stakes c ρ.tasks).outcast = 0) : RepliesAgree base τ reply True := by
  obtain ⟨n, hn, rfl⟩ := tick_cons ht hτ
  cases hn
  have hh : (ρ.store.channel c).HasHolder := by
    have hheld : (ρ.store.channel c).held ≠ 0 := by
      rw [(hρ.tracks c).held, ht, Stake.held_add, List.cons_append, stakes_cons, Stake.held_add]
      have hone : (Task.stake c (.release (.channel c))).held = 1 :=
        congrArg Stake.held (stake_self c { held := 1 })
      omega
    unfold Channel.HasHolder
    omega
  exact h.lost (ρ.store.lose (.channel c)) ρ.log hlast
    (hasId_mapChannel hρ hout hh (fun _ => rfl) fun _ => rfl) rfl

/-- A reply that is parsed while its request goes out leads to the same as one that is parsed when the
operation that made the request has returned, and is accepted. What was held back may go out when its
reply has no place any more, and a host whose name is too long is not asked for. -/
theorem replies_agree (hρ : ρ.Reachable) (ha : Asks base ρ τ) (hf : τ.Hands f) (hg : f.IsReply g)
    (hreply : Frame.decode reply τ.store.connection.maxFrameSize = .ok (some ⟨g, reply.length⟩))
    (hbase : ∀ υ : Session, υ.tasks = base → υ.isIdle = true)
    (hk : τ.store.connection.owned + handlesOf base ≠ 0) :
    RepliesAgree base τ reply (τ.store.connection.options.virtualHost.utf8ByteSize ≤ 255 ∧
      (ρ.tasks.head? = some .flush →
        τ.store.connection.state ≠ .closed ∧ τ.store.admits g = true)) := by
  have h : Replied base τ f g reply := ⟨hρ.step ha.step, hf, hg, hreply, hbase, hk⟩
  cases ha with
  | login ht hd hτ => exact (h.login ht hd hτ).mono And.left
  | host hp ht hs hτ => exact (h.host hp ht hs hτ).mono fun _ => trivial
  | heldBack hp ht hτ =>
    refine (h.heldBack hρ hp ht hτ).mono ?_
    rintro ⟨-, hadmits⟩
    exact hadmits (by rw [ht]; rfl)
  | opens hb hc =>
    subst hb
    exact (h.opens hc).mono fun _ => trivial
  | closes hb hc hout =>
    subst hb
    exact (h.closes hρ hc hout).mono fun _ => trivial
  | leaves hb hc hout =>
    subst hb
    exact (h.leaves hρ hc hout).mono fun _ => trivial
  | lost hlast ht hτ hout => exact (h.ends hρ hlast ht hτ hout).mono fun _ => trivial

/-! ## Replies tried out -/

/-- The frame whose octets user code has its turn with. -/
def handing? (τ : Session) : Option Frame :=
  match τ.tasks, τ.log with
  | .user (.data octets) :: _, .started (.data octets') :: .handed f :: _ =>
    if octets = octets' then some f else none
  | _, _ => none

theorem hands_of_handing? (h : τ.handing? = some f) : τ.Hands f := by
  unfold handing? at h
  split at h
  · rename_i octets rest octets' f' es htasks hlog
    split at h
    · rename_i heq
      subst heq
      cases h
      exact ⟨octets, rest, es, htasks, hlog⟩
    · cases h
  · cases h

/-- The answer that comes last, and what was there before it. -/
def answer? : List Event → Option (Nat × List Event)
  | .answered (.consumed n) :: es => some (n, es)
  | _ => none

theorem eq_of_answer? {n : Nat} {es es' : List Event} (h : answer? es = some (n, es')) :
    es = .answered (.consumed n) :: es' := by
  unfold answer? at h
  split at h
  · cases h
    rfl
  · cases h

/-- Computes what comes of a reply inside the callback that the request went out with: how much of it
was consumed, and the session in the end. -/
def replyWithin? (fuel : Nat) (τ : Session) (reply : Bytes) : Option (Nat × Session) :=
  if τ.isIdle && τ.store.handles != 0 then do
    let (es, s) ← yield? fuel [.parse reply 0] τ.store.holdHandle
    let (n, es) ← answer? es
    let (es', s') ← yield? fuel τ.tasks s
    return (n, ⟨s', [], es' ++ (es ++ τ.log)⟩)
  else none

/-- Computes what comes of a reply after the call that the request was made in. -/
def replyAfter? (fuel : Nat) (τ : Session) (reply : Bytes) : Option (Nat × Session) := do
  let (es, s) ← yield? fuel τ.tasks τ.store
  if s.handles != 0 then do
    let (es', s') ← yield? fuel [.parse reply 0] s.holdHandle
    let (n, es') ← answer? es'
    return (n, ⟨s', [], es' ++ (es ++ τ.log)⟩)
  else none

variable {fuel n : Nat} {υ : Session}

theorem repliesWithin_of_replyWithin? (h : replyWithin? fuel τ reply = some (n, υ)) :
    RepliesWithin [] τ reply n υ := by
  simp only [replyWithin?, Option.bind_eq_bind, Option.bind_eq_some_iff, Option.pure_def,
    Option.some.injEq, Prod.mk.injEq, Prod.exists, Option.ite_none_right_eq_some, Bool.and_eq_true,
    bne_iff_ne] at h
  obtain ⟨⟨hi, hh⟩, es, s, hparse, m, es', hanswer, es'', s', hrest, rfl, rfl⟩ := h
  rw [eq_of_answer? hanswer] at hparse
  have hends := (yields_of_yield? hrest).ends [] (es' ++ τ.log)
  rw [List.append_nil] at hends
  exact ⟨_, (yields_of_yield? hparse).parses hi hh, hends⟩

theorem repliesAfter_of_replyAfter? (h : replyAfter? fuel τ reply = some (n, υ)) :
    RepliesAfter [] τ reply n υ := by
  simp only [replyAfter?, Option.bind_eq_bind, Option.bind_eq_some_iff, Option.pure_def,
    Option.some.injEq, Prod.mk.injEq, Prod.exists, Option.ite_none_right_eq_some, bne_iff_ne] at h
  obtain ⟨es, s, hrest, hh, es', s', hparse, m, es'', hanswer, rfl, rfl⟩ := h
  rw [eq_of_answer? hanswer] at hparse
  have hends := (yields_of_yield? hrest).ends [] τ.log
  rw [List.append_nil] at hends
  exact ⟨⟨s, [], es ++ τ.log⟩, hends, (yields_of_yield? hparse).parses rfl hh⟩

/-- User code leaves no choice if it only returns. -/
theorem RepliesWithin.unique {υ' : Session} {n' : Nat} (h : RepliesWithin base τ reply n υ)
    (h' : RepliesWithin base τ reply n' υ') : n = n' ∧ υ = υ' := by
  obtain ⟨ρ, ⟨σ, hc, hr⟩, he⟩ := h
  obtain ⟨ρ', ⟨σ', hc', hr'⟩, he'⟩ := h'
  cases hc.symm.trans hc'
  obtain ⟨rfl, rfl⟩ := hr.unique hr'
  exact ⟨rfl, he.unique he'⟩

theorem RepliesAfter.unique {υ' : Session} {n' : Nat} (h : RepliesAfter base τ reply n υ)
    (h' : RepliesAfter base τ reply n' υ') : n = n' ∧ υ = υ' := by
  obtain ⟨ρ, he, σ, hc, hr⟩ := h
  obtain ⟨ρ', he', σ', hc', hr'⟩ := h'
  cases he.unique he'
  cases hc.symm.trans hc'
  exact hr.unique hr'

/-- A channel of an established connection is confirmed before its caller has it. -/
theorem replies_agree_opening : ∃ ρ τ : Session, ρ.Reachable ∧ ρ.call? .openChannel = some τ ∧
    τ.Hands (openRequest 1) ∧ RepliesAgree [] τ (openAnswer 1).toWire.octets True := by
  obtain ⟨ρ, hρ, he⟩ := exists_reaches_of_play establish (connect .standard)
    (fun ρ => (ρ.tasks.isEmpty, (ρ.call? .openChannel).map fun τ => (τ.handing?,
      [τ.store.connection.owned, τ.store.connection.options.virtualHost.utf8ByteSize],
      τ.store.connection.maxFrameSize)))
    (a := (true, some (some (openRequest 1), [1, 1], 131072))) (by decide +kernel)
  simp only [Prod.mk.injEq, List.isEmpty_iff] at he
  obtain ⟨htasks, he⟩ := he
  obtain ⟨τ, hc, he⟩ := Option.map_eq_some_iff.1 he
  simp only [Prod.mk.injEq, List.cons.injEq] at he
  obtain ⟨hhands, ⟨howned, hhost, -⟩, hmax⟩ := he
  have hf := hands_of_handing? hhands
  have hreply : Frame.decode (openAnswer 1).toWire.octets τ.store.connection.maxFrameSize =
      .ok (some ⟨openAnswer 1, (openAnswer 1).toWire.octets.length⟩) := by
    rw [hmax]
    decide +kernel
  have hagree := replies_agree ⟨.standard, hρ⟩ (.opens htasks.symm hc) hf (.opened 1) hreply
    (fun υ hυ => by rw [isIdle, hυ]) (by rw [howned]; decide)
  refine ⟨ρ, τ, ⟨.standard, hρ⟩, hc, hf, hagree.mono fun _ => ⟨by rw [hhost]; decide, fun h => ?_⟩⟩
  rw [htasks] at h
  cases h

/-- The confirmation of a close. -/
def closeOkOctets : Bytes := (Frame.ofConnection .closeOk).toWire.octets

/-- User code closes an established connection. If the peer confirms while the close goes out, then that
is a violation, and the connection waits for a confirmation although it was closed. If the peer confirms
after the call, then the connection is closed. -/
theorem close_confirmed_too_early : ∃ τ α β : Session, τ.Reachable ∧ τ.Hands Store.connectionClose ∧
    RepliesWithin [] τ closeOkOctets 0 α ∧ α.store.connection.state = .closing ∧
    reports α.log = ["Unexpected method 10.51 in state Connected"] ∧
    RepliesAfter [] τ closeOkOctets 12 β ∧ β.store.connection.state = .closed ∧ reports β.log = [] ∧
    ¬ RepliesAgree [] τ closeOkOctets False := by
  let outcome : Nat × Session → Nat × ConnectionState × List String := fun r =>
    (r.1, r.2.store.connection.state, reports r.2.log)
  obtain ⟨τ, hτ, he⟩ := exists_reaches_of_play (establish ++ [some (.call .close), none, none])
    (connect .standard)
    (fun τ => [decide (τ.handing? = some Store.connectionClose),
      decide ((replyWithin? 20 τ closeOkOctets).map outcome =
        some (0, .closing, ["Unexpected method 10.51 in state Connected"])),
      decide ((replyAfter? 20 τ closeOkOctets).map outcome = some (12, .closed, []))])
    (a := [true, true, true]) (by decide +kernel)
  simp only [outcome, List.cons.injEq, decide_eq_true_eq, Option.map_eq_some_iff, Prod.exists,
    Prod.mk.injEq] at he
  obtain ⟨hhands, ⟨n, α, hα, rfl, hαstate, hαreports⟩, ⟨m, β, hβ, rfl, hβstate, hβreports⟩, -⟩ := he
  have hwithin := repliesWithin_of_replyWithin? hα
  have hafter := repliesAfter_of_replyAfter? hβ
  refine ⟨τ, α, β, ⟨.standard, hτ⟩, hands_of_handing? hhands, hwithin, hαstate, hαreports, hafter,
    hβstate, hβreports, ?_⟩
  -- user code that only returns leaves no other ends than these
  rintro ⟨n, α', β', hα', hβ', hstore, -⟩
  obtain ⟨-, rfl⟩ := hwithin.unique hα'
  obtain ⟨-, rfl⟩ := hafter.unique hβ'
  rw [hstore, hβstate] at hαstate
  cases hαstate

end Session

end AmqpSession
