/-
What user code can do with channels while the connection is at rest and user code is passive
otherwise: every call comes to rest again, and what it sent and what became of the channel is one of
a few things (`ClientMove`).
-/
import AmqpSession.Proofs.Passive
import AmqpSession.Proofs.Reception
import AmqpSession.Proofs.Rest

namespace AmqpSession

open Wire

/-! ## Requests -/

/-- The client asks for something that the server answers. -/
def Wire.Body.isRequest : Body → Bool
  | .method (.channel .openRequest) => true
  | .method (.channel (.close _)) => true
  | _ => false

/-- The close that a channel sends. -/
def closeRequest (id : UInt16) : Frame := .ofChannel id (.close (.plain replySuccess ""))

theorem exists_toWire_closeRequest (id : UInt16) :
    ∃ octets, (closeRequest id).toWire.result = .ok octets :=
  Frame.exists_toWire id (by decide) (by decide)

/-! ## Sending at rest -/

/-- A frame that goes out at once. -/
def Next.sent (s : Store) (f : Frame) (octets : Bytes) : Next where
  store := s
  tasks := [.user (.data octets)]
  log := [.accepted f, .handed f, .started (.data octets)]

namespace Store

variable {s s' : Store} {c : Nat} {id : UInt16}

theorem not_ended_of_connected (hc : s.connection.state = .connected) :
    ¬ (s.connection.state = .closing ∨ s.connection.state = .closed) := by
  rw [hc]
  rintro (h | h) <;> cases h

theorem send_of_connected (hc : s.connection.state = .connected) (hq : s.connection.queue = [])
    {f : Frame} {octets : Bytes} (hw : f.toWire.result = .ok octets) :
    s.send f = .ok (.sent s f octets) := by
  have hnow : s.sendsAtOnce f = true := by
    rw [sendsAtOnce, hc, hq]
    rfl
  unfold send
  rw [if_neg (not_ended_of_connected hc), hw]
  dsimp only
  rw [if_pos hnow]
  rfl

/-- A frame on its way out concerns no channel and no id. -/
theorem send_aside {f : Frame} {n : Next} (h : s.send f = .ok n) :
    n.fault = none ∧ n.store.channels = s.channels ∧
      n.store.connection.registry = s.connection.registry := by
  obtain ⟨octets, -, -, ⟨-, rfl⟩ | ⟨-, rfl⟩⟩ := send_cases h <;> exact ⟨rfl, rfl, rfl⟩

theorem send_of_fault (hc : s.connection.state = .connected) {f : Frame} {fault : EncodeFault}
    (hw : f.toWire.result = .error fault) : s.send f = .error (.encode fault) := by
  unfold send
  rw [if_neg (not_ended_of_connected hc), hw]

end Store

namespace Next.Leads

variable {s s' : Store} {c : Nat} {rest rest' : List Task} {fs : List Frame}

theorem sent {f : Frame} {octets : Bytes} (h : (only s).Leads rest fs s' rest') :
    (Next.sent s f octets).Leads rest (handedOver [.handed f] ++ fs) s' rest' := by
  have hq : NoError (Next.sent s f octets).log := by
    intro text he
    simp [Next.sent] at he
  exact of_log hq h.user

theorem releaseHandle (ho : s.connection.owned ≠ 0) (h : (only s).Leads rest fs s' rest') :
    (only s.holdHandle).Leads (.releaseHandle :: rest) fs s' rest' := by
  have hmany : s.holdHandle.handles ≠ 1 := by
    show s.connection.owned + (s.connection.held + 1) ≠ 1
    omega
  have hrun : Task.run .releaseHandle s.holdHandle = some (.only s) := by
    show some s.holdHandle.releaseHandle = _
    unfold Store.releaseHandle
    rw [if_neg hmany, Store.loseHandle_holdHandle]
  exact task hrun h

theorem release (ho : (s.channel c).owned ≠ 0) (h : (only s).Leads rest fs s' rest') :
    (only (s.hold (.channel c))).Leads (.release (.channel c) :: rest) fs s' rest' := by
  have hlive : s.isLive (.channel c) = true := by
    show ((s.channel c).owned + (s.channel c).held != 0) = true
    rw [bne_iff_ne]
    omega
  have hrun : Task.run (.release (.channel c)) (s.hold (.channel c)) = some (.only s) := by
    show some (((s.hold (.channel c)).lose (.channel c)).whenLost (.channel c)) = _
    rw [Store.lose_hold]
    unfold Store.whenLost
    dsimp only
    rw [if_pos hlive]
  exact task hrun h

/-- A frame goes out while the connection is held. -/
theorem sentWithHandle (ho : s.connection.owned ≠ 0) (f : Frame) (octets : Bytes)
    (rest : List Task) :
    ((Next.sent s.holdHandle f octets).andThen [.releaseHandle]).Leads rest (handedOver [.handed f]) s
      rest := by
  have h : (Next.sent s.holdHandle f octets).Leads (.releaseHandle :: rest)
      (handedOver [.handed f] ++ []) s rest := sent (releaseHandle ho (refl s rest))
  rw [List.append_nil] at h
  exact andThen rfl h

theorem onChannel {n : Store → Except ChannelError Unit × Next} (ho : (s'.channel c).owned ≠ 0)
    (hn : (n (s.hold (.channel c))).2.fault = none)
    (h : ∀ rest, (n (s.hold (.channel c))).2.Leads rest fs (s'.hold (.channel c)) rest) :
    (Session.onChannel s c n).Leads [] fs s' [] := by
  have h' := (h _).trans (release ho (answer (o := .channel (n (s.hold (.channel c))).1) (refl s' [])))
  rw [List.append_nil] at h'
  exact andThen hn h'

theorem unregister {e : EndpointRef} (h : (only (s.unregister e)).Leads rest fs s' rest') :
    (only s).Leads (.unregister e :: rest) fs s' rest' := task rfl h

end Next.Leads

theorem eq_of_mem_handedOver {f g : Frame} (h : g ∈ handedOver [.handed f]) : g = f := by
  unfold handedOver at h
  split at h
  · cases h
  · exact List.mem_singleton.1 h

/-! ## Calls -/

/-- What user code does with its channels. Requests are not its to send. -/
def Session.Call.isClients : Call → Bool
  | .openChannel | .closeChannel _ | .cloneChannel _ | .dropChannel _ => true
  | .sendOn _ body => !body.isRequest
  | _ => false

/-- What a call did to the channels: the frames that went out, and the state of the channel that an id
belongs to. -/
inductive ClientMove (s : Store) :
    Session.Call → List Frame → UInt16 → Option ChannelState → Prop where
  | idle (call : Session.Call) {fs : List Frame} (id : UInt16)
      (h : ∀ f ∈ fs, f.body.isRequest = false) : ClientMove s call fs id (s.stateOn id)
  | opens {id : UInt16} {r : Registry}
      (h : s.connection.registry.register (.channel s.channels.length) = .ok (id, r)) :
      ClientMove s .openChannel [openRequest id] id (some .opening)
  | closes {c : Nat} {id : UInt16} {state : ChannelState} (h : s.stateOn id = some state)
      (hst : state = .opening ∨ state = .open) :
      ClientMove s (.closeChannel c) [closeRequest id] id (some .closing)
  /-- Nobody holds the channel any more. -/
  | leaves {c : Nat} {id : UInt16} {state : ChannelState} (h : s.stateOn id = some state)
      (hst : state = .opening ∨ state = .open) :
      ClientMove s (.dropChannel c) [closeRequest id] id none
  /-- Nobody waits any more for the answer to a close. -/
  | forgets {c : Nat} {id : UInt16} (h : s.stateOn id = some .closing) :
      ClientMove s (.dropChannel c) [] id none

/-- The work of a call comes to rest, and the call moved one channel at most. -/
def Next.ComesToRest (s : Store) (call : Session.Call) (n : Next) : Prop :=
  ∃ fs s' id state, ClientMove s call fs id state ∧ s.Turns s' id state ∧ n.Leads [] fs s' []

namespace Store

variable {s : Store} {c : Nat} {id : UInt16}

theorem channel_withChannel (s : Store) (ch : Channel) :
    (s.withChannel ch).channel s.channels.length = ch := by
  show (s.channels ++ [ch])[s.channels.length]?.getD .gone = ch
  rw [List.getElem?_concat_length]
  rfl

theorem channel_withChannel_of_ne (s : Store) (ch : Channel) {d : Nat} (h : d ≠ s.channels.length) :
    (s.withChannel ch).channel d = s.channel d := by
  show (s.channels ++ [ch])[d]?.getD .gone = s.channels[d]?.getD .gone
  rcases Nat.lt_or_gt_of_ne h with hlt | hgt
  · rw [List.getElem?_append_left hlt]
  · have hlen : (s.channels ++ [ch]).length ≤ d := by
      rw [List.length_append, List.length_singleton]
      omega
    rw [List.getElem?_eq_none hlen, List.getElem?_eq_none (Nat.le_of_lt hgt)]

theorem openChannel_of_error (hc : s.connection.state = .connected) {e : AllocError}
    (hr : s.connection.registry.register (.channel s.channels.length) = .error e) :
    s.openChannel = (.error (.alloc e), .only (s.withChannel .gone)) := by
  obtain ⟨e', h, ⟨ho, -⟩ | ⟨-, hr'⟩⟩ | ⟨id, r, n, -, hr', -⟩ := s.openChannel_cases
  · exact absurd (not_or.1 (not_ended_of_connected hc)) ho
  · cases hr'.symm.trans hr
    exact h
  · cases hr'.symm.trans hr

/-- The channel is asked for under the id that was given out. -/
theorem openChannel_of_ok (hc : s.connection.state = .connected) (hq : s.connection.queue = [])
    {r : Registry} (hr : s.connection.registry.register (.channel s.channels.length) = .ok (id, r))
    {octets : Bytes} (hw : (openRequest id).toWire.result = .ok octets) :
    s.openChannel = (.ok (),
      (Next.sent ((s.mapRegistry fun _ => r).withChannel ⟨id, .opening, true, 0, 1⟩) (openRequest id)
        octets).andThen [.handOver s.channels.length]) := by
  have hsend := send_of_connected
    (s := (s.mapRegistry fun _ => r).withChannel ⟨id, .opening, true, 0, 1⟩) hc hq hw
  obtain ⟨e, -, ⟨ho, -⟩ | ⟨-, hr'⟩⟩ | ⟨id', r', n, -, hr', hn, h⟩ := s.openChannel_cases
  · exact absurd (not_or.1 (not_ended_of_connected hc)) ho
  · cases hr'.symm.trans hr
  · cases hr'.symm.trans hr
    rw [h, Except.ok.inj (hn.symm.trans hsend)]

/-- User code holds a channel so many times. -/
def setOwned (s : Store) (c n : Nat) : Store := s.mapChannel c fun ch => { ch with owned := n }

theorem mapChannel_owned (hlt : c < s.channels.length) (f : Nat → Nat) :
    (s.mapChannel c fun ch => { ch with owned := f ch.owned }) =
      s.setOwned c (f (s.channel c).owned) := by
  show ({ s with channels := _ } : Store) = { s with channels := _ }
  rw [List.modify_eq_set_getElem?, List.modify_eq_set_getElem?]
  unfold channel
  rw [List.getElem?_eq_getElem hlt]
  rfl

/-- A channel that can be used is on its way to be closed. -/
theorem closeChannel_eq (hc : s.connection.state = .connected) (hq : s.connection.queue = [])
    (hr : s.reaches c = true) (hst : (s.channel c).state = .opening ∨ (s.channel c).state = .open)
    {octets : Bytes} (hw : (closeRequest (s.channel c).id).toWire.result = .ok octets) :
    s.closeChannel c = (.ok (),
      (Next.sent (s.setChannelState c .closing).holdHandle (closeRequest (s.channel c).id)
        octets).andThen [.releaseHandle]) := by
  have hlt : c < s.channels.length := by
    refine Nat.lt_of_not_le fun hle => ?_
    rw [s.channel_of_length_le hle] at hst
    exact hst.elim nofun nofun
  have hclose : (s.setChannelState c .closing).channelClose c = closeRequest (s.channel c).id := by
    unfold channelClose setChannelState
    rw [channel_mapChannel s hlt]
    rfl
  have hsend := send_of_connected (s := (s.setChannelState c .closing).holdHandle) hc hq hw
  unfold closeChannel
  rcases hst with hst | hst
  all_goals
    rw [hst]
    dsimp only
    rw [if_pos hr, hclose, hsend]

/-- A channel that nobody holds any more says so, unless it did before. -/
theorem dropChannel_eq (hc : s.connection.state = .connected) (hq : s.connection.queue = [])
    (hr : s.reaches c = true) (hst : (s.channel c).state = .opening ∨ (s.channel c).state = .open)
    {octets : Bytes} (hw : (closeRequest (s.channel c).id).toWire.result = .ok octets) :
    s.dropChannel c = (Next.sent s.holdHandle (closeRequest (s.channel c).id) octets).andThen
      [.unregister (.channel c), .releaseHandle] := by
  have hoffer : s.holdHandle.offer (s.channelClose c) =
      Next.sent s.holdHandle (closeRequest (s.channel c).id) octets := by
    unfold offer
    rw [show s.channelClose c = closeRequest (s.channel c).id from rfl,
      send_of_connected (s := s.holdHandle) hc hq hw]
  unfold dropChannel
  rw [if_pos hr, ← hoffer]
  have hst' : (s.holdHandle.channel c).state = .opening ∨ (s.holdHandle.channel c).state = .open := hst
  rcases hst' with hst' | hst'
  all_goals
    dsimp only
    rw [hst']
    rfl

theorem dropChannel_of_closing (hr : s.reaches c = true)
    (hst : (s.channel c).state = .closing ∨ (s.channel c).state = .closed) :
    s.dropChannel c = .follow s.holdHandle [.unregister (.channel c), .releaseHandle] := by
  unfold dropChannel
  rw [if_pos hr]
  have hst' : (s.holdHandle.channel c).state = .closing ∨ (s.holdHandle.channel c).state = .closed := hst
  rcases hst' with hst' | hst'
  all_goals
    dsimp only
    rw [hst']
    rfl

theorem unregister_of_ne {e : EndpointRef} (h : s.connection.registry.get? (s.idOf e) ≠ some e) :
    s.unregister e = s := by
  unfold unregister mapRegistry mapConnection
  dsimp only
  rw [Registry.release_of_ne fun h' => h h'.2]

theorem setChannelState_hold (s : Store) (c : Nat) (state : ChannelState) :
    (s.hold (.channel c)).setChannelState c state = (s.setChannelState c state).hold (.channel c) := by
  show (s.mapChannel c _).mapChannel c _ = (s.mapChannel c _).mapChannel c _
  rw [mapChannel_mapChannel, mapChannel_mapChannel]
  rfl

/-- Something goes out on a channel, or the caller learns why not. -/
theorem sendOn_eq (hc : s.connection.state = .connected) (hq : s.connection.queue = []) (c : Nat)
    (body : Body) :
    (∃ e, s.sendOn c body = .error e) ∨
      ∃ octets, (Frame.mk (s.channel c).id body).toWire.result = .ok octets ∧
        s.sendOn c body =
          .ok ((Next.sent s.holdHandle ⟨(s.channel c).id, body⟩ octets).andThen [.releaseHandle]) := by
  unfold sendOn
  split
  · cases (s.channel c).state with
    | «opening» | «open» =>
      cases hw : (Frame.mk (s.channel c).id body).toWire.result with
      | ok octets =>
        dsimp only
        rw [send_of_connected (s := s.holdHandle) hc hq hw]
        exact .inr ⟨octets, rfl, rfl⟩
      | error fault =>
        dsimp only
        rw [send_of_fault (s := s.holdHandle) hc hw]
        exact .inl ⟨_, rfl⟩
    | closing | closed => exact .inl ⟨_, rfl⟩
  · exact .inl ⟨_, rfl⟩

namespace Rests

theorem comesToRest_of_leads (hs : s.Rests) {n : Next} (call : Session.Call) (fs : List Frame)
    (hfs : ∀ f ∈ fs, f.body.isRequest = false) (h : n.Leads [] fs s []) : n.ComesToRest s call :=
  ⟨fs, s, 0, s.stateOn 0, .idle call 0 hfs, .refl hs 0, h⟩

/-- Another use of a channel under its id. -/
theorem turns_mapChannel (hs : s.Rests) (hg : s.connection.registry.get? id = some (.channel c))
    {f : Channel → Channel} (hf : (f (s.channel c)).held = 0) (hn : (f (s.channel c)).IsNamed id) :
    s.Turns (s.mapChannel c f) id (some (f (s.channel c)).state) := by
  have hlt := lt_length_of_owned (hs.isNamed hg).owned
  have halters : Alters s (s.mapChannel c f) c id :=
    { connection := rfl
      length := Nat.le_of_eq (s.length_mapChannel c f).symm
      channel := fun d hd => s.channel_mapChannel_of_ne hd f
      held := by rw [s.channel_mapChannel hlt]; exact hf
      get? := fun _ _ => rfl
      own := fun x hx => (hs.isNamed hx).id_eq.symm.trans (hs.isNamed hg).id_eq
      only := fun d hd => by
        rw [hg] at hd
        cases hd
        rfl }
  rw [← s.channel_mapChannel hlt f] at hn ⊢
  exact halters.named hs hg hn fun hr => hr.2 id hg

/-- A change to a channel without an id shows nowhere. -/
theorem turns_mapChannel_of_isRetired (hs : s.Rests) (hr : s.IsRetired c) {f : Channel → Channel}
    (hf : (f (s.channel c)).held = 0) (hst : (f (s.channel c)).state = .closed) :
    s.Turns (s.mapChannel c f) 0 (s.stateOn 0) := by
  have halters : Alters s (s.mapChannel c f) c 0 :=
    { connection := rfl
      length := Nat.le_of_eq (s.length_mapChannel c f).symm
      channel := fun d hd => s.channel_mapChannel_of_ne hd f
      held := by rw [s.channel_mapChannel hr.1]; exact hf
      get? := fun _ _ => rfl
      own := fun x hx => absurd hx (hr.2 x)
      only := fun d hd => by
        rw [hs.get?_zero] at hd
        cases hd }
  rw [stateOn_of_get?_none hs.get?_zero]
  exact halters.unnamed hs hs.get?_zero fun _ => by rw [s.channel_mapChannel hr.1]; exact hst

/-- A channel that is closed, or that nobody holds any more, gives its id back. -/
theorem turns_unregister (hs : s.Rests) (hg : s.connection.registry.get? id = some (.channel c))
    {f : Channel → Channel} (hid : (f (s.channel c)).id = (s.channel c).id)
    (hf : (f (s.channel c)).held = 0)
    (hst : (f (s.channel c)).owned ≠ 0 → (f (s.channel c)).state = .closed) :
    s.Turns ((s.mapChannel c f).unregister (.channel c)) id none := by
  have hn := hs.isNamed hg
  have hch : (s.mapChannel c f).channel c = f (s.channel c) :=
    s.channel_mapChannel (lt_length_of_owned hn.owned) f
  have hget : ∀ x, (s.connection.registry.release ((s.mapChannel c f).channel c).id
      (.channel c)).get? x = if x = id then none else s.connection.registry.get? x := by
    intro x
    rw [hch, hid, hn.id_eq]
    exact Registry.get?_release hn.ne_zero hg x
  have halters : Alters s ((s.mapChannel c f).unregister (.channel c)) c id :=
    { connection := rfl
      length := Nat.le_of_eq (s.length_mapChannel c f).symm
      channel := fun d hd => s.channel_mapChannel_of_ne hd f
      held := (congrArg Channel.held hch).trans hf
      get? := fun x hx => (hget x).trans (if_neg hx)
      own := fun x hx => (hs.isNamed hx).id_eq.symm.trans hn.id_eq
      only := fun d hd => by
        rw [hg] at hd
        cases hd
        rfl }
  refine halters.unnamed hs ((hget id).trans (if_pos rfl)) ?_
  show ((s.mapChannel c f).channel c).owned ≠ 0 → ((s.mapChannel c f).channel c).state = .closed
  rw [hch]
  exact hst

/-- A channel of user code either has its id or is closed. -/
theorem cases_of_owned (hs : s.Rests) (ho : (s.channel c).owned ≠ 0) :
    s.connection.registry.get? (s.channel c).id = some (.channel c) ∨
      s.IsRetired c ∧ (s.channel c).state = .closed := by
  by_cases hst : (s.channel c).state = .closed
  · refine .inr ⟨⟨lt_length_of_owned ho, fun id hg => ?_⟩, hst⟩
    exact (hs.isNamed hg).state hst
  · exact .inl (hs.known ho hst)

/-! ### Sending -/

theorem sendOn_comesToRest (hs : s.Rests) {body : Body} (hb : body.isRequest = false)
    (hl : s.isLive (.channel c) = true) :
    ((Session.Call.sendOn c body).run s).ComesToRest s (.sendOn c body) := by
  have ho := hs.owned_of_isLive hl
  show (Session.onChannel s c _).ComesToRest s _
  obtain ⟨e, he⟩ | ⟨octets, -, he⟩ :=
    sendOn_eq (s := s.hold (.channel c)) hs.connected hs.queue c body
  · refine hs.comesToRest_of_leads _ [] nofun (.onChannel ho ?_ fun rest => ?_)
    · rw [he]
      rfl
    · rw [he]
      exact .refl _ rest
  · let f : Frame := ⟨((s.hold (.channel c)).channel c).id, body⟩
    refine hs.comesToRest_of_leads _ (handedOver [.handed f]) ?_ (.onChannel ho ?_ fun rest => ?_)
    · intro g hf
      rw [eq_of_mem_handedOver hf]
      exact hb
    · rw [he]
      rfl
    · rw [he]
      exact .sentWithHandle (s := s.hold (.channel c)) hs.owned _ _ _

/-! ### Opening -/

/-- A new channel, which may have an id that was free. -/
theorem alters_withChannel (hs : s.Rests) {ch : Channel} (hch : ch.held = 0) {r : Registry}
    (hr : ∀ x, x ≠ id → r.get? x = s.connection.registry.get? x)
    (hid : s.connection.registry.get? id = none) :
    Alters s ((s.mapRegistry fun _ => r).withChannel ch) s.channels.length id where
  connection := rfl
  length := by
    show _ ≤ (s.channels ++ [ch]).length
    rw [List.length_append]
    exact Nat.le_add_right _ _
  channel d hd := channel_withChannel_of_ne (s.mapRegistry fun _ => r) ch hd
  held := (congrArg Channel.held (channel_withChannel (s.mapRegistry fun _ => r) ch)).trans hch
  get? := hr
  own x hx := absurd hx (hs.get?_ne_length x)
  only d hd := by
    rw [hid] at hd
    cases hd

theorem openChannel_comesToRest (hs : s.Rests) :
    (Session.Call.openChannel.run s).ComesToRest s .openChannel := by
  show (s.holdHandle.openChannel.2.andThen [.releaseHandle, .answer _]).ComesToRest s _
  cases hr : s.connection.registry.register (.channel s.channels.length) with
  | error e =>
    -- the channel that got no id still counts as one, but user code has no handle of it
    let t := s.withChannel .gone
    have ht : t.channel s.channels.length = .gone := channel_withChannel s .gone
    have halters : Alters s t s.channels.length 0 :=
      hs.alters_withChannel rfl (fun _ _ => rfl) hs.get?_zero
    have hturns : s.Turns t 0 none := halters.unnamed hs hs.get?_zero fun _ => by rw [ht]; rfl
    rw [← stateOn_of_get?_none hs.get?_zero] at hturns
    rw [openChannel_of_error (s := s.holdHandle) hs.connected hr]
    exact ⟨[], t, 0, _, .idle _ 0 nofun, hturns,
      .andThen rfl (.releaseHandle (s := t) hs.owned (.answer (.refl t [])))⟩
  | ok p =>
    obtain ⟨id, r⟩ := p
    obtain ⟨hid, hfree, hentries⟩ := Registry.register_eq_ok hr
    obtain ⟨octets, hw⟩ := exists_toWire_openRequest id
    let t := (s.mapRegistry fun _ => r).withChannel ⟨id, .opening, true, 1, 0⟩
    have ht : t.channel s.channels.length = ⟨id, .opening, true, 1, 0⟩ :=
      channel_withChannel (s.mapRegistry fun _ => r) _
    have hget : ∀ x, r.get? x = if x = id then some (.channel s.channels.length) else
        s.connection.registry.get? x := Registry.get?_of_insert hentries
    have halters : Alters s t s.channels.length id :=
      hs.alters_withChannel rfl (fun x hx => (hget x).trans (if_neg hx)) hfree
    have hnamed : (t.channel s.channels.length).IsNamed id := by
      rw [ht]
      exact ⟨rfl, hid, rfl, nofun, nofun⟩
    have hturns := halters.named hs ((hget id).trans (if_pos rfl)) hnamed fun h => Nat.lt_irrefl _ h.1
    rw [ht] at hturns
    have hhand : Task.run (.handOver s.channels.length)
        ((s.holdHandle.mapRegistry fun _ => r).withChannel ⟨id, .opening, true, 0, 1⟩) =
          some (.only t.holdHandle) :=
      congrArg (some <| Next.only ·) (mapChannel_withChannel (s.holdHandle.mapRegistry fun _ => r) _ _)
    rw [openChannel_of_ok (s := s.holdHandle) hs.connected hs.queue hr hw]
    refine ⟨_, t, id, _, .opens hr, hturns, .andThen rfl (.andThen rfl ?_)⟩
    exact .sent (.task hhand (.releaseHandle (s := t) hs.owned (.answer (.refl t []))))

/-! ### Closing -/

theorem turns_setChannelState (hs : s.Rests) (hg : s.connection.registry.get? id = some (.channel c))
    (state : ChannelState) (hst : state ≠ .closed) :
    s.Turns (s.setChannelState c state) id (some state) :=
  have hn := hs.isNamed hg
  hs.turns_mapChannel hg (hs.held c) ⟨hn.id_eq, hn.ne_zero, hn.attached, hn.owned, hst⟩

theorem closeChannel_comesToRest (hs : s.Rests) (hl : s.isLive (.channel c) = true) :
    ((Session.Call.closeChannel c).run s).ComesToRest s (.closeChannel c) := by
  have ho := hs.owned_of_isLive hl
  have hch := s.channel_hold (lt_length_of_owned ho)
  show (Session.onChannel s c _).ComesToRest s _
  cases hst : (s.channel c).state with
  | closing | closed =>
    refine hs.comesToRest_of_leads _ [] nofun (.onChannel ho ?_ fun rest => ?_)
    all_goals
      unfold closeChannel
      rw [hch, hst]
    · rfl
    · exact .refl _ rest
  | «opening» | «open» =>
    have hg := hs.known ho (by rw [hst]; nofun)
    have hn := hs.isNamed hg
    have hst' : (s.channel c).state = .opening ∨ (s.channel c).state = .open := by simp [hst]
    have hr : (s.hold (.channel c)).reaches c = true := by
      unfold reaches
      rw [hch, hn.attached]
      exact hs.alive
    obtain ⟨octets, hw⟩ := exists_toWire_closeRequest (s.channel c).id
    have heq := closeChannel_eq (s := s.hold (.channel c)) hs.connected hs.queue hr
      (by rw [hch]; exact hst') (by rw [hch]; exact hw)
    have hturns := hs.turns_setChannelState hg .closing nofun
    refine ⟨_, _, _, _, .closes (stateOn_of_get? hg) hst', hturns, .onChannel ?_ ?_ fun rest => ?_⟩
    · rw [setChannelState, channel_mapChannel s (lt_length_of_owned ho)]
      exact ho
    · rw [heq]
      rfl
    · rw [heq, hch, setChannelState_hold]
      exact .sentWithHandle (s := (s.setChannelState c .closing).hold (.channel c)) hs.owned _ _ _

/-! ### Handles of a channel -/

/-- User code still holds the channel. -/
theorem setOwned_comesToRest (hs : s.Rests) (ho : (s.channel c).owned ≠ 0) {n : Nat} (hn : n ≠ 0)
    (call : Session.Call) : (Next.follow (s.setOwned c n) [.answer .done]).ComesToRest s call := by
  have hleads : (Next.follow (s.setOwned c n) [.answer .done]).Leads [] [] (s.setOwned c n) [] :=
    .answer (.refl _ [])
  obtain hg | ⟨hr, hst⟩ := hs.cases_of_owned ho
  · have hch := hs.isNamed hg
    have hturns : s.Turns (s.setOwned c n) _ _ :=
      hs.turns_mapChannel hg (hs.held c) ⟨hch.id_eq, hch.ne_zero, hch.attached, hn, hch.state⟩
    rw [← stateOn_of_get? hg] at hturns
    exact ⟨[], _, _, _, .idle _ _ nofun, hturns, hleads⟩
  · exact ⟨[], _, _, _, .idle _ 0 nofun, hs.turns_mapChannel_of_isRetired hr (hs.held c) hst, hleads⟩

theorem cloneChannel_comesToRest (hs : s.Rests) (hl : s.isLive (.channel c) = true) :
    ((Session.Call.cloneChannel c).run s).ComesToRest s (.cloneChannel c) := by
  have ho := hs.owned_of_isLive hl
  show (Next.follow (s.mapChannel c _) [.answer .done]).ComesToRest s _
  rw [mapChannel_owned (lt_length_of_owned ho) (· + 1)]
  exact hs.setOwned_comesToRest ho (Nat.succ_ne_zero _) _

/-- Nobody holds the channel any more. -/
theorem lastHandle_comesToRest (hs : s.Rests) (ho : (s.channel c).owned ≠ 0) :
    (((s.setOwned c 0).dropChannel c).andThen [.answer .done]).ComesToRest s (.dropChannel c) := by
  have hch : (s.setOwned c 0).channel c = { s.channel c with owned := 0 } :=
    channel_mapChannel s (lt_length_of_owned ho) _
  have hstate : ((s.setOwned c 0).channel c).state = (s.channel c).state := by rw [hch]
  let t := (s.setOwned c 0).unregister (.channel c)
  have hend : ∀ rest, (Next.only (s.setOwned c 0).holdHandle).Leads
      (.unregister (.channel c) :: .releaseHandle :: .answer .done :: rest) [] t rest := fun rest =>
    .unregister (.releaseHandle (s := t) hs.owned (.answer (.refl t rest)))
  obtain hg | ⟨hr, hst⟩ := hs.cases_of_owned ho
  · have hn := hs.isNamed hg
    have hreach : (s.setOwned c 0).reaches c = true := by
      unfold reaches
      rw [hch, hn.attached]
      exact hs.alive
    have hturns : s.Turns t (s.channel c).id none :=
      hs.turns_unregister hg rfl (hs.held c) fun h => absurd rfl h
    have hst : s.stateOn (s.channel c).id = some (s.channel c).state := stateOn_of_get? hg
    cases hcase : (s.channel c).state with
    | «opening» | «open» =>
      have hst' : (s.channel c).state = .opening ∨ (s.channel c).state = .open := by simp [hcase]
      obtain ⟨octets, hw⟩ := exists_toWire_closeRequest ((s.setOwned c 0).channel c).id
      rw [dropChannel_eq (s := s.setOwned c 0) hs.connected hs.queue hreach (hstate ▸ hst') hw, hch]
      exact ⟨_, t, _, _, .leaves hst hst', hturns, .andThen rfl (.andThen rfl (.sent (hend [])))⟩
    | closing =>
      -- the request to close it is on its way already
      rw [hcase] at hst hstate
      rw [dropChannel_of_closing hreach (.inl hstate)]
      exact ⟨[], t, _, _, .forgets hst, hturns, hend []⟩
    | closed => exact absurd hcase hn.state
  · -- the channel was closed before, so there is no id to give back
    have hturns : s.Turns (s.setOwned c 0) 0 _ := hs.turns_mapChannel_of_isRetired hr (hs.held c) hst
    have hid : t = s.setOwned c 0 := unregister_of_ne (hr.2 _)
    by_cases hreach : (s.setOwned c 0).reaches c = true
    · rw [dropChannel_of_closing hreach (.inr (hstate.trans hst))]
      exact ⟨[], _, _, _, .idle _ 0 nofun, hturns, hid ▸ hend []⟩
    · rw [dropChannel, if_neg hreach]
      exact ⟨[], _, _, _, .idle _ 0 nofun, hturns, .answer (.refl _ [])⟩

theorem dropChannel_comesToRest (hs : s.Rests) (ho : (s.channel c).owned ≠ 0) :
    ((Session.Call.dropChannel c).run s).ComesToRest s (.dropChannel c) := by
  have hlt := lt_length_of_owned ho
  show (((s.mapChannel c _).whenLost (.channel c)).andThen [.answer .done]).ComesToRest s _
  rw [mapChannel_owned hlt (· - 1)]
  have hch : (s.setOwned c ((s.channel c).owned - 1)).channel c =
      { s.channel c with owned := (s.channel c).owned - 1 } := channel_mapChannel s hlt _
  have hlive : (s.setOwned c ((s.channel c).owned - 1)).isLive (.channel c) =
      ((s.channel c).owned - 1 != 0) := by
    show (((s.setOwned c _).channel c).owned + ((s.setOwned c _).channel c).held != 0) = _
    rw [hch, hs.held c]
    rfl
  unfold whenLost
  dsimp only
  rw [hlive]
  by_cases hlast : (s.channel c).owned - 1 = 0
  · rw [hlast, if_neg (by decide)]
    exact hs.lastHandle_comesToRest ho
  · rw [if_pos (bne_iff_ne.2 hlast)]
    exact hs.setOwned_comesToRest ho hlast _

end Rests

end Store

/-- Whatever user code does with its channels, the connection comes to rest again. -/
theorem Session.Call.run_comesToRest {s : Store} (hs : s.Rests) {c : Call} (hc : c.isClients = true)
    (hl : c.isLegal s = true) : (c.run s).ComesToRest s c := by
  cases c with
  | openChannel => exact hs.openChannel_comesToRest
  | sendOn c body => exact hs.sendOn_comesToRest (Bool.not_eq_true' _ ▸ hc) hl
  | closeChannel c => exact hs.closeChannel_comesToRest hl
  | cloneChannel c => exact hs.cloneChannel_comesToRest hl
  | dropChannel c => exact hs.dropChannel_comesToRest (bne_iff_ne.1 hl)
  | _ => cases hc

end AmqpSession
