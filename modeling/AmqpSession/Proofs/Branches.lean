/-
How the operations end. Each of them comes to one of a few things, which a predicate lists
(`ClosesChannel`, `OnConnection`, …) together with the state in which it does. What is said of an operation
in every state goes by its list; elsewhere it is opened only to run it in a state that is known.
-/
import AmqpSession.Proofs.Store

namespace AmqpSession

open Wire

/-- Frames may be sent. -/
def Connection.isOpen (k : Connection) : Prop := k.state ≠ .closing ∧ k.state ≠ .closed

/-- A frame goes out at once. -/
def Connection.sendsAtOnce (k : Connection) (f : Frame) : Prop :=
  (k.state = .connected ∧ k.queue = []) ∨ f.isPartOfHandshake = true

/-- The frame that asks for a channel. -/
def openRequest (id : UInt16) : Frame := .ofChannel id .openRequest

/-- A method whose arguments can be written has a form on the wire if it is not too long. -/
theorem Wire.Frame.exists_toWire {m : Method} (channel : UInt16) (hf : m.encode.fault = none)
    (hl : m.encode.octets.length < UInt32.size) :
    ∃ octets, (Frame.mk channel (.method m)).toWire.result = .ok octets := by
  have he : (Frame.mk channel (.method m)).encode =
      .raw (Frame.head .method channel m.encode.octets.length ++ m.encode.octets) := by
    simp only [Frame.encode, Frame.encodePayload, hf, if_pos hl]
  rw [Frame.toWire, he]
  exact ⟨_, rfl⟩

theorem exists_toWire_openRequest (id : UInt16) :
    ∃ octets, (openRequest id).toWire.result = .ok octets :=
  Frame.exists_toWire id (by decide) (by decide)

namespace Store

variable {s : Store} {f : Frame} {c : Nat} {n : Next}

/-! ## Sending -/

theorem sendsAtOnce_iff (s : Store) (f : Frame) :
    s.sendsAtOnce f = true ↔ s.connection.sendsAtOnce f := by
  simp [sendsAtOnce, Connection.sendsAtOnce]

/-- Sending either hands the frame over or holds it back; a refused frame has no effect. -/
theorem send_cases (h : s.send f = .ok n) :
    ∃ octets, f.toWire.result = .ok octets ∧ s.connection.isOpen ∧
      ((s.connection.sendsAtOnce f ∧
        n = { store := s, tasks := [.user (.data octets)],
              log := [.accepted f, .handed f, .started (.data octets)] }) ∨
      (¬ s.connection.sendsAtOnce f ∧ n = { store := s.enqueue f, log := [.accepted f] })) := by
  unfold send at h
  split at h
  · cases h
  · rename_i ho
    rw [not_or] at ho
    split at h
    · cases h
    · rename_i octets hw
      refine ⟨octets, hw, ho, ?_⟩
      split at h
      · rename_i hd
        exact .inl ⟨(s.sendsAtOnce_iff f).1 hd, (Except.ok.inj h).symm⟩
      · rename_i hd
        exact .inr ⟨fun hd' => hd ((s.sendsAtOnce_iff f).2 hd'), (Except.ok.inj h).symm⟩

/-- A frame that has a form on the wire is taken, to go out now or later. -/
theorem exists_send (ho : s.connection.isOpen) {octets : Bytes}
    (hw : f.toWire.result = .ok octets) : ∃ n, s.send f = .ok n := by
  unfold send
  rw [if_neg fun h => h.elim ho.1 ho.2, hw]
  dsimp only
  split <;> exact ⟨_, rfl⟩

/-- A frame goes out if it can. -/
inductive Offers (s : Store) (f : Frame) : Next → Prop where
  | sent {n : Next} (h : s.send f = .ok n) : Offers s f n
  | unsent {e : SendError} (h : s.send f = .error e) : Offers s f (.only s)

theorem offers (s : Store) (f : Frame) : s.Offers f (s.offer f) := by
  unfold offer
  split
  · rename_i h; exact .sent h
  · rename_i h; exact .unsent h

/-- An answer goes out, or the frame that it answers is at fault. -/
inductive Replies (s : Store) (f : Frame) (tasks : List Task) : Next → Prop where
  | sent {n : Next} (h : s.send f = .ok n) : Replies s f tasks (n.andThen tasks)
  | unsent {e : SendError} (h : s.send f = .error e) : Replies s f tasks (.refuse s (.send e))

theorem replies (s : Store) (f : Frame) (tasks : List Task) :
    s.Replies f tasks (s.reply f tasks) := by
  unfold reply
  split
  · rename_i h; exact .sent h
  · rename_i h; exact .unsent h

/-! ## Channels -/

/-- The channel waits for the peer, or is at work. -/
def IsUp (s : Store) (c : Nat) : Prop := (s.channel c).state = .opening ∨ (s.channel c).state = .open

/-- A channel that is closed is on its way at once; the peer is told if it can be. -/
inductive ClosesChannel (s : Store) (c : Nat) : Next → Prop where
  | aside (h : s.IsUp c → s.reaches c = false) : ClosesChannel s c (.only s)
  | unsent (hs : s.IsUp c) (hr : s.reaches c = true) :
      ClosesChannel s c (.only (s.setChannelState c .closing))
  | sent (hs : s.IsUp c) (hr : s.reaches c = true) {n : Next}
      (h : (s.setChannelState c .closing).holdHandle.send
        ((s.setChannelState c .closing).channelClose c) = .ok n) :
      ClosesChannel s c (n.andThen [.releaseHandle])

theorem closesChannel (s : Store) (c : Nat) : s.ClosesChannel c (s.closeChannel c).2 := by
  have down : (s.channel c).state = .closing ∨ (s.channel c).state = .closed →
      s.ClosesChannel c (.only s) := by
    intro hd
    refine .aside fun hs => ?_
    rcases hs with hs | hs <;> rcases hd with hd | hd <;> rw [hs] at hd <;> cases hd
  unfold closeChannel
  split
  · rename_i hst; exact down (.inl hst)
  · rename_i hst; exact down (.inr hst)
  case h_3 | h_4 =>
    rename_i hst
    have hs : s.IsUp c := by rw [IsUp, hst]; simp
    split
    · rename_i hr
      dsimp only
      split
      · rename_i h; exact .sent hs hr h
      · exact .unsent hs hr
    · rename_i hr; exact .aside fun _ => Bool.not_eq_true _ ▸ hr

/-- What is sent on a channel goes out while the connection is held. -/
theorem sendOn_eq_ok {body : Body} (h : s.sendOn c body = .ok n) :
    s.reaches c = true ∧ s.IsUp c ∧
      ∃ m, s.holdHandle.send ⟨(s.channel c).id, body⟩ = .ok m ∧ n = m.andThen [.releaseHandle] := by
  unfold sendOn at h
  split at h
  · rename_i hr
    split at h
    case h_3 | h_4 => cases h
    all_goals
      rename_i hst
      split at h
      · rename_i m hm
        cases h
        exact ⟨hr, by rw [IsUp, hst]; simp, m, hm, rfl⟩
      · cases h
  · cases h

/-- A channel that nobody holds any more takes its leave, if it did not do so before and the peer can be
told, and then its id is freed. -/
inductive DropsChannel (s : Store) (c : Nat) : Next → Prop where
  | aside (hr : s.reaches c = false) : DropsChannel s c (.only s)
  | unsent (hr : s.reaches c = true) :
      DropsChannel s c (.follow s.holdHandle [.unregister (.channel c), .releaseHandle])
  | sent (hr : s.reaches c = true) (hs : s.IsUp c) {n : Next}
      (h : s.holdHandle.send (s.channelClose c) = .ok n) :
      DropsChannel s c (n.andThen [.unregister (.channel c), .releaseHandle])

theorem dropsChannel (s : Store) (c : Nat) : s.DropsChannel c (s.dropChannel c) := by
  have up : s.reaches c = true → s.IsUp c →
      s.DropsChannel c ((s.holdHandle.offer (s.channelClose c)).andThen
        [.unregister (.channel c), .releaseHandle]) := fun hr hs =>
    match s.holdHandle.offer (s.channelClose c), s.holdHandle.offers (s.channelClose c) with
    | _, .sent h => .sent hr hs h
    | _, .unsent _ => .unsent hr
  unfold dropChannel
  split
  · rename_i hr
    dsimp only
    split
    · rename_i hst; exact up hr (.inl hst)
    · rename_i hst; exact up hr (.inr hst)
    · exact .unsent hr
    · exact .unsent hr
  · rename_i hr; exact .aside (Bool.not_eq_true _ ▸ hr)

/-- One holder let go of an endpoint. -/
inductive Loses (s : Store) : EndpointRef → Next → Prop where
  | aside {e : EndpointRef} (h : ∀ c, e = .channel c → s.isLive e = true) : Loses s e (.only s)
  | last {c : Nat} (hl : s.isLive (.channel c) = false) {n : Next} (h : s.DropsChannel c n) :
      Loses s (.channel c) n

theorem loses (s : Store) (e : EndpointRef) : s.Loses e (s.whenLost e) := by
  unfold whenLost
  split
  · split
    · rename_i hl; exact .aside fun _ _ => hl
    · rename_i hl; exact .last (Bool.not_eq_true _ ▸ hl) (s.dropsChannel _)
  · exact .aside nofun

/-- One more channel, which gets the next number. -/
def withChannel (s : Store) (ch : Channel) : Store := { s with channels := s.channels ++ [ch] }

theorem mapChannel_withChannel (s : Store) (ch : Channel) (g : Channel → Channel) :
    (s.withChannel ch).mapChannel s.channels.length g = s.withChannel (g ch) := by
  have hmodify : (s.channels ++ [ch]).modify s.channels.length g = s.channels ++ [g ch] := by
    simp [List.modify_eq_take_cons_drop]
  show ({ s with channels := _ } : Store) = _
  rw [show (s.withChannel ch).channels = s.channels ++ [ch] from rfl, hmodify]
  rfl

/-- What is left of a channel that could not be opened. -/
theorem lose_detach_withChannel (s : Store) :
    ((s.withChannel .new).detach s.channels.length).lose (.channel s.channels.length) =
      s.withChannel .gone := by
  unfold detach lose
  rw [mapChannel_withChannel]
  exact mapChannel_withChannel ..

/-- A channel is opened under an id that was given out, or there is none for it and it is gone. -/
theorem openChannel_cases (s : Store) :
    (∃ e, s.openChannel = (.error (.alloc e), .only (s.withChannel .gone)) ∧
      (¬ s.connection.isOpen ∧ e = .illegalState ∨ s.connection.isOpen ∧
        s.connection.registry.register (.channel s.channels.length) = .error e)) ∨
    ∃ id r n, s.connection.isOpen ∧
      s.connection.registry.register (.channel s.channels.length) = .ok (id, r) ∧
      ((s.mapRegistry fun _ => r).withChannel ⟨id, .opening, true, 0, 1⟩).send (openRequest id) = .ok n ∧
      s.openChannel = (.ok (), n.andThen [.handOver s.channels.length]) := by
  have hch : ∀ id r, ((s.withChannel .new).mapRegistry fun _ => r).mapChannel s.channels.length
      ({ · with id := id }) = (s.mapRegistry fun _ => r).withChannel ⟨id, .opening, true, 0, 1⟩ :=
    fun id r => mapChannel_withChannel (s.mapRegistry fun _ => r) .new ({ · with id := id })
  by_cases ho : s.connection.isOpen
  · have hended : ¬ (s.connection.state = .closing ∨ s.connection.state = .closed) :=
      fun h => h.elim ho.1 ho.2
    cases hr : s.connection.registry.register (.channel s.channels.length) with
    | error e =>
      refine .inl ⟨e, ?_, .inr ⟨ho, rfl⟩⟩
      unfold openChannel
      dsimp only
      rw [if_neg hended, hr, ← s.lose_detach_withChannel]
      rfl
    | ok found =>
      obtain ⟨id, r⟩ := found
      -- the request is never refused, so the id is not given back
      obtain ⟨octets, hw⟩ := exists_toWire_openRequest id
      obtain ⟨n, hn⟩ := exists_send
        (s := (s.mapRegistry fun _ => r).withChannel ⟨id, .opening, true, 0, 1⟩) ho hw
      refine .inr ⟨id, r, n, ho, rfl, hn, ?_⟩
      rw [openRequest] at hn
      unfold openChannel
      dsimp only
      rw [if_neg hended, hr]
      dsimp only
      rw [show ({ s with channels := s.channels ++ [Channel.new] } : Store) = s.withChannel .new from rfl,
        hch, hn]
  · have hended : s.connection.state = .closing ∨ s.connection.state = .closed :=
      Classical.byContradiction fun hn => ho (not_or.1 hn)
    refine .inl ⟨.illegalState, ?_, .inl ⟨ho, rfl⟩⟩
    unfold openChannel
    dsimp only
    rw [if_pos hended, ← s.lose_detach_withChannel]
    rfl

/-! ## The connection -/

/-- A close is carried out at once, or only noted. -/
inductive ClosesConnection (s : Store) : Next → Prop where
  | begun (hc : s.connection.closeRequested = false) (hs : s.connection.state = .connected) :
      ClosesConnection s (s.mapConnection ({ · with closeRequested := true })).sendClose
  | noted (hc : s.connection.closeRequested = false) (hs : s.connection.state ≠ .closed)
      (hn : s.connection.state ≠ .connected) :
      ClosesConnection s (.only (s.mapConnection ({ · with closeRequested := true })))

theorem closesConnection (h : s.close = .ok n) : s.ClosesConnection n := by
  unfold close at h
  split at h
  · cases h
  · rename_i hc
    rw [not_or, Bool.not_eq_true] at hc
    cases h
    split
    · rename_i hs; exact .begun hc.1 hs
    · rename_i hn; exact .noted hc.1 hc.2 hn

/-- A connection that is destroyed is closed first, if it was not before. -/
inductive Destroys (s : Store) : Next → Prop where
  | aside (ha : s.connection.alive = false) : Destroys s (.only s)
  | closing (ha : s.connection.alive = true) {n : Next} (h : s.close = .ok n) :
      Destroys s (n.andThen [.clearRegistry, .destroyed])
  | closed (ha : s.connection.alive = true) {e : CloseError} (h : s.close = .error e) :
      Destroys s (.follow s [.clearRegistry, .destroyed])

theorem destroys (s : Store) : s.Destroys s.destroy := by
  unfold destroy
  split
  · rename_i ha
    dsimp only
    split
    · rename_i h; exact .closing ha h
    · rename_i h; exact .closed ha h
  · rename_i ha; exact .aside (Bool.not_eq_true _ ▸ ha)

/-- The last handle takes the connection with it, any other is only given back. -/
inductive ReleasesHandle (s : Store) : Next → Prop where
  | last (h : s.handles = 1) : ReleasesHandle s (s.destroy.andThen [.loseHandle])
  | other (h : s.handles ≠ 1) : ReleasesHandle s (.only s.loseHandle)

theorem releasesHandle (s : Store) : s.ReleasesHandle s.releaseHandle := by
  unfold releaseHandle
  split
  · rename_i h; exact .last h
  · rename_i h; exact .other h

/-- The loss of the transport closes a connection that is not closed already. -/
inductive LosesTransport (s : Store) : Next → Prop where
  | aside (hs : s.connection.state = .closed) : LosesTransport s (.only s)
  | shut (hs : s.connection.state ≠ .closed) :
      LosesTransport s (.follow s.shut.1 [.invalidateEach s.shut.2, .notifyAlive .closed])

theorem losesTransport (s : Store) : s.LosesTransport s.transportClosed := by
  unfold transportClosed
  split
  · rename_i hs; exact .aside hs
  · rename_i hs; exact .shut hs

/-- A violation closes the connection and user code is told, if there is a connection. -/
inductive ReportsFault (s : Store) (v : Violation) (processed : Nat) : Next → Prop where
  | late (ha : s.connection.alive = false) : ReportsFault s v processed (.follow s (endOfParse processed))
  | shut (ha : s.connection.alive = true) : ReportsFault s v processed
      (.follow s.shut.1 ([.invalidateEach s.shut.2, .notify (.error v.message)] ++ endOfParse processed))

theorem reportsFault (s : Store) (v : Violation) (processed : Nat) :
    s.ReportsFault v processed (s.report v processed) := by
  unfold report
  split
  · rename_i ha; exact .shut ha
  · rename_i ha; exact .late (Bool.not_eq_true _ ▸ ha)

/-! ## Received frames -/

/-- What the connection does about a frame for itself. -/
inductive OnConnection (s : Store) : Body → Next → Prop where
  | heartbeat : OnConnection s .heartbeat (.only s)
  | fault (body : Body) (v : Violation) (hv : ∀ e, v ≠ .frame e) : OnConnection s body (.refuse s v)
  | offered (offer : Start) (hs : s.connection.state = .negotiatingProtocol) :
      OnConnection s (.method (.connection (.start offer)))
        ((s.setState .negotiatingTuning).reply (.ofConnection (.startOk s.startOk)) [])
  | tuned (theirs : Tune) (hs : s.connection.state = .negotiatingTuning) :
      OnConnection s (.method (.connection (.tune theirs))) (s.receiveTune theirs)
  | opened (hs : s.connection.state = .negotiatingTuning) (hc : s.connection.closeRequested = false) :
      OnConnection s (.method (.connection .openOk)) (.follow (s.setState .connected) [.announce])
  /-- The close that was put off comes first. -/
  | openedToClose (hs : s.connection.state = .negotiatingTuning)
      (hc : s.connection.closeRequested = true) :
      OnConnection s (.method (.connection .openOk)) ((s.setState .connected).sendClose.andThen [.announce])
  | closed (reason : Close) : OnConnection s (.method (.connection (.close reason))) (s.receiveClose reason)
  | confirmed (hs : s.connection.state = .closing) : OnConnection s (.method (.connection .closeOk))
      (.follow s.shut.1 [.invalidateEach s.shut.2, .notifyAlive .closed])
  | blocked (reason : String) : OnConnection s (.method (.connection (.blocked reason)))
      (.start s (.blocked reason) [])
  | unblocked : OnConnection s (.method (.connection .unblocked)) (.start s .unblocked [])

theorem receiveConnectionMethod_onConnection (s : Store) (m : ConnectionMethod) :
    s.OnConnection (.method (.connection m)) (s.receiveConnectionMethod m) := by
  unfold receiveConnectionMethod
  cases m with
  | start offer =>
    dsimp only
    split
    · rename_i hs
      unfold receiveStart
      split
      · exact .fault _ _ nofun
      · split
        · exact .fault _ _ nofun
        · exact .offered offer hs
    · exact .fault _ _ nofun
  | tune theirs =>
    dsimp only
    split
    · rename_i hs; exact .tuned theirs hs
    · exact .fault _ _ nofun
  | openOk =>
    dsimp only
    split
    · rename_i hs
      unfold receiveOpenOk
      dsimp only
      split
      · rename_i hc; exact .openedToClose hs hc
      · rename_i hc; exact .opened hs (Bool.not_eq_true _ ▸ hc)
    · exact .fault _ _ nofun
  | close reason => exact .closed reason
  | closeOk =>
    dsimp only
    split
    · rename_i hs; exact .confirmed hs
    · exact .fault _ _ nofun
  | blocked reason => exact .blocked reason
  | unblocked => exact .unblocked
  | secure | startOk | secureOk | tuneOk | openRequest => exact .fault _ _ nofun

theorem receiveOnConnection_onConnection (s : Store) (body : Body) :
    s.OnConnection body (s.receiveOnConnection body) := by
  unfold receiveOnConnection
  split
  · exact .heartbeat
  · exact receiveConnectionMethod_onConnection s _
  all_goals exact .fault _ _ nofun

/-- What a channel does about a frame. -/
inductive OnChannel (s : Store) (c : Nat) : Body → Next → Prop where
  | closes (reason : Close) : OnChannel s c (.method (.channel (.close reason)))
      (s.reply (.ofChannel (s.channel c).id .closeOk) [.channelClosedByPeer c reason.replyText])
  | opened (hs : (s.channel c).state = .opening) : OnChannel s c (.method (.channel .openOk))
      (.start (s.setChannelState c .open) (.channelReady c) [])
  | confirmed (hs : (s.channel c).state = .closing) : OnChannel s c (.method (.channel .closeOk))
      (.start (s.retire c) (.channelClosed c) [])
  | flow (active : Bool) (hs : (s.channel c).state = .open ∨ (s.channel c).state = .closing) :
      OnChannel s c (.method (.channel (.flow active)))
        (.start s (.channelFlow c active) [.flowReply c active])
  | content (body : Body) (hs : (s.channel c).state = .open) :
      OnChannel s c body (.start s (.channelFrame c body) [])
  | passedOver (body : Body) (hs : (s.channel c).state = .closing) : OnChannel s c body (.only s)
  | fault (body : Body) (v : Violation) (hv : ∀ e, v ≠ .frame e) : OnChannel s c body (.refuse s v)

theorem receiveChannelMethod_onChannel (s : Store) (c : Nat) (m : ChannelMethod) :
    s.OnChannel c (.method (.channel m)) (s.receiveChannelMethod c m) := by
  unfold receiveChannelMethod
  cases m with
  | close reason => exact .closes reason
  | openOk =>
    dsimp only
    split
    · rename_i hs; exact .opened hs
    · exact .fault _ _ nofun
  | closeOk =>
    dsimp only
    split
    · rename_i hs; exact .confirmed hs
    · exact .fault _ _ nofun
  | flow active =>
    dsimp only
    split
    · rename_i hs; exact .flow active hs
    · exact .fault _ _ nofun
  | openRequest | flowOk => exact .fault _ _ nofun

theorem receiveOnChannel_onChannel (s : Store) (c : Nat) (body : Body) :
    s.OnChannel c body (s.receiveOnChannel c body) := by
  unfold receiveOnChannel
  split
  · exact receiveChannelMethod_onChannel s c _
  · exact .fault _ _ nofun
  · split
    · rename_i hs; exact .content _ hs
    · rename_i hs; exact .passedOver _ hs
    · exact .fault _ _ nofun
    · exact .fault _ _ nofun

end Store

/-- The frame is handled for an endpoint, with everything that this comes to. -/
def Next.within (n : Next) (f : Frame) (e : Option EndpointRef) (p : Parsing) : Next :=
  { n with tasks := n.tasks ++ [.handled e p n.fault], log := .received f :: n.log, fault := none }

namespace Store

variable {s : Store} {f : Frame}

theorem receive_zero (s : Store) (hf : f.channel = 0) (p : Parsing) :
    s.receive f p = (s.receiveOnConnection f.body).within f none p := by
  unfold receive
  rw [if_pos hf]
  rfl

theorem receive_ignored (hf : f.channel ≠ 0)
    (h : (f.body = .heartbeat ∨ s.connection.state = .closing) ∨ s.addressee? f = none) (p : Parsing) :
    s.receive f p = (Next.only s).within f none p := by
  unfold receive
  rw [if_neg hf]
  by_cases hn : f.body = .heartbeat ∨ s.connection.state = .closing
  · rw [if_pos hn]
    rfl
  · rw [if_neg hn, h.resolve_left hn]
    rfl

theorem receive_addressed (hf : f.channel ≠ 0)
    (hn : ¬ (f.body = .heartbeat ∨ s.connection.state = .closing)) {e : EndpointRef}
    (he : s.addressee? f = some e) (p : Parsing) :
    s.receive f p = ((s.hold e).deliver e f).within f (some e) p := by
  unfold receive
  rw [if_neg hf, if_neg hn, he]
  rfl

/-- Who handles a received frame, and how. -/
inductive TakesIn (s : Store) (f : Frame) : Option EndpointRef → Next → Prop where
  | connection (hf : f.channel = 0) {n : Next} (h : s.OnConnection f.body n) : TakesIn s f none n
  | ignored (hf : f.channel ≠ 0)
      (h : (f.body = .heartbeat ∨ s.connection.state = .closing) ∨ s.addressee? f = none) :
      TakesIn s f none (.only s)
  | channel (hf : f.channel ≠ 0) (hn : ¬ (f.body = .heartbeat ∨ s.connection.state = .closing))
      {c : Nat} (he : s.addressee? f = some (.channel c)) {n : Next}
      (h : (s.hold (.channel c)).OnChannel c f.body n) : TakesIn s f (some (.channel c)) n
  | custom (hf : f.channel ≠ 0) (hn : ¬ (f.body = .heartbeat ∨ s.connection.state = .closing))
      {k : Nat} (he : s.addressee? f = some (.custom k)) :
      TakesIn s f (some (.custom k)) (.start (s.hold (.custom k)) (.endpointFrame k f) [])

theorem receive_takesIn (s : Store) (f : Frame) (p : Parsing) :
    ∃ e n, s.TakesIn f e n ∧ s.receive f p = n.within f e p := by
  by_cases hf : f.channel = 0
  · exact ⟨_, _, .connection hf (s.receiveOnConnection_onConnection f.body), s.receive_zero hf p⟩
  · by_cases hi : (f.body = .heartbeat ∨ s.connection.state = .closing) ∨ s.addressee? f = none
    · exact ⟨_, _, .ignored hf hi, receive_ignored hf hi p⟩
    · obtain ⟨hn, ha⟩ := not_or.1 hi
      obtain ⟨e, he⟩ := Option.ne_none_iff_exists'.1 ha
      refine ⟨some e, _, ?_, receive_addressed hf hn he p⟩
      cases e with
      | channel c => exact .channel hf hn he ((s.hold (.channel c)).receiveOnChannel_onChannel c f.body)
      | custom k => exact .custom hf hn he

/-- What is at the front of a buffer. -/
inductive ParsesNext (s : Store) (buffer : Bytes) (processed : Nat) : Next → Prop where
  | ended : ParsesNext s buffer processed (.follow s (endOfParse processed))
  | violated (ha : s.connection.alive = true) (hs : s.connection.state ≠ .closed) {fault : DecodeFault}
      (h : Frame.decode buffer s.connection.maxFrameSize = .error fault) :
      ParsesNext s buffer processed (s.report (.frame fault) processed)
  | received (ha : s.connection.alive = true) (hs : s.connection.state ≠ .closed) {r : Received}
      (h : Frame.decode buffer s.connection.maxFrameSize = .ok (some r)) :
      ParsesNext s buffer processed (s.receive r.frame ⟨buffer, processed, r.size⟩)

theorem parsesNext (s : Store) (buffer : Bytes) (processed : Nat) :
    s.ParsesNext buffer processed (s.parse buffer processed) := by
  unfold parse
  split
  · exact .ended
  · rename_i hc
    simp only [Bool.or_eq_true, Bool.not_eq_true', decide_eq_true_eq, not_or, Bool.not_eq_false] at hc
    split
    · rename_i h; exact .violated hc.1.2 hc.2 h
    · exact .ended
    · rename_i h; exact .received hc.1.2 hc.2 h

/-! ## Tuning -/

end Store

/-- Events that are put on record first. -/
def Next.noting (n : Next) (es : List Event) : Next := { n with log := es ++ n.log }

namespace Store

/-- One channel over the limits is turned away, unless nobody holds it; after the last one, the limits are
announced. -/
inductive EvictsNext (s : Store) (limits : Tune) : List (UInt16 × EndpointRef) → Next → Prop where
  | done : EvictsNext s limits [] (s.reply (.ofConnection (.tuneOk limits)) [.requestHost])
  | rejected (id : UInt16) {e : EndpointRef} (rest : List (UInt16 × EndpointRef))
      (hl : s.isLive e = true) : EvictsNext s limits ((id, e) :: rest)
        (((((s.discard id).1.hold e).rejectEndpoint e).andThen [.release e, .evict rest limits]).noting
          (s.discard id).2)
  | gone (id : UInt16) {e : EndpointRef} (rest : List (UInt16 × EndpointRef))
      (hl : s.isLive e = false) : EvictsNext s limits ((id, e) :: rest)
        ((Next.follow (s.discard id).1 [.evict rest limits]).noting (s.discard id).2)

theorem evictsNext (s : Store) (surplus : List (UInt16 × EndpointRef)) (limits : Tune) :
    s.EvictsNext limits surplus (s.evictNext surplus limits) := by
  unfold evictNext
  split
  · exact .done
  · rename_i id e rest
    dsimp only
    split
    · rename_i hl; exact .rejected id rest hl
    · rename_i hl; exact .gone id rest (Bool.not_eq_true _ ▸ hl)

end Store

/-! ## Calls -/

/-- A call that may be refused. -/
inductive Session.Tries {ε : Type} (s : Store) (outcome : Except ε Unit → Outcome)
    (op : Store → Except ε Next) : Next → Prop where
  | accepted {n : Next} (h : op s.holdHandle = .ok n) :
      Tries s outcome op (n.andThen [.releaseHandle, .answer (outcome (.ok ()))])
  | refused {e : ε} (h : op s.holdHandle = .error e) :
      Tries s outcome op (.follow s [.answer (outcome (.error e))])

theorem Session.tries {ε : Type} (s : Store) (outcome : Except ε Unit → Outcome)
    (op : Store → Except ε Next) : Tries s outcome op (tryOnConnection s outcome op) := by
  unfold tryOnConnection
  split
  · rename_i h; exact .accepted h
  · rename_i h; exact .refused h

end AmqpSession
