/-
Frames of the server that arrive while the connection is at rest and user code is passive. A frame
that has its place comes to rest again (`ServerMove`); a confirmation of an opening that nobody waits
for any more is reported as a violation.
-/
import AmqpSession.Proofs.Client
import AmqpSession.Proofs.Layout

namespace AmqpSession

open Wire

/-! ## What a server sends -/

/-- What a server may send on its own on a channel that is open. -/
def Wire.Body.isPushable : Body → Bool
  | .method (.channel (.flow _)) => true
  | .method (.other classId _ _) => classId != connectionClass && classId != channelClass
  | .header _ => true
  | .content _ => true
  | _ => false

/-- The answer to an opening. -/
def openAnswer (id : UInt16) : Frame := .ofChannel id .openOk

/-- The answer to a close. -/
def closeAnswer (id : UInt16) : Frame := .ofChannel id .closeOk

/-- An answer, or something that a server may send on its own. -/
def Wire.Body.isServers (body : Body) : Prop :=
  body = .method (.channel .openOk) ∨ body = .method (.channel .closeOk) ∨ body.isPushable = true

/-- The frame has a form on the wire within the limit. -/
def Wire.Frame.Fits (f : Frame) (max : UInt32) : Prop :=
  ∃ octets, f.toWire.result = .ok octets ∧ Frame.exceeds octets.length max = false

theorem Wire.Frame.decode_method {channel : UInt16} {m : Method} {max : UInt32} {octets : Bytes}
    (hw : (Frame.mk channel (.method m)).toWire.result = .ok octets)
    (hm : Frame.exceeds octets.length max = false) (hd : Method.decode m.encode.octets = .ok m)
    (rest : Bytes) :
    Frame.decode (octets ++ rest) max = .ok (some ⟨⟨channel, .method m⟩, octets.length⟩) := by
  have he : (Frame.mk channel (.method m)).encode = encodePayload .method channel m.encode := rfl
  refine Frame.decode_toWire he rfl nofun hw hm ?_ rest
  show Body.method <$> Method.decode m.encode.octets = _
  rw [hd]
  rfl

/-- What a server sends is read as it was written. -/
theorem Wire.Frame.decode_of_isServers {f : Frame} {max : UInt32} (hb : f.body.isServers)
    (hf : f.Fits max) (rest : Bytes) :
    Frame.decode (f.toWire.octets ++ rest) max = .ok (some ⟨f, f.toWire.octets.length⟩) := by
  obtain ⟨octets, hw, hm⟩ := hf
  rw [Draft.octets_of_result hw]
  obtain ⟨channel, body⟩ := f
  rcases hb with hb | hb | hb
  · cases hb
    exact Frame.decode_method hw hm (by decide) rest
  · cases hb
    exact Frame.decode_method hw hm (by decide) rest
  · cases body with
    | header h =>
      have he : (Frame.mk channel (.header h)).encode = encodePayload .header channel
        (.short h.classId ++ .short h.weight ++ .longLong h.bodySize ++ .raw h.properties) := rfl
      refine Frame.decode_toWire he rfl nofun hw hm ?_ rest
      show (fun h : ContentHeader × Bytes => Body.header h.1) <$> Reader.contentHeader
        (((bigEndian 2 h.classId.toNat ++ bigEndian 2 h.weight.toNat) ++
          bigEndian 8 h.bodySize.toNat) ++ h.properties) = _
      rw [List.append_assoc, List.append_assoc, Reader.contentHeader_encode]
      rfl
    | content data =>
      have he : (Frame.mk channel (.content data)).encode =
        encodePayload .content channel (.raw data) := rfl
      exact Frame.decode_toWire he rfl nofun hw hm rfl rest
    | method m =>
      refine Frame.decode_method hw hm ?_ rest
      cases m with
      | connection => cases hb
      | channel m =>
        -- of the methods of a channel only flow is pushed
        cases m with
        | flow active => cases active <;> decide
        | _ => cases hb
      | other classId methodId arguments =>
        have hclass : classId ≠ connectionClass ∧ classId ≠ channelClass := by
          rw [Body.isPushable, Bool.and_eq_true, bne_iff_ne, bne_iff_ne] at hb
          exact hb
        show Method.decode ((bigEndian 2 classId.toNat ++ bigEndian 2 methodId.toNat) ++ arguments) = _
        rw [List.append_assoc, Method.decode_other hclass.1 hclass.2]
    | _ => cases hb

/-! ## Handling at rest -/

/-- Whatever is no heartbeat is looked at. -/
theorem Store.Rests.not_ignored {s : Store} (hs : s.Rests) {body : Body} (hh : body ≠ .heartbeat) :
    ¬ (body = .heartbeat ∨ s.connection.state = .closing) := by
  rw [hs.connected]
  rintro (h | h)
  · exact hh h
  · cases h

namespace Next.Leads

variable {s s' : Store} {c : Nat} {f : Frame} {base : List Task} {fs : List Frame}

/-- The next frame in a buffer is handled. -/
theorem parse (hs : s.Rests) (hb : f.body.isServers) (hf : f.Fits s.connection.maxFrameSize)
    {buffer : Bytes} {processed : Nat} {rest' : List Task}
    (h : (s.receive f ⟨f.toWire.octets ++ buffer, processed, f.toWire.octets.length⟩).Leads base fs s'
      rest') :
    (only s).Leads (.parse (f.toWire.octets ++ buffer) processed :: base) fs s' rest' := by
  have hd := Frame.decode_of_isServers hb hf buffer
  have hne : (f.toWire.octets ++ buffer).isEmpty = false := by
    cases hbuf : f.toWire.octets ++ buffer with
    | nil => rw [hbuf] at hd; cases hd
    | cons => rfl
  have hgo : ¬ ((f.toWire.octets ++ buffer).isEmpty || !s.connection.alive ||
      s.connection.state = .closed) = true := by
    rw [hne, hs.alive, hs.connected]
    decide
  refine task ?_ h
  show some (s.parse _ processed) = _
  unfold Store.parse
  rw [if_neg hgo, hd]

/-- A frame was handled, and the rest of the buffer is next. -/
theorem handled {p : Parsing} :
    (only s).Leads (.handled none p none :: base) [] s
      (.parse (p.buffer.drop p.size) (p.processed + p.size) :: base) :=
  task rfl (refl s _)

/-- A frame for nobody is passed over. -/
theorem receive_nobody (hs : s.Rests) (hf : f.channel ≠ 0)
    (hg : s.connection.registry.get? f.channel = none) (hh : f.body ≠ .heartbeat) (p : Parsing) :
    (s.receive f p).Leads base [] s (.parse (p.buffer.drop p.size) (p.processed + p.size) :: base) := by
  have heq : s.receive f p = { store := s, tasks := [.handled none p none], log := [.received f] } := by
    unfold Store.receive Store.addressee?
    rw [if_neg hf, if_neg (hs.not_ignored hh), hg]
    rfl
  rw [heq]
  exact of_log (by intro text he; simp at he) handled

/-- That a frame was decoded is put on record before all that it leads to. -/
theorem received {n : Next} {t : Task} {rest' : List Task} (hn : n.fault = none)
    (h : n.Leads (t :: base) fs s' rest') :
    ({ n with tasks := n.tasks ++ [t], log := .received f :: n.log, fault := none } : Next).Leads base
      fs s' rest' := by
  obtain ⟨es, hes, hq, hp⟩ := h
  refine ⟨es ++ [.received f], ?_, ?_, fun log => ?_⟩
  · rw [handedOver_append, hes]
    rfl
  · refine noError_append.2 ⟨hq, fun text he => ?_⟩
    cases List.mem_singleton.1 he
  · have heq : Session.proceed
        { n with tasks := n.tasks ++ [t], log := .received f :: n.log, fault := none } log base =
          Session.proceed n (.received f :: log) (t :: base) := by
      simp only [Session.proceed, hn, List.reverse_cons, List.append_assoc, List.singleton_append]
    rw [heq, List.append_assoc]
    exact hp (.received f :: log)

/-- The channel that a frame is for is held while it handles the frame. -/
theorem receive_channel (hs : s.Rests) (hg : s.connection.registry.get? f.channel = some (.channel c))
    (hh : f.body ≠ .heartbeat) {p : Parsing} {n : Next}
    (hn : (s.hold (.channel c)).receiveOnChannel c f.body = n) {rest' : List Task}
    (h : ({ n with
      tasks := n.tasks ++ [.handled (some (.channel c)) p n.fault]
      log := .received f :: n.log
      fault := none } : Next).Leads base fs s' rest') : (s.receive f p).Leads base fs s' rest' := by
  have hlive : s.isLive (.channel c) = true := by
    have ho := (hs.isNamed hg).owned
    show ((s.channel c).owned + (s.channel c).held != 0) = true
    rw [bne_iff_ne]
    omega
  have heq : s.receive f p = { n with
      tasks := n.tasks ++ [.handled (some (.channel c)) p n.fault]
      log := .received f :: n.log
      fault := none } := by
    unfold Store.receive Store.addressee?
    rw [if_neg (hs.isNamed hg).ne_zero, if_neg (hs.not_ignored hh), hg]
    dsimp only
    rw [if_pos hlive, ← hn]
    rfl
  rw [heq]
  exact h

/-- A channel that has a place for the frame. -/
theorem receive_accepted (hs : s.Rests) (hg : s.connection.registry.get? f.channel = some (.channel c))
    (hh : f.body ≠ .heartbeat) {p : Parsing} {n : Next}
    (hn : (s.hold (.channel c)).receiveOnChannel c f.body = n) (hfault : n.fault = none)
    (ho : (s'.channel c).owned ≠ 0) (h : ∀ rest, n.Leads rest fs (s'.hold (.channel c)) rest) :
    (s.receive f p).Leads base fs s'
      (.parse (p.buffer.drop p.size) (p.processed + p.size) :: base) := by
  have hdone : (only (s'.hold (.channel c))).Leads (.handled (some (.channel c)) p none :: base) [] s'
      (.parse (p.buffer.drop p.size) (p.processed + p.size) :: base) := .task rfl (release ho handled)
  have hall := (h _).trans hdone
  rw [List.append_nil] at hall
  refine receive_channel hs hg hh hn (received hfault ?_)
  rw [hfault]
  exact hall

/-- A channel that has no place for the frame: the violation is reported next. -/
theorem receive_refused (hs : s.Rests) (hg : s.connection.registry.get? f.channel = some (.channel c))
    (hh : f.body ≠ .heartbeat) {p : Parsing} {v : Violation}
    (hn : (s.hold (.channel c)).receiveOnChannel c f.body = .refuse (s.hold (.channel c)) v) :
    (s.receive f p).Leads base [] s.shut.1
      (.invalidateEach s.shut.2 :: .notify (.error v.message) ::
        (Store.endOfParse p.processed ++ base)) := by
  have hreport : s.report v p.processed = .follow s.shut.1
      ([.invalidateEach s.shut.2, .notify (.error v.message)] ++ Store.endOfParse p.processed) := by
    unfold Store.report
    rw [if_pos hs.alive]
  have hrun : Task.run (.handled none p (some v)) s = some (s.report v p.processed) := rfl
  have hhandled : (only (s.hold (.channel c))).Leads
      (.handled (some (.channel c)) p (some v) :: base) [] s.shut.1 (.invalidateEach s.shut.2 :: .notify (.error v.message) ::
        (Store.endOfParse p.processed ++ base)) := by
    refine .task rfl (release (hs.isNamed hg).owned (.task hrun ?_))
    rw [hreport]
    exact refl _ _
  exact receive_channel hs hg hh hn (received (n := .only _) rfl hhandled)

end Next.Leads

/-! ## What a channel makes of a frame -/

namespace Store

variable {s : Store} {c : Nat} {id : UInt16}

/-- A channel is cut off and gives its id back whoever holds it. -/
theorem retire_mapChannel (hlt : c < s.channels.length) {f : Channel → Channel}
    (hid : ∀ ch, (f ch).id = ch.id)
    (hcut : ∀ ch : Channel, { f ch with state := .closed, attached := false } =
      f { ch with state := .closed, attached := false }) :
    (s.mapChannel c f).retire c = (s.retire c).mapChannel c f := by
  have hdetach : (s.mapChannel c f).detach c = (s.detach c).mapChannel c f := by
    show (s.mapChannel c _).mapChannel c _ = (s.mapChannel c _).mapChannel c _
    rw [mapChannel_mapChannel, mapChannel_mapChannel]
    exact congrArg (s.mapChannel c) (funext hcut)
  have hidOf : ((s.detach c).mapChannel c f).idOf (.channel c) = (s.detach c).idOf (.channel c) := by
    have hlt' : c < (s.detach c).channels.length :=
      Nat.lt_of_lt_of_eq hlt (s.length_mapChannel c _).symm
    show (((s.detach c).mapChannel c f).channel c).id = _
    rw [channel_mapChannel _ hlt', hid]
    rfl
  unfold retire
  rw [hdetach, unregister, hidOf]
  rfl

theorem retire_hold (hlt : c < s.channels.length) :
    (s.hold (.channel c)).retire c = (s.retire c).hold (.channel c) :=
  retire_mapChannel hlt (fun _ => rfl) fun _ => rfl

theorem retire_lose (hlt : c < s.channels.length) :
    (s.lose (.channel c)).retire c = (s.retire c).lose (.channel c) :=
  retire_mapChannel hlt (fun _ => rfl) fun _ => rfl

/-- A channel whose close was confirmed gives its id back. -/
theorem Rests.turns_retire (hs : s.Rests) (hg : s.connection.registry.get? id = some (.channel c)) :
    s.Turns (s.retire c) id none :=
  hs.turns_unregister hg rfl (hs.held c) fun _ => rfl

/-- What is pushed, but for flow, is for user code, or dropped while the channel closes. -/
theorem receiveOnChannel_pushed (s : Store) (c : Nat) {body : Body} (hb : body.isPushable = true)
    (hflow : ∀ active, body ≠ .method (.channel (.flow active))) :
    ((s.channel c).state = .open → s.receiveOnChannel c body = .start s (.channelFrame c body) []) ∧
      ((s.channel c).state = .closing → s.receiveOnChannel c body = .only s) := by
  unfold receiveOnChannel
  cases body with
  | method m =>
    cases m with
    | connection => cases hb
    | channel m =>
      cases m with
      | flow active => exact absurd rfl (hflow active)
      | _ => cases hb
    | other =>
      constructor <;> intro hst
      all_goals simp only [hst]
  | header | content =>
    constructor <;> intro hst
    all_goals simp only [hst]
  | _ => cases hb

theorem reply_of_connected (hc : s.connection.state = .connected) (hq : s.connection.queue = [])
    {f : Frame} {octets : Bytes} (hw : f.toWire.result = .ok octets) (tasks : List Task) :
    s.reply f tasks = (Next.sent s f octets).andThen tasks := by
  unfold reply
  rw [send_of_connected hc hq hw]

end Store

/-! ## Arrivals -/

/-- A frame that has its place, and the state of the channel afterwards. -/
inductive ServerMove (s : Store) (f : Frame) : Option ChannelState → Prop where
  | nobody (h : s.stateOn f.channel = none) : ServerMove s f none
  | ready (h : s.stateOn f.channel = some .opening) (hb : f.body = .method (.channel .openOk)) :
      ServerMove s f (some .open)
  | confirmed (h : s.stateOn f.channel = some .closing) (hb : f.body = .method (.channel .closeOk)) :
      ServerMove s f none
  /-- Data, or the wish to go on or to pause. -/
  | passes {state : ChannelState} (h : s.stateOn f.channel = some state)
      (hst : state = .open ∨ state = .closing) (hb : f.body.isPushable = true) :
      ServerMove s f (some state)

section Arrivals

variable {s : Store} {f : Frame} {buffer : Bytes} {processed : Nat} {base : List Task}

theorem Wire.Body.isServers.ne_heartbeat {body : Body} (h : body.isServers) : body ≠ .heartbeat := by
  rintro rfl
  rcases h with h | h | h <;> cases h

/-- The wish of the server is granted at once. -/
theorem Next.Leads.flow {c : Nat} (hc : s.connection.state = .connected)
    (hq : s.connection.queue = []) (ha : s.connection.alive = true) (active : Bool) (rest : List Task) :
    (Next.start s (.channelFlow c active) [.flowReply c active]).Leads rest
      [.ofChannel (s.channel c).id (.flowOk active)] s rest := by
  obtain ⟨octets, hw⟩ := Frame.exists_toWire_flowOk (s.channel c).id active
  have hrun : Task.run (.flowReply c active) s =
      some ((Next.sent s (.ofChannel (s.channel c).id (.flowOk active)) octets).andThen []) := by
    show some (if s.connection.alive = true then _ else _) = _
    rw [if_pos ha, Store.reply_of_connected hc hq hw]
  exact .start (by simp) (.task hrun (.andThen rfl (.sent (.refl s rest))))

/-- What is pushed finds its channel as it was. -/
theorem Next.Leads.receive_pushed {c : Nat} (hs : s.Rests)
    (hg : s.connection.registry.get? f.channel = some (.channel c))
    (hst : (s.channel c).state = .open ∨ (s.channel c).state = .closing)
    (hb : f.body.isPushable = true) (p : Parsing) :
    ∃ fs, (∀ g ∈ fs, g.body.isRequest = false) ∧ (s.receive f p).Leads base fs s
      (.parse (p.buffer.drop p.size) (p.processed + p.size) :: base) := by
  have ho := (hs.isNamed hg).owned
  have hst' := hst
  rw [← Store.state_channel_hold s c (.channel c)] at hst'
  have hh : f.body ≠ .heartbeat := Body.isServers.ne_heartbeat (.inr (.inr hb))
  -- flow is answered; everything else is handed to user code, or dropped while the channel closes
  by_cases hflow : ∃ active, f.body = .method (.channel (.flow active))
  · obtain ⟨active, hbody⟩ := hflow
    have hn : (s.hold (.channel c)).receiveOnChannel c f.body =
        .start (s.hold (.channel c)) (.channelFlow c active) [.flowReply c active] := by
      rw [hbody]
      exact if_pos hst'
    refine ⟨_, ?_, .receive_accepted hs hg hh hn rfl ho fun rest =>
      .flow (s := s.hold (.channel c)) hs.connected hs.queue hs.alive active rest⟩
    intro g hgm
    rw [List.mem_singleton.1 hgm]
    rfl
  · obtain ⟨hopen, hclosing⟩ := (s.hold (.channel c)).receiveOnChannel_pushed c hb fun active hbody =>
      hflow ⟨active, hbody⟩
    rcases hst' with hst' | hst'
    · exact ⟨[], by simp, .receive_accepted hs hg hh (hopen hst') rfl ho fun rest =>
        .start (by simp) (.refl _ rest)⟩
    · exact ⟨[], by simp, .receive_accepted hs hg hh (hclosing hst') rfl ho fun rest => .refl _ rest⟩

/-- A frame that has its place is handled, and the connection is at rest again. -/
theorem ServerMove.leads {state : Option ChannelState} (hs : s.Rests) (hf0 : f.channel ≠ 0)
    (hb : f.body.isServers) (hf : f.Fits s.connection.maxFrameSize) (h : ServerMove s f state) :
    ∃ fs s', (∀ g ∈ fs, g.body.isRequest = false) ∧ s.Turns s' f.channel state ∧
      (Next.only s).Leads (.parse (f.toWire.octets ++ buffer) processed :: base) fs s'
        (.parse buffer (processed + f.toWire.octets.length) :: base) := by
  have hdrop : (f.toWire.octets ++ buffer).drop f.toWire.octets.length = buffer := List.drop_left
  let p : Parsing := ⟨f.toWire.octets ++ buffer, processed, f.toWire.octets.length⟩
  suffices hr : ∃ fs s', (∀ g ∈ fs, g.body.isRequest = false) ∧ s.Turns s' f.channel state ∧
      (s.receive f p).Leads base fs s' (.parse (p.buffer.drop p.size) (p.processed + p.size) :: base) by
    obtain ⟨fs, s', hfs, hturns, hleads⟩ := hr
    rw [show p.buffer.drop p.size = buffer from hdrop] at hleads
    exact ⟨fs, s', hfs, hturns, .parse hs hb hf hleads⟩
  cases h with
  | nobody h =>
    have hg := hs.get?_of_stateOn_none h
    have hturns := Store.Turns.refl hs f.channel
    rw [h] at hturns
    exact ⟨[], s, nofun, hturns, .receive_nobody hs hf0 hg hb.ne_heartbeat p⟩
  | ready h hbody =>
    obtain ⟨c, hg, hc⟩ := Store.exists_of_stateOn h
    have hc' : ((s.hold (.channel c)).channel c).state = .opening :=
      (Store.state_channel_hold s c _).trans hc
    have hturns := hs.turns_setChannelState hg .open nofun
    have hn : (s.hold (.channel c)).receiveOnChannel c f.body =
        .start ((s.setChannelState c .open).hold (.channel c)) (.channelReady c) [] := by
      rw [hbody, ← Store.setChannelState_hold]
      exact if_pos hc'
    refine ⟨[], _, nofun, hturns, .receive_accepted hs hg hb.ne_heartbeat hn rfl ?_ fun rest => ?_⟩
    · have ho := (hs.isNamed hg).owned
      rw [Store.setChannelState, Store.channel_mapChannel s (Store.lt_length_of_owned ho)]
      exact ho
    · exact .start (by simp) (.refl _ rest)
  | confirmed h hbody =>
    obtain ⟨c, hg, hc⟩ := Store.exists_of_stateOn h
    have hlt := Store.lt_length_of_owned (hs.isNamed hg).owned
    have hc' : ((s.hold (.channel c)).channel c).state = .closing :=
      (Store.state_channel_hold s c _).trans hc
    have hn : (s.hold (.channel c)).receiveOnChannel c f.body =
        .start ((s.retire c).hold (.channel c)) (.channelClosed c) [] := by
      rw [hbody, ← Store.retire_hold hlt]
      exact if_pos hc'
    refine ⟨[], _, nofun, hs.turns_retire hg,
      .receive_accepted hs hg hb.ne_heartbeat hn rfl ?_ fun rest => ?_⟩
    · have hch : (s.retire c).channel c = _ := Store.channel_mapChannel s hlt _
      rw [hch]
      exact (hs.isNamed hg).owned
    · exact .start (by simp) (.refl _ rest)
  | passes h hst hbody =>
    obtain ⟨c, hg, hc⟩ := Store.exists_of_stateOn h
    obtain ⟨fs, hfs, hleads⟩ := Next.Leads.receive_pushed hs hg (hc ▸ hst) hbody p
    have hturns := Store.Turns.refl hs f.channel
    rw [h] at hturns
    exact ⟨fs, s, hfs, hturns, hleads⟩

/-- A late confirmation of an opening is taken for a violation. -/
theorem Next.Leads.parse_late (hs : s.Rests) (hb : f.body = .method (.channel .openOk))
    (hf : f.Fits s.connection.maxFrameSize) (h : s.stateOn f.channel = some .closing)
    (buffer : Bytes) (processed : Nat) (base : List Task) :
    ∃ s' es text rest', (Next.only s).Leads (.parse (f.toWire.octets ++ buffer) processed :: base) [] s'
      (.invalidateEach es :: .notify (.error text) :: rest') := by
  obtain ⟨c, hg, hc⟩ := Store.exists_of_stateOn h
  have hc' : ((s.hold (.channel c)).channel c).state = .closing :=
    (Store.state_channel_hold s c _).trans hc
  have hn : (s.hold (.channel c)).receiveOnChannel c f.body = .refuse (s.hold (.channel c))
      (.channel ((s.hold (.channel c)).channel c).id (.unexpectedMethod channelClass 11 .closing)) := by
    rw [hb]
    show (if ((s.hold (.channel c)).channel c).state = .opening then _ else _) = _
    rw [hc', if_neg nofun]
    rfl
  have hservers : f.body.isServers := .inl hb
  exact ⟨_, _, _, _, .parse hs hservers hf (.receive_refused hs hg hservers.ne_heartbeat hn)⟩

end Arrivals

end AmqpSession
