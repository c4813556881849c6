/-
What the answers of the peer lead to, under any load: the limits and the confirmation of the host
while the connection is being negotiated, and afterwards the confirmations of what channels and the
connection asked for.
-/
import AmqpSession.Proofs.Arrival
import AmqpSession.Proofs.Laden
import AmqpSession.Proofs.Tracking

namespace AmqpSession

open Wire

/-! ## Frames received under load -/

namespace Store

variable {s : Store} {f : Frame}

theorem addressee?_laden (a : Nat) (q : List Frame → List Frame) (s : Store) (f : Frame) :
    (s.laden a q).addressee? f = s.addressee? f := by
  have hlive : (s.laden a q).isLive = s.isLive := funext fun e => isLive_laden a q s e
  unfold addressee?
  rw [hlive]
  rfl

end Store

namespace Parsed

variable {Q : (List Frame → List Frame) → Prop} {P : Store → Prop} {size : Nat} {fine : Prop}
  {s : Store} {g : Frame} {reply : Bytes} {n : Next}

/-- The octets are one frame, and it is handled. -/
theorem received {e : Option EndpointRef} (ha : s.connection.alive = true)
    (hs : s.connection.state ≠ .closed)
    (hd : Frame.decode reply s.connection.maxFrameSize = .ok (some ⟨g, reply.length⟩))
    (hrun : ∀ a q, Q q → (s.laden a q).receive g ⟨reply, 0, reply.length⟩ =
      (n.laden a q).within g e ⟨reply, 0, reply.length⟩)
    (hr : reports n.log = [])
    (h : Parsed Q P size fine (n.tasks ++ [.handled e ⟨reply, 0, reply.length⟩ n.fault]) n.store) :
    Parsed Q P size fine [.parse reply 0] s := by
  refine .task (n := n.within g e ⟨reply, 0, reply.length⟩) (fun a q hq => ?_) rfl (fun _ => hr)
    (by rwa [List.append_nil])
  have hparse : (s.laden a q).parse reply 0 = (s.laden a q).receive g ⟨reply, 0, reply.length⟩ := by
    rw [Store.parse_of_live (s := s.laden a q) ha hs reply 0,
      show (s.laden a q).connection.maxFrameSize = s.connection.maxFrameSize from rfl, hd]
  show some ((s.laden a q).parse reply 0) = _
  rw [hparse, hrun a q hq]
  rfl

/-! ### Negotiation -/

/-- The host is asked for, if its name is not too long. -/
theorem requestHost {p : Parsing} (hp : p.buffer.length ≤ p.size) (ho : s.connection.isOpen)
    (ha : s.connection.alive = true) (hs : s.HasSpare)
    (hfine : fine → s.connection.options.virtualHost.utf8ByteSize ≤ 255 ∧ p.processed + p.size = size) :
    Parsed (· = id) (fun s' => s'.handles ≠ 0) size fine [.requestHost, .handled none p none] s := by
  let f : Frame := .ofConnection (.openRequest s.connection.options.virtualHost)
  have hrun : ∀ a q, q = id → Task.run .requestHost (s.laden a q) = some ((s.reply f []).laden a q) := by
    rintro a q rfl
    rw [← Store.reply_laden]
    exact congrArg some (if_pos ha)
  cases hw : f.toWire.result with
  | ok octets =>
    obtain ⟨m, hm⟩ := Store.exists_send ho hw
    have hsends := Store.send_sends hm
    have hreply : s.reply f [] = m.andThen [] := by rw [Store.reply, hm]
    rw [hreply] at hrun
    refine .task hrun hsends.fault (fun _ => hsends.log) ?_
    rw [Next.andThen, List.append_nil]
    exact .sends hsends fun s' hs' => .handled hp (hs'.hasSpare hs) (hs'.hasSpare hs).loseHandle
      fun hfi => (hfine hfi).2
  | error fault =>
    -- the name of the host is all that may not fit
    have hlong : ¬ fine := by
      intro hfi
      obtain ⟨octets, hok⟩ := Frame.exists_toWire_openRequest (hfine hfi).1
      rw [hok] at hw
      cases hw
    have hreply : s.reply f [] = .refuse s (.send (.encode fault)) := by
      rw [Store.reply, Store.send, if_neg fun h => h.elim ho.1 ho.2, hw]
    rw [hreply] at hrun
    exact .fault hrun rfl hlong (.refused ha hs hlong fun s' hs' _ _ => hs'.loseHandle)

/-- The limits are agreed on, and the host is asked for. -/
theorem tune {theirs : Tune} (ha : s.connection.alive = true)
    (hst : s.connection.state = .negotiatingTuning) (hs : s.HasSpare)
    (hd : Frame.decode reply s.connection.maxFrameSize =
      .ok (some ⟨.ofConnection (.tune theirs), reply.length⟩)) :
    Parsed (· = id) (fun s' => s'.handles ≠ 0) reply.length
      (s.connection.options.virtualHost.utf8ByteSize ≤ 255) [.parse reply 0] s := by
  let limits := s.connection.options.agree theirs
  let p : Parsing := ⟨reply, 0, reply.length⟩
  refine .received (n := .start s (.negotiate limits.heartbeat) [.tuned limits]) (e := none) ha
    (by rw [hst]; decide) hd ?_ rfl (.user ?_)
  · rintro a q rfl
    rw [Store.receive_zero _ rfl]
    exact congrArg (Next.within · _ none p) (if_pos hst)
  let t : Store := (s.setLimits limits).mapRegistry .evict
  refine .follow t [.evict (s.setLimits limits).connection.registry.surplus limits]
    (fun a q _ => congrArg some (if_pos ha)) (.evict (s := t) ha (fun s₁ h₁ => ?_) _)
  -- nothing was lost on the way: the answer goes out, and then the request
  have ho : s₁.connection.isOpen := by
    rw [Connection.isOpen, h₁.state, show t.connection.state = _ from hst]
    exact ⟨by decide, by decide⟩
  have halive : s₁.connection.alive = true := h₁.alive.trans ha
  have hspare : s₁.HasSpare := h₁.hasSpare (hs.of_eq rfl rfl)
  obtain ⟨octets, hw⟩ := Frame.exists_toWire_tuneOk limits
  obtain ⟨m, hm⟩ := Store.exists_send ho hw
  have hsends := Store.send_sends hm
  refine .task (n := m.andThen [.requestHost]) ?_ hsends.fault (fun _ => hsends.log) ?_
  · rintro a q rfl
    show some (if (s₁.laden a id).connection.alive then _ else _) = _
    rw [if_pos (show (s₁.laden a id).connection.alive = true from halive)]
    show some ((s₁.laden a id).reply (.ofConnection (.tuneOk limits)) [.requestHost]) = _
    rw [Store.reply_laden, Store.reply, hm]
  rw [Next.andThen, List.append_assoc]
  refine .sends hsends fun s₂ h₂ => ?_
  have ho₂ : s₂.connection.isOpen := by
    rw [Connection.isOpen, h₂.state]
    exact ho
  refine .requestHost (Nat.le_refl _) ho₂ (h₂.alive.trans halive) (h₂.hasSpare hspare) fun hv => ?_
  rw [show s₂.connection.options = s.connection.options from h₂.options.trans h₁.options]
  exact ⟨hv, Nat.zero_add _⟩

/-- User code is told, and what was held back goes out. -/
theorem announce {p : Parsing} (hp : p.buffer.length ≤ p.size) (ha : s.connection.alive = true)
    (hs : s.HasSpare) (hm : fine → p.processed + p.size = size) :
    Parsed (· = id) (fun s' => s'.handles ≠ 0) size fine [.announce, .handled none p none] s := by
  refine .start s .connected [.flush] (by simp)
    (fun a q _ => congrArg some (if_pos ha)) (.flush ha fun s' h => ?_)
  exact .handled hp (h.hasSpare hs) (h.hasSpare hs).loseHandle hm

/-- The connection is established, and a close that was put off is carried out. -/
theorem openOk (ha : s.connection.alive = true) (hst : s.connection.state = .negotiatingTuning)
    (hs : s.HasSpare) (hd : Frame.decode reply s.connection.maxFrameSize =
      .ok (some ⟨.ofConnection .openOk, reply.length⟩)) :
    Parsed (· = id) (fun s' => s'.handles ≠ 0) reply.length True [.parse reply 0] s := by
  let p : Parsing := ⟨reply, 0, reply.length⟩
  let t : Store := s.setState .connected
  have hspare : t.HasSpare := hs.of_eq rfl rfl
  by_cases hc : s.connection.closeRequested = true
  · have halive : t.holdRegistered.1.connection.alive = true := by
      rw [Store.connection_holdRegistered]
      exact ha
    have hheld : t.holdRegistered.1.HasSpare :=
      hspare.of_eq (by rw [Store.connection_holdRegistered]) (by rw [Store.connection_holdRegistered])
    refine .received (n := .follow t.holdRegistered.1
      [.closeEach t.holdRegistered.2, .sendClose, .announce]) (e := none) ha (by rw [hst]; decide) hd
      ?_ rfl (.closeEach halive hheld.handles_ne_zero (fun s₁ h₁ => ?_) _)
    · rintro a q rfl
      rw [Store.receive_zero _ rfl]
      refine congrArg (Next.within · _ none p) ((if_pos hst).trans ?_)
      unfold Store.receiveOpenOk
      dsimp only
      rw [if_pos (show ((s.laden a id).setState .connected).connection.closeRequested = true from hc)]
      unfold Store.sendClose
      rw [show (s.laden a id).setState .connected = t.laden a id from rfl, Store.holdRegistered_laden]
      rfl
    have ha₁ : s₁.connection.alive = true := h₁.alive.trans halive
    have hs₁ : s₁.HasSpare := h₁.hasSpare hheld
    have hsends := Store.offer_sends s₁ Store.connectionClose
    refine .task (n := (s₁.offer Store.connectionClose).andThen [.awaitCloseOk]) ?_ hsends.fault
      (fun _ => hsends.log) ?_
    · rintro a q rfl
      show some (if (s₁.laden a id).connection.alive then _ else _) = _
      rw [if_pos (show (s₁.laden a id).connection.alive = true from ha₁), Store.offer_laden]
      rfl
    rw [Next.andThen, List.append_assoc]
    refine .sends hsends fun s₂ h₂ => .only (s₂.setState .closing) ?_ ?_
    · rintro a q rfl
      exact congrArg some (if_pos (h₂.alive.trans ha₁))
    · exact .announce (Nat.le_refl _) (h₂.alive.trans ha₁) ((h₂.hasSpare hs₁).of_eq rfl rfl)
        fun _ => Nat.zero_add _
  · refine .received (n := .follow t [.announce]) (e := none) ha (by rw [hst]; decide) hd ?_ rfl
      (.announce (Nat.le_refl _) ha hspare fun _ => Nat.zero_add _)
    rintro a q rfl
    rw [Store.receive_zero _ rfl]
    refine congrArg (Next.within · _ none p) ((if_pos hst).trans ?_)
    unfold Store.receiveOpenOk
    dsimp only
    rw [if_neg (show ¬ ((s.laden a id).setState .connected).connection.closeRequested = true from hc)]
    rfl

end Parsed

/-! ## Confirmations -/

/-- What the peer confirms a request of a channel with, or a close of the connection. -/
def Wire.Frame.isConfirmation (f : Frame) : Prop :=
  f = .ofConnection .closeOk ∨ ∃ id, f = openAnswer id ∨ f = closeAnswer id

namespace Store

/-- The connection was not destroyed, and what was held back is held back still. -/
structure Awaits (l : List Frame) (s : Store) : Prop where
  alive : s.connection.alive = true
  queue : s.connection.queue = l
  handles : s.handles ≠ 0

variable {s : Store} {c : Nat}

theorem isLive_setChannelState (h : s.isLive (.channel c) = true) (state : ChannelState) :
    (s.setChannelState c state).isLive (.channel c) = true := by
  rw [isLive_channel_iff] at h ⊢
  rw [setChannelState, s.channel_mapChannel (lt_length_of_hasHolder h)]
  exact h

end Store

namespace Parsed

open Store (Awaits)

variable {Q : (List Frame → List Frame) → Prop} {size : Nat} {fine : Prop}
  {s s₁ : Store} {g : Frame} {reply : Bytes} {l : List Frame}

/-- The frame was handled for an endpoint that stays, or that is cut off. -/
theorem served {e : EndpointRef} {p : Parsing} (hb : p.buffer.length ≤ p.size)
    (he : ∀ c, e = .channel c → (s₁.lose e).isLive e = true ∨ (s₁.lose e).reaches c = false)
    (ha : s₁.connection.alive = true) (hq : s₁.connection.queue = l) (hs : s₁.HasSpare)
    (hm : fine → p.processed + p.size = size) :
    Parsed Q (Awaits l) size fine [.handled (some e) p none] s₁ := by
  refine .follow s₁ [.release e, .handled none p none] (fun a q _ => rfl)
    (.lost he ?_)
  have hspare : (s₁.lose e).HasSpare :=
    hs.of_eq (by rw [Store.connection_lose]) (by rw [Store.connection_lose])
  refine .handled hb hspare ⟨?_, ?_, hspare.loseHandle⟩ hm
  · show (s₁.lose e).connection.alive = true
    rwa [Store.connection_lose]
  · show (s₁.lose e).connection.queue = l
    rwa [Store.connection_lose]

/-- The frame was refused, and is reported. -/
theorem reported {p : Parsing} {v : Violation} (ha : s.connection.alive = true)
    (hq : s.connection.queue = l) (hs : s.HasSpare) (hfine : ¬ fine) :
    Parsed Q (Awaits l) size fine [.handled none p (some v)] s :=
  .refused ha hs hfine fun _ hs' ha' hq' => ⟨ha'.trans ha, hq'.trans hq, hs'.loseHandle⟩

/-- The channel that refused the frame is let go of first. -/
theorem reportedFor {c : Nat} {p : Parsing} {v : Violation} (hl : s.isLive (.channel c) = true)
    (ha : s.connection.alive = true) (hs : s.HasSpare) (hfine : ¬ fine) :
    Parsed Q (Awaits s.connection.queue) size fine [.handled (some (.channel c)) p (some v)]
      (s.hold (.channel c)) := by
  refine .follow (s.hold (.channel c)) [.release (.channel c), .handled none p (some v)]
    (fun a q _ => rfl) (.lost (fun d hd => ?_) ?_)
  · cases hd
    rw [Store.lose_hold]
    exact .inl hl
  · show Parsed _ _ _ _ _ ((s.hold (.channel c)).lose (.channel c))
    rw [Store.lose_hold]
    exact .reported ha rfl hs hfine

/-- The connection that closes is closed. -/
theorem closeOk (hcl : s.connection.state = .closing) (ha : s.connection.alive = true) (hs : s.HasSpare)
    (hd : Frame.decode reply s.connection.maxFrameSize =
      .ok (some ⟨.ofConnection .closeOk, reply.length⟩)) :
    Parsed Q (Awaits s.connection.queue) reply.length fine [.parse reply 0] s := by
  refine .received (n := .follow s.shut.1 [.invalidateEach s.shut.2, .notifyAlive .closed])
    (e := none) ha (by rw [hcl]; nofun) hd (fun a q _ => ?_) rfl (.invalidateEach (fun s' hs' => ?_) _)
  · rw [Store.receive_zero _ rfl]
    refine congrArg (Next.within · _ none ⟨reply, 0, reply.length⟩) ((if_pos hcl).trans ?_)
    unfold Store.receiveCloseOk
    rw [Store.shut_laden]
    rfl
  · replace hs' : s'.connection = s.shut.1.connection := hs'
    rw [Store.connection_shut] at hs'
    have halive : s'.connection.alive = true := by rw [hs']; exact ha
    have hspare : s'.HasSpare := hs.of_eq (by rw [hs']) (by rw [hs'])
    refine .start s' .closed [] (by simp) (fun a q _ => congrArg some (if_pos halive)) ?_
    refine .handled (Nat.le_refl _) hspare ⟨halive, ?_, hspare.loseHandle⟩ fun _ => Nat.zero_add _
    show s'.connection.queue = _
    rw [hs']

/-- A confirmation that comes for a channel. -/
theorem confirmation_channel {c : Nat} {id : UInt16} (hid : id ≠ 0)
    (hg : g = openAnswer id ∨ g = closeAnswer id) (ha : s.connection.alive = true)
    (hst : s.connection.state ≠ .closed) (hcl : s.connection.state ≠ .closing) (hs : s.HasSpare)
    (hd : Frame.decode reply s.connection.maxFrameSize = .ok (some ⟨g, reply.length⟩))
    (hc : s.addressee? g = some (.channel c)) :
    Parsed Q (Awaits s.connection.queue) reply.length
      (s.connection.state ≠ .closed ∧ s.admits g = true) [.parse reply 0] s := by
  let p : Parsing := ⟨reply, 0, reply.length⟩
  have hl := Store.isLive_of_addressee? hc
  have hheld : (s.hold (.channel c)).HasSpare := hs.of_eq rfl rfl
  have hstate := s.state_channel_hold c (.channel c)
  have hchannel : g.channel ≠ 0 := by rcases hg with rfl | rfl <;> exact hid
  have hbody : g.body ≠ .heartbeat := by rcases hg with rfl | rfl <;> nofun
  have hadmits : s.admits g = (s.channel c).state.admits g.body :=
    Store.admits_of_addressee hchannel (fun h => h.elim hbody hcl) hc
  -- the load changes nothing about who the frame is for
  have hdelivered : ∀ n : Next,
      (∀ a q, ((s.laden a q).hold (.channel c)).receiveOnChannel c g.body = n.laden a q) →
      reports n.log = [] →
      Parsed Q (Awaits s.connection.queue) reply.length (s.connection.state ≠ .closed ∧ s.admits g = true)
        (n.tasks ++ [.handled (some (.channel c)) p n.fault]) n.store →
      Parsed Q (Awaits s.connection.queue) reply.length (s.connection.state ≠ .closed ∧ s.admits g = true)
        [.parse reply 0] s := by
    intro n hn hr h
    refine .received ha hst hd (fun a q _ => ?_) hr h
    rw [Store.receive_addressed (s := s.laden a q) hchannel (fun h => h.elim hbody hcl)
      ((Store.addressee?_laden a q s g).trans hc), ← hn]
    rfl
  obtain rfl | rfl := hg
  · by_cases hopening : (s.channel c).state = .opening
    · refine hdelivered (.start ((s.hold (.channel c)).setChannelState c .open) (.channelReady c) [])
        (fun a q => if_pos (hstate.trans hopening)) rfl
        (.user (.served (Nat.le_refl _) (fun d hd => ?_) ha rfl hheld fun _ => Nat.zero_add _))
      cases hd
      refine .inl ?_
      show (((s.hold (.channel c)).setChannelState c .open).lose (.channel c)).isLive _ = true
      rw [Store.setChannelState_hold, Store.lose_hold]
      exact Store.isLive_setChannelState hl .open
    · refine hdelivered ((s.hold (.channel c)).channelFault c (.unexpectedMethod channelClass
        ChannelMethod.openOk.id ((s.hold (.channel c)).channel c).state))
        (fun a q => if_neg (hstate ▸ hopening)) rfl (.reportedFor hl ha hs fun hfi => ?_)
      rw [hadmits] at hfi
      exact hopening (of_decide_eq_true hfi.2)
  · by_cases hclosing : (s.channel c).state = .closing
    · refine hdelivered (.start ((s.hold (.channel c)).retire c) (.channelClosed c) [])
        (fun a q => if_pos (hstate.trans hclosing)) rfl
        (.user (.served (Nat.le_refl _) (fun d hd => ?_) ha rfl hheld fun _ => Nat.zero_add _))
      cases hd
      exact .inr ((s.hold (.channel c)).reaches_lose_detach c)
    · refine hdelivered ((s.hold (.channel c)).channelFault c (.unexpectedMethod channelClass
        ChannelMethod.closeOk.id ((s.hold (.channel c)).channel c).state))
        (fun a q => if_neg (hstate ▸ hclosing)) rfl (.reportedFor hl ha hs fun hfi => ?_)
      rw [hadmits] at hfi
      exact hclosing (of_decide_eq_true hfi.2)

/-- What a confirmation comes to: it has its place, or is passed over, or is a violation. -/
theorem confirmation (hg : g.isConfirmation) (ha : s.connection.alive = true) (hs : s.HasSpare)
    (hd : Frame.decode reply s.connection.maxFrameSize = .ok (some ⟨g, reply.length⟩)) :
    Parsed Q (Awaits s.connection.queue) reply.length
      (s.connection.state ≠ .closed ∧ s.admits g = true) [.parse reply 0] s := by
  let p : Parsing := ⟨reply, 0, reply.length⟩
  by_cases hst : s.connection.state = .closed
  · refine .follow s _ (fun a q _ => congrArg some
      (Store.parse_of_closed (s := s.laden a q) hst reply 0)) ?_
    rw [List.append_nil]
    exact .endOfParse hs ⟨ha, rfl, hs.loseHandle⟩ fun hfi => absurd hst hfi.1
  have hpassed : Parsed Q (Awaits s.connection.queue) reply.length
      (s.connection.state ≠ .closed ∧ s.admits g = true) [.handled none p none] s :=
    .handled (Nat.le_refl _) hs ⟨ha, rfl, hs.loseHandle⟩ fun _ => Nat.zero_add _
  obtain rfl | ⟨id, hg⟩ := hg
  · by_cases hcl : s.connection.state = .closing
    · exact .closeOk hcl ha hs hd
    · refine .received (n := s.unexpected .closeOk) (e := none) ha hst hd (fun a q _ => ?_) rfl
        (.reported ha rfl hs fun hfi => ?_)
      · rw [Store.receive_zero _ rfl]
        exact congrArg (Next.within · _ none p) (if_neg hcl)
      · exact hcl (of_decide_eq_true hfi.2)
  · by_cases hid : id = 0
    · -- a method of channels has no business on channel 0
      subst hid
      refine .received (n := s.receiveOnConnection g.body) (e := none) ha hst hd ?_ ?_ ?_
      · intro a q _
        rw [Store.receive_zero _ (by rcases hg with rfl | rfl <;> rfl)]
        rcases hg with rfl | rfl <;> rfl
      · rcases hg with rfl | rfl <;> rfl
      · rcases hg with rfl | rfl
        all_goals exact .reported ha rfl hs fun hfi => by cases hfi.2
    have hchannel : g.channel ≠ 0 := by rcases hg with rfl | rfl <;> exact hid
    by_cases hcl : s.connection.state = .closing
    · exact .received (n := .only s) (e := none) ha hst hd
        (fun a q _ => Store.receive_ignored (s := s.laden a q) hchannel (.inl (.inr hcl)) p) rfl hpassed
    cases hc : s.addressee? g with
    | none =>
      refine .received (n := .only s) (e := none) ha hst hd (fun a q _ => ?_) rfl hpassed
      exact Store.receive_ignored hchannel (.inr ((Store.addressee?_laden a q s g).trans hc)) p
    | some e =>
      cases e with
      | channel c => exact confirmation_channel hid hg ha hst hcl hs hd hc
      | custom n =>
        have hbody : g.body ≠ .heartbeat := by rcases hg with rfl | rfl <;> nofun
        refine .received (n := .start (s.hold (.custom n)) (.endpointFrame n g) [])
          (e := some (.custom n)) ha hst hd (fun a q _ => ?_) rfl
          (.user (.served (Nat.le_refl _) (by simp) ha rfl (hs.of_eq rfl rfl) fun _ => Nat.zero_add _))
        rw [Store.receive_addressed (s := s.laden a q) hchannel (fun h => h.elim hbody hcl)
          ((Store.addressee?_laden a q s g).trans hc)]
        rfl

end Parsed

end AmqpSession
