/-
How a received frame is handled (`Store.receive_handling`): the work that it leads to, and the faults
that are found at once. `Store.admits` says which frames have their place in which state, of the
connection or of the channel that they go to.
-/
import AmqpSession.Proofs.Aside

namespace AmqpSession

open Wire

/-! ## Frames in their place -/

/-- The methods of the connection that a state allows the peer. -/
def ConnectionState.admits (state : ConnectionState) : ConnectionMethod → Bool
  | .start _ => state = .negotiatingProtocol
  | .tune _ | .openOk => state = .negotiatingTuning
  | .closeOk => state = .closing
  | .close _ | .blocked _ | .unblocked => true
  | .secure _ | .startOk _ | .secureOk _ | .tuneOk _ | .openRequest _ => false

/-- What a channel in a state allows the peer. A closing channel still gets what was under way. -/
def ChannelState.admits (state : ChannelState) : Body → Bool
  | .method (.channel m) =>
    match m with
    | .openOk => state = .opening
    | .flow _ => state = .open || state = .closing
    | .close _ => true
    | .closeOk => state = .closing
    | .openRequest | .flowOk _ => false
  | .method (.connection _) => false
  | _ => state = .open || state = .closing

/-- The frame has its place in the state of the connection or of the channel that it goes to. A
frame that goes nowhere does no harm, and one that user code's endpoint gets is for it to judge. -/
def Store.admits (s : Store) (f : Frame) : Bool :=
  if f.channel = 0 then
    match f.body with
    | .heartbeat => true
    | .method (.connection m) => s.connection.state.admits m
    | _ => false
  else f.body = .heartbeat || s.connection.state = .closing ||
    match s.addressee? f with
    | some (.channel c) => (s.channel c).state.admits f.body
    | _ => true

/-- The offer is one that this side can take up. -/
def Wire.Start.isAcceptable (offer : Start) : Bool :=
  offer.versionMajor = 0 && offer.versionMinor = 9 && offer.supportsMechanism Login.mechanism

/-- User code runs before the frame is answered. -/
def Wire.Body.isAnsweredLater : Body → Bool
  | .method (.connection (.tune _)) | .method (.channel (.flow _)) => true
  | _ => false

/-! ## Frames that can be sent -/

theorem Wire.Frame.exists_toWire_closeOk (id : UInt16) :
    ∃ octets, (Frame.ofChannel id .closeOk).toWire.result = .ok octets :=
  Frame.exists_toWire id rfl (by decide)

theorem Wire.Frame.exists_toWire_flowOk (id : UInt16) (active : Bool) :
    ∃ octets, (Frame.ofChannel id (.flowOk active)).toWire.result = .ok octets := by
  cases active <;> exact Frame.exists_toWire id rfl (by decide)

theorem Wire.Frame.exists_toWire_tuneOk (limits : Tune) :
    ∃ octets, (Frame.ofConnection (.tuneOk limits)).toWire.result = .ok octets := by
  refine Frame.exists_toWire 0 rfl ?_
  have hlen : (Method.connection (.tuneOk limits)).encode.octets.length = 12 := by
    show (bigEndian 2 10 ++ bigEndian 2 31 ++ (bigEndian 2 limits.channelMax.toNat ++
      bigEndian 4 limits.frameMax.toNat ++ bigEndian 2 limits.heartbeat.toNat)).length = 12
    simp only [List.length_append, length_bigEndian]
  rw [hlen]
  decide

theorem Wire.Frame.exists_toWire_openRequest {virtualHost : String}
    (hv : virtualHost.utf8ByteSize ≤ 255) :
    ∃ octets, (Frame.ofConnection (.openRequest virtualHost)).toWire.result = .ok octets := by
  have hs : Draft.shortString virtualHost =
      .raw (UInt8.ofNat virtualHost.utf8ByteSize :: Utf8.encode virtualHost) :=
    if_pos (Nat.lt_succ_of_le hv)
  have he : (Method.connection (.openRequest virtualHost)).encode =
      .raw (bigEndian 2 10 ++ bigEndian 2 40 ++
        (UInt8.ofNat virtualHost.utf8ByteSize :: Utf8.encode virtualHost ++ [0] ++ [0])) := by
    rw [Method.encode, ConnectionMethod.encode, hs]
    rfl
  have hlen : (Method.connection (.openRequest virtualHost)).encode.octets.length =
      virtualHost.utf8ByteSize + 7 := by
    rw [he, Draft.raw]
    simp only [List.length_append, List.length_cons, List.length_nil, length_bigEndian,
      Utf8.length_encode]
    omega
  refine Frame.exists_toWire 0 (by rw [he]; rfl) ?_
  rw [hlen]
  show virtualHost.utf8ByteSize + 7 < 4294967296
  omega

/-! ## Answers -/

namespace Store

theorem send_of_not_isOpen {s : Store} (h : ¬ s.connection.isOpen) (f : Frame) :
    s.send f = .error .closed := by
  unfold send
  refine if_pos ?_
  rwa [Connection.isOpen, not_and_or, not_not, not_not] at h

/-- An answer that has a form on the wire is sent, or comes too late. -/
theorem reply_cases (s : Store) {f : Frame} {octets : Bytes} (hw : f.toWire.result = .ok octets)
    (tasks : List Task) :
    (∃ sent, (s.reply f tasks).tasks = sent ++ tasks ∧ (∀ t ∈ sent, t.isServing = false) ∧
      (s.reply f tasks).fault = none) ∨
    (¬ s.connection.isOpen ∧ s.reply f tasks = .refuse s (.send .closed)) := by
  by_cases ho : s.connection.isOpen
  · obtain ⟨n, hn⟩ := exists_send ho hw
    have haside := send_isAside hn
    have hr : s.reply f tasks = n.andThen tasks := by rw [reply, hn]
    rw [hr]
    exact .inl ⟨n.tasks, rfl, haside.tasks, haside.fault⟩
  · refine .inr ⟨ho, ?_⟩
    rw [reply, send_of_not_isOpen ho]

/-! ## Received frames -/

/-- How a frame is handled: for which endpoint, by what work, and with what fault. -/
inductive Handling (s : Store) (f : Frame) :
    Option EndpointRef → List Task → Option Violation → Prop where
  | aside (e : Option EndpointRef) (tasks : List Task) (h : ∀ t ∈ tasks, t.isServing = false) :
      Handling s f e tasks none
  | outOfPlace (e : Option EndpointRef) (v : Violation) (h : s.admits f = false) :
      Handling s f e [] (some v)
  | unacceptable (offer : Start) (v : Violation) (hf : f = .ofConnection (.start offer))
      (h : offer.isAcceptable = false) : Handling s f none [] (some v)
  | unsendable (offer : Start) (hf : f = .ofConnection (.start offer))
      (ha : offer.isAcceptable = true) (fault : EncodeFault)
      (h : (Frame.ofConnection (.startOk s.startOk)).toWire.result = .error fault) :
      Handling s f none [] (some (.send (.encode fault)))
  | endpoint (n : Nat) (h : s.addressee? f = some (.custom n)) :
      Handling s f (some (.custom n)) [.user (.endpointFrame n f)] none
  | answered (e : Option EndpointRef) (cb : Callback) (t : Task) (hp : s.admits f = true)
      (ha : f.body.isAnsweredLater = true) (hcb : (Task.user cb).isServing = false)
      (ht : (∃ limits, t = .tuned limits) ∨ ∃ c active, t = .flowReply c active) :
      Handling s f e [.user cb, t] none
  | closes (reason : Close) (hf : f = .ofConnection (.close reason)) (octets : Bytes) :
      Handling s f none [.user (.data octets), .closedByPeer reason] none

/-- Only the form of the answer to an offer can stop it. -/
theorem send_startOk_of_error {s : Store} {fault : EncodeFault}
    (hw : (Frame.ofConnection (.startOk s.startOk)).toWire.result = .error fault) :
    (s.setState .negotiatingTuning).send
      (.ofConnection (.startOk (s.setState .negotiatingTuning).startOk)) = .error (.encode fault) := by
  have hw' : (Frame.ofConnection
      (.startOk (s.setState .negotiatingTuning).startOk)).toWire.result = .error fault := hw
  unfold send
  rw [if_neg (by simp), hw']

theorem receiveStart_handling (s : Store) (offer : Start) :
    Handling s (.ofConnection (.start offer)) none (s.receiveStart offer).tasks
      (s.receiveStart offer).fault := by
  unfold receiveStart
  split
  · rename_i hv
    refine .unacceptable offer _ rfl ?_
    rw [Start.isAcceptable, Bool.and_eq_false_iff, Bool.and_eq_false_iff, decide_eq_false_iff_not,
      decide_eq_false_iff_not]
    exact .inl hv
  · rename_i hv
    split
    · rename_i hm
      refine .unacceptable offer _ rfl ?_
      rw [Start.isAcceptable, Bool.and_eq_false_iff]
      exact .inr (by simpa using hm)
    · rename_i hm
      have ha : offer.isAcceptable = true := by
        rw [not_or, not_not, not_not] at hv
        simpa [Start.isAcceptable, hv.1, hv.2] using hm
      cases hw : (Frame.ofConnection (.startOk s.startOk)).toWire.result with
      | error fault =>
        dsimp only
        rw [reply, send_startOk_of_error hw]
        exact .unsendable offer rfl ha fault hw
      | ok octets =>
        rcases reply_cases (s.setState .negotiatingTuning) hw [] with
          ⟨sent, ht, hsent, hf⟩ | ⟨ho, -⟩
        · dsimp only
          rw [show (s.setState .negotiatingTuning).startOk = s.startOk from rfl, ht, hf]
          exact .aside none _ (by simpa using hsent)
        · exact absurd (by simp [Connection.isOpen]) ho

theorem receiveConnectionMethod_handling (s : Store) (m : ConnectionMethod) :
    Handling s (.ofConnection m) none (s.receiveConnectionMethod m).tasks
      (s.receiveConnectionMethod m).fault := by
  unfold receiveConnectionMethod
  cases m with
  | start offer =>
    dsimp only
    split
    · exact receiveStart_handling s offer
    · rename_i hs; exact .outOfPlace none _ (decide_eq_false hs)
  | secure challenge => exact .outOfPlace none _ rfl
  | tune limits =>
    dsimp only
    split
    · rename_i hs
      exact .answered none _ _ (decide_eq_true hs) rfl rfl (.inl ⟨_, rfl⟩)
    · rename_i hs; exact .outOfPlace none _ (decide_eq_false hs)
  | openOk =>
    dsimp only
    split
    · have h : s.receiveOpenOk.IsAside := by
        unfold receiveOpenOk
        exact Next.IsAside.andThen (.ite (sendClose_isAside _)) (by simp)
      rw [h.fault]
      exact .aside none _ h.tasks
    · rename_i hs; exact .outOfPlace none _ (decide_eq_false hs)
  | close reason => exact .closes reason rfl _
  | closeOk =>
    dsimp only
    split
    · exact .aside none _ (by simp [receiveCloseOk, Next.follow])
    · rename_i hs; exact .outOfPlace none _ (decide_eq_false hs)
  | blocked reason => exact .aside none _ (by simp [Next.start])
  | unblocked => exact .aside none _ (by simp [Next.start])
  | startOk | secureOk | tuneOk | openRequest => exact .outOfPlace none _ rfl

theorem receiveOnConnection_handling (s : Store) {f : Frame} (hf : f.channel = 0) :
    Handling s f none (s.receiveOnConnection f.body).tasks (s.receiveOnConnection f.body).fault := by
  obtain ⟨channel, body⟩ := f
  cases hf
  unfold receiveOnConnection
  cases body with
  | heartbeat => exact .aside none _ (by simp [Next.only])
  | method m =>
    cases m with
    | connection m => exact receiveConnectionMethod_handling s m
    | channel | other => exact .outOfPlace none _ rfl
  | protocolHeader | header | content => exact .outOfPlace none _ rfl

theorem state_channel_hold (s : Store) (c : Nat) (e : EndpointRef) :
    ((s.hold e).channel c).state = (s.channel c).state := by
  cases e with
  | custom n => rfl
  | channel c' =>
    unfold channel hold mapChannel
    rw [List.getElem?_modify]
    split <;> cases s.channels[c]? <;> rfl

/-- A channel judges a frame by the state that it is in. -/
theorem admits_of_addressee {s : Store} {f : Frame} {c : Nat} (hf : f.channel ≠ 0)
    (hp : ¬ (f.body = .heartbeat ∨ s.connection.state = .closing))
    (ha : s.addressee? f = some (.channel c)) : s.admits f = (s.channel c).state.admits f.body := by
  rw [not_or] at hp
  rw [admits, if_neg hf, ha, decide_eq_false hp.1, decide_eq_false hp.2, Bool.false_or, Bool.false_or]

theorem receiveOnChannel_handling {s : Store} {f : Frame} {c : Nat}
    (ho : s.connection.isOpen) (hp : s.admits f = (s.channel c).state.admits f.body) :
    Handling s f (some (.channel c)) ((s.hold (.channel c)).receiveOnChannel c f.body).tasks
      ((s.hold (.channel c)).receiveOnChannel c f.body).fault := by
  have hstate := s.state_channel_hold c (.channel c)
  have misplaced : ∀ v, (s.channel c).state.admits f.body = false →
      Handling s f (some (.channel c)) [] (some v) := fun v h => .outOfPlace _ v (hp.trans h)
  unfold receiveOnChannel
  cases hb : f.body with
  | method m =>
    rw [hb] at misplaced hp
    cases m with
    | connection m => exact misplaced _ rfl
    | other classId methodId arguments =>
      dsimp only
      rw [hstate]
      cases hc : (s.channel c).state with
      | opening => exact misplaced _ (by rw [hc]; rfl)
      | «open» => exact .aside _ _ (by simp [Next.start])
      | closing => exact .aside _ _ (by simp [Next.only])
      | closed => exact misplaced _ (by rw [hc]; rfl)
    | channel m =>
      dsimp only
      unfold receiveChannelMethod
      rw [hstate]
      cases m with
      | openRequest | flowOk => exact misplaced _ rfl
      | openOk =>
        dsimp only
        split
        · exact .aside _ _ (by simp [Next.start])
        · rename_i hs; exact misplaced _ (decide_eq_false hs)
      | closeOk =>
        dsimp only
        split
        · exact .aside _ _ (by simp [Next.start])
        · rename_i hs; exact misplaced _ (decide_eq_false hs)
      | flow active =>
        dsimp only
        split
        · rename_i hs
          refine .answered _ _ _ ?_ (by rw [hb]; rfl) rfl (.inr ⟨c, active, rfl⟩)
          rw [hp]
          simpa [ChannelState.admits] using hs
        · rename_i hs
          exact misplaced _ (by simpa [ChannelState.admits] using hs)
      | close reason =>
        dsimp only
        -- the connection is open, so the confirmation goes out
        obtain ⟨octets, hw⟩ := Frame.exists_toWire_closeOk ((s.hold (.channel c)).channel c).id
        rcases reply_cases (s.hold (.channel c)) hw [.channelClosedByPeer c reason.replyText]
          with ⟨sent, ht, hsent, hf⟩ | ⟨hclosed, -⟩
        · rw [ht, hf]
          refine .aside _ _ fun t ht => ?_
          rcases List.mem_append.1 ht with ht | ht
          · exact hsent t ht
          · rw [List.mem_singleton.1 ht]; rfl
        · rw [connection_hold] at hclosed
          exact absurd ho hclosed
  | protocolHeader | header | content | heartbeat =>
    rw [hb] at misplaced
    dsimp only
    rw [hstate]
    cases hc : (s.channel c).state with
    | opening => exact misplaced _ (by rw [hc]; rfl)
    | «open» => exact .aside _ _ (by simp [Next.start])
    | closing => exact .aside _ _ (by simp [Next.only])
    | closed => exact misplaced _ (by rw [hc]; rfl)

/-- The frame's own work is followed by the task that ends its handling. -/
theorem receive_handling {s : Store} (hs : s.connection.state ≠ .closed) (f : Frame) (p : Parsing) :
    ∃ e tasks fault, (s.receive f p).tasks = tasks ++ [.handled e p fault] ∧
      (s.receive f p).fault = none ∧ Handling s f e tasks fault := by
  unfold receive
  by_cases hf : f.channel = 0
  · simp only [if_pos hf]
    exact ⟨none, _, _, rfl, trivial, receiveOnConnection_handling s hf⟩
  · simp only [if_neg hf]
    split
    · exact ⟨none, _, _, rfl, trivial, .aside none [] (by simp)⟩
    · rename_i hp
      split
      · rename_i e ha
        refine ⟨some e, _, _, rfl, trivial, ?_⟩
        cases e with
        | custom n => exact .endpoint n ha
        | channel c =>
          exact receiveOnChannel_handling ⟨(not_or.1 hp).2, hs⟩ (admits_of_addressee hf hp ha)
      · exact ⟨none, _, _, rfl, trivial, .aside none [] (by simp)⟩

/-- A channel over the limit is turned away before the next one. -/
theorem evictNext_cons (s : Store) (entry : UInt16 × EndpointRef) (rest : List (UInt16 × EndpointRef))
    (limits : Tune) :
    ∃ tasks, (s.evictNext (entry :: rest) limits).tasks = tasks ++ [.evict rest limits] ∧
      (∀ t ∈ tasks, t.isServing = false) ∧ (s.evictNext (entry :: rest) limits).fault = none :=
  match entry, s.evictNext (entry :: rest) limits, s.evictsNext (entry :: rest) limits with
  | (id, e), _, .rejected _ _ _ => by
    have haside := rejectEndpoint_isAside ((s.discard id).1.hold e) e
    refine ⟨(((s.discard id).1.hold e).rejectEndpoint e).tasks ++ [.release e],
      by rw [List.append_assoc]; rfl, fun t ht => ?_, haside.fault⟩
    rcases List.mem_append.1 ht with ht | ht
    · exact haside.tasks t ht
    · rw [List.mem_singleton.1 ht]; rfl
  | _, _, .gone _ _ _ => ⟨[], rfl, List.forall_mem_nil _, rfl⟩

end Store

end AmqpSession
