/-
Work that has nothing to do with ids or with received frames (`Next.IsApart`): it leaves the registry
alone and tells no endpoint of a frame. What the handling of a frame does besides is told for each kind
of frame, for a channel by `Store.OnChannel`.
-/
import AmqpSession.Proofs.Client
import AmqpSession.Proofs.Reception

namespace AmqpSession

open Wire

/-! ## Callbacks of endpoints -/

/-- The endpoint whose callback it is. -/
def Callback.endpoint? : Callback → Option EndpointRef
  | .channelReady c | .channelError c _ | .channelClosed c | .channelFrame c _ | .channelFlow c _ =>
    some (.channel c)
  | .endpointFrame n _ | .endpointClose n | .endpointInvalidate n | .endpointReject n _ =>
    some (.custom n)
  | _ => none

/-- User code learns of a frame that an endpoint received. -/
def Callback.isDelivery : Callback → Bool
  | .channelReady _ | .channelFrame _ _ | .channelFlow _ _ | .endpointFrame _ _ => true
  | _ => false

/-! ## Work that neither takes frames nor gives out ids -/

/-- All ids are where they were, and no endpoint is told of a frame. -/
structure Next.IsApart (r : Registry) (n : Next) : Prop where
  registry : n.store.connection.registry = r
  quiet : ∀ cb, .started cb ∈ n.log → cb.isDelivery = false

namespace Next.IsApart

variable {r : Registry} {s : Store} {n : Next}

theorem only (h : s.connection.registry = r) : IsApart r (.only s) := ⟨h, fun _ h => nomatch h⟩

theorem follow (h : s.connection.registry = r) (tasks : List Task) : IsApart r (.follow s tasks) :=
  ⟨h, fun _ h => nomatch h⟩

theorem start (h : s.connection.registry = r) {cb : Callback} (hcb : cb.isDelivery = false)
    (tasks : List Task) : IsApart r (.start s cb tasks) := by
  refine ⟨h, fun cb' hcb' => ?_⟩
  rwa [Event.started.inj (List.mem_singleton.1 hcb')]

theorem andThen (h : IsApart r n) (tasks : List Task) : IsApart r (n.andThen tasks) :=
  ⟨h.registry, h.quiet⟩

theorem ite {c : Prop} [Decidable c] (h : IsApart s.connection.registry n) :
    IsApart s.connection.registry (if c then n else .only s) := by
  split
  · exact h
  · exact only rfl

end Next.IsApart

namespace Store

open Next (IsApart)

theorem send_isApart {s : Store} {f : Frame} {n : Next} (h : s.send f = .ok n) :
    IsApart s.connection.registry n := by
  obtain ⟨octets, -, -, ⟨-, rfl⟩ | ⟨-, rfl⟩⟩ := send_cases h
  · refine ⟨rfl, fun cb hcb => ?_⟩
    simp only [List.mem_cons, List.not_mem_nil, or_false, reduceCtorEq, false_or] at hcb
    rw [Event.started.inj hcb]
    rfl
  · exact ⟨rfl, fun cb hcb => nomatch List.mem_singleton.1 hcb⟩

theorem offer_isApart (s : Store) (f : Frame) : IsApart s.connection.registry (s.offer f) :=
  match s.offer f, s.offers f with
  | _, .sent h => send_isApart h
  | _, .unsent _ => .only rfl

theorem reply_isApart (s : Store) (f : Frame) (tasks : List Task) :
    IsApart s.connection.registry (s.reply f tasks) :=
  match s.reply f tasks, s.replies f tasks with
  | _, .sent h => (send_isApart h).andThen tasks
  | _, .unsent _ => ⟨rfl, fun _ h => nomatch h⟩

/-- A frame that is sent with a handle held. -/
theorem send_holdHandle_isApart {s : Store} {f : Frame} {n : Next} (h : s.holdHandle.send f = .ok n)
    (tasks : List Task) : IsApart s.connection.registry (n.andThen tasks) := by
  have hn := send_isApart h
  rw [connection_holdHandle] at hn
  exact hn.andThen tasks

theorem closeChannel_isApart (s : Store) (c : Nat) :
    IsApart s.connection.registry (s.closeChannel c).2 :=
  match (s.closeChannel c).2, s.closesChannel c with
  | _, .aside _ => .only rfl
  | _, .unsent _ _ => .only rfl
  | _, .sent _ _ h => send_holdHandle_isApart (s := s.setChannelState c .closing) h _

theorem sendOn_isApart {s : Store} {c : Nat} {body : Body} {n : Next} (h : s.sendOn c body = .ok n) :
    IsApart s.connection.registry n := by
  obtain ⟨-, -, m, hm, rfl⟩ := sendOn_eq_ok h
  exact send_holdHandle_isApart hm _

theorem DropsChannel.isApart {s : Store} {c : Nat} {n : Next} (h : s.DropsChannel c n) :
    IsApart s.connection.registry n := by
  cases h with
  | aside => exact .only rfl
  | unsent => exact .follow (s := s.holdHandle) rfl _
  | sent _ _ h => exact send_holdHandle_isApart h _

theorem whenLost_isApart (s : Store) (e : EndpointRef) :
    IsApart s.connection.registry (s.whenLost e) :=
  match e, s.whenLost e, s.loses e with
  | _, _, .aside _ => .only rfl
  | _, _, .last _ h => h.isApart

theorem sendClose_isApart (s : Store) : IsApart s.connection.registry s.sendClose :=
  .follow (congrArg Connection.registry s.connection_holdRegistered) _

theorem close_isApart {s : Store} {n : Next} (h : s.close = .ok n) :
    IsApart s.connection.registry n := by
  cases closesConnection h with
  | begun => exact sendClose_isApart (s.mapConnection ({ · with closeRequested := true }))
  | noted => exact .only rfl

theorem Destroys.isApart {s : Store} {n : Next} (h : s.Destroys n) :
    IsApart s.connection.registry n := by
  cases h with
  | aside => exact .only rfl
  | closing _ h => exact (close_isApart h).andThen _
  | closed => exact .follow rfl _

theorem releaseHandle_isApart (s : Store) : IsApart s.connection.registry s.releaseHandle :=
  match s.releaseHandle, s.releasesHandle with
  | _, .last _ => s.destroys.isApart.andThen _
  | _, .other _ => .only rfl

theorem rejectEndpoint_isApart (s : Store) (e : EndpointRef) :
    IsApart s.connection.registry (s.rejectEndpoint e) := by
  cases e with
  | channel c => exact .start (s := s.detach c) rfl rfl _
  | custom n => exact .start rfl rfl _

theorem closeEndpoint_isApart (s : Store) (e : EndpointRef) :
    IsApart s.connection.registry (s.closeEndpoint e) := by
  cases e with
  | channel c => exact closeChannel_isApart s c
  | custom n => exact .start rfl rfl _

theorem invalidateEndpoint_isApart (s : Store) (e : EndpointRef) :
    IsApart s.connection.registry (s.invalidateEndpoint e) := by
  cases e with
  | channel c => exact .only rfl
  | custom n => exact .start rfl rfl _

theorem evictNext_isApart (s : Store) (surplus : List (UInt16 × EndpointRef)) (limits : Tune) :
    IsApart s.connection.registry (s.evictNext surplus limits) := by
  -- what is discarded is noted, and starts nothing
  have noted {n : Next} (id : UInt16) (hn : IsApart s.connection.registry n) :
      IsApart s.connection.registry (n.noting (s.discard id).2) := by
    refine ⟨hn.registry, fun cb hcb => ?_⟩
    rcases List.mem_append.1 hcb with hcb | hcb
    · obtain ⟨f, -, hf⟩ := List.mem_map.1 hcb
      cases hf
    · exact hn.quiet cb hcb
  match surplus, s.evictNext surplus limits, s.evictsNext surplus limits with
  | _, _, .done => exact reply_isApart s _ _
  | _, _, .rejected id (e := e) rest _ =>
    have hn := rejectEndpoint_isApart ((s.discard id).1.hold e) e
    rw [connection_hold] at hn
    exact noted id (hn.andThen _)
  | _, _, .gone id rest _ => exact noted id (.follow (s := (s.discard id).1) rfl _)

/-! ## Received frames -/

/-- A frame for the connection itself leaves all ids where they are, or closes the connection. -/
theorem OnConnection.registry {s : Store} {body : Body} {n : Next} (h : s.OnConnection body n) :
    n.store.connection.registry = s.connection.registry ∨ n.store.connection.state = .closed := by
  cases h with
  | offered => exact .inl (reply_isApart (s.setState .negotiatingTuning) _ []).registry
  | openedToClose => exact .inl (sendClose_isApart (s.setState .connected)).registry
  | confirmed => exact .inr (congrArg Connection.state s.connection_shut)
  | heartbeat | fault | tuned | opened | closed | blocked | unblocked => exact .inl rfl

/-- No frame for the connection itself concerns an endpoint. -/
theorem OnConnection.quiet {s : Store} {body : Body} {n : Next} (h : s.OnConnection body n) :
    ∀ cb, .started cb ∈ n.log → cb.isDelivery = false := by
  cases h with
  | offered => exact (reply_isApart (s.setState .negotiatingTuning) _ []).quiet
  | tuned | closed | blocked | unblocked => exact (IsApart.start (s := s) rfl rfl _).quiet
  | heartbeat | fault | opened | openedToClose | confirmed => exact fun _ h => nomatch h

/-! ### On a channel -/

variable {s : Store} {c : Nat} {body : Body} {n : Next}

/-- A channel gives its id back when its close is confirmed, and for no other frame at once. -/
theorem OnChannel.registry (h : s.OnChannel c body n) :
    n.store.connection.registry = s.connection.registry ∨
      (body = .method (.channel .closeOk) ∧ (s.channel c).state = .closing) := by
  cases h with
  | closes reason => exact .inl (reply_isApart s _ _).registry
  | confirmed hs => exact .inr ⟨rfl, hs⟩
  | _ => exact .inl rfl

/-- Nothing is told of an answer but its octets. -/
theorem reply_callbacks (s : Store) (f : Frame) (tasks : List Task) :
    ∀ cb, .started cb ∈ (s.reply f tasks).log → ∃ octets, cb = .data octets := by
  intro cb hcb
  match s.reply f tasks, s.replies f tasks, hcb with
  | _, .sent hm, hcb =>
    obtain ⟨octets, -, -, ⟨-, rfl⟩ | ⟨-, rfl⟩⟩ := send_cases hm
    · simp only [Next.andThen, List.mem_cons, List.not_mem_nil, or_false, reduceCtorEq, false_or] at hcb
      exact ⟨octets, Event.started.inj hcb⟩
    · cases List.mem_singleton.1 hcb
  | _, .unsent _, hcb => cases hcb

/-- A channel tells only its own handler of a frame, and sends nothing but its answer. -/
theorem OnChannel.callbacks (h : s.OnChannel c body n) : ∀ cb, .started cb ∈ n.log →
    (∃ octets, cb = .data octets) ∨ cb.endpoint? = some (.channel c) := by
  cases h with
  | closes reason => exact fun cb hcb => .inl (reply_callbacks s _ _ cb hcb)
  | passedOver | fault => exact fun _ h => nomatch h
  | opened | confirmed | flow | content =>
    intro cb hcb
    rw [Event.started.inj (List.mem_singleton.1 hcb)]
    exact .inr rfl

theorem send_channels {s : Store} {f : Frame} {n : Next} (h : s.send f = .ok n) :
    n.store.channels = s.channels ∧ n.store.endpoints = s.endpoints := by
  obtain ⟨octets, -, -, ⟨-, rfl⟩ | ⟨-, rfl⟩⟩ := send_cases h <;> exact ⟨rfl, rfl⟩

theorem reply_channels (s : Store) (f : Frame) (tasks : List Task) :
    (s.reply f tasks).store.channels = s.channels ∧
      (s.reply f tasks).store.endpoints = s.endpoints :=
  match s.reply f tasks, s.replies f tasks with
  | _, .sent h => ⟨(send_channels h).1, (send_channels h).2⟩
  | _, .unsent _ => ⟨rfl, rfl⟩

/-- A violation is told to the connection. -/
theorem report_quiet (s : Store) (v : Violation) (processed : Nat) :
    ∀ cb, .started cb ∈ (s.report v processed).log → cb.isDelivery = false :=
  match s.report v processed, s.reportsFault v processed with
  | _, .late _ => fun _ h => nomatch h
  | _, .shut _ => fun _ h => nomatch h

theorem channel_congr {s s' : Store} (h : s'.channels = s.channels) (d : Nat) :
    s'.channel d = s.channel d := congrArg (fun l : List Channel => l[d]?.getD .gone) h

/-- What a channel does about a frame it does to itself and to the connection. -/
theorem OnChannel.others (h : s.OnChannel c body n) : n.store.endpoints = s.endpoints ∧
    ∀ d, d ≠ c → n.store.channel d = s.channel d := by
  cases h with
  | closes reason =>
    obtain ⟨hch, hen⟩ := reply_channels s (.ofChannel (s.channel c).id .closeOk)
      [.channelClosedByPeer c reason.replyText]
    exact ⟨hen, fun d _ => channel_congr hch d⟩
  | opened | confirmed => exact ⟨rfl, fun d hd => s.channel_mapChannel_of_ne hd _⟩
  | _ => exact ⟨rfl, fun _ _ => rfl⟩

/-! ### Other endpoints -/

theorem channel_hold_of_ne {e : EndpointRef} {c : Nat} (h : e ≠ .channel c) (s : Store) :
    (s.hold e).channel c = s.channel c := by
  cases e with
  | custom n => rfl
  | channel d => exact s.channel_mapChannel_of_ne (fun hc => h (congrArg _ hc.symm)) _

theorem endpoint_hold_of_ne {e : EndpointRef} {n : Nat} (h : e ≠ .custom n) (s : Store) :
    (s.hold e).endpoint n = s.endpoint n := by
  cases e with
  | channel c => rfl
  | custom k =>
    unfold endpoint hold mapEndpoint
    rw [List.getElem?_modify_ne _ _ fun hk => h (congrArg _ hk)]

/-- A frame concerns only the endpoint it is delivered to. -/
theorem deliver_others (s : Store) (e : EndpointRef) (f : Frame) :
    (∀ c, e ≠ .channel c → ((s.hold e).deliver e f).store.channel c = s.channel c) ∧
      ∀ n, e ≠ .custom n → ((s.hold e).deliver e f).store.endpoint n = s.endpoint n := by
  cases e with
  | custom k => exact ⟨fun c hc => channel_hold_of_ne hc s, fun n hn => endpoint_hold_of_ne hn s⟩
  | channel d =>
    obtain ⟨hen, hch⟩ := ((s.hold (.channel d)).receiveOnChannel_onChannel d f.body).others
    refine ⟨fun c hc => ?_, fun n _ => ?_⟩
    · exact (hch c fun h => hc (congrArg _ h.symm)).trans (channel_hold_of_ne hc s)
    · exact congrArg (fun l : List Endpoint => l[n]?.getD .gone) hen

theorem deliver_callbacks (s : Store) (e : EndpointRef) (f : Frame) :
    ∀ cb, .started cb ∈ (s.deliver e f).log →
      (∃ octets, cb = .data octets) ∨ cb.endpoint? = some e := by
  cases e with
  | channel c => exact (s.receiveOnChannel_onChannel c f.body).callbacks
  | custom n =>
    intro cb hcb
    rw [Event.started.inj (List.mem_singleton.1 hcb)]
    exact .inr rfl

end Store

/-! ## Tasks and calls -/

open Store Next

/-- The task may free ids. -/
def Task.movesIds : Task → Bool
  | .parse _ _ | .handled none _ (some _) | .unregister _ | .tuned _ | .clearRegistry
  | .closedByPeer _ | .channelClosedByPeer _ _ => true
  | _ => false

theorem Callback.isDelivery_of_isNotice {cb : Callback} (h : cb.isNotice = true) :
    cb.isDelivery = false := by
  cases cb <;> first | rfl | cases h

theorem Task.run_isApart {t : Task} {s : Store} {n : Next} (ht : t.isProper = true)
    (hm : t.movesIds = false) (h : t.run s = some n) : IsApart s.connection.registry n := by
  cases t with
  | user cb => cases h
  | parse | unregister | tuned | clearRegistry | closedByPeer | channelClosedByPeer => cases hm
  | notify cb => cases h; exact .start rfl (cb.isDelivery_of_isNotice ht) _
  | notifyAlive cb => cases h; exact .ite (.start rfl (cb.isDelivery_of_isNotice ht) _)
  | answer outcome => cases h; exact ⟨rfl, fun _ h => nomatch List.mem_singleton.1 h⟩
  | releaseHandle => cases h; exact releaseHandle_isApart s
  | loseHandle => cases h; exact .only rfl
  | release e =>
    cases h
    have hn := whenLost_isApart (s.lose e) e
    rwa [connection_lose] at hn
  | handled e p fault =>
    cases e with
    | some e => cases h; exact .follow rfl _
    | none =>
      cases fault with
      | none => cases h; exact .follow rfl _
      | some v => cases hm
  | evict surplus limits => cases h; exact .ite (evictNext_isApart s surplus limits)
  | requestHost => cases h; exact .ite (reply_isApart s _ _)
  | announce => cases h; exact .ite (.start rfl rfl _)
  | flush =>
    cases h
    split
    · refine .ite ⟨rfl, fun cb hcb => ?_⟩
      simp only [List.mem_cons, List.not_mem_nil, or_false, reduceCtorEq, false_or] at hcb
      rw [Event.started.inj hcb]
      rfl
    · exact .only rfl
  | closeEach es =>
    cases es with
    | nil => cases h; exact .only rfl
    | cons e es =>
      cases h
      split
      · exact (closeEndpoint_isApart s e).andThen _
      · exact .follow rfl _
  | sendClose => cases h; exact .ite ((offer_isApart s _).andThen _)
  | awaitCloseOk => cases h; exact .ite (.only (s := s.setState .closing) rfl)
  | invalidateEach es =>
    cases es with
    | nil => cases h; exact .only rfl
    | cons e es => cases h; exact (invalidateEndpoint_isApart s e).andThen _
  | destroyed => cases h; exact .only rfl
  | flowReply c active => cases h; exact .ite (reply_isApart s _ _)
  | handOver c => cases h; exact .only rfl
  | handOverConnection => cases h; exact .only rfl

/-- Only what is taken off a buffer is passed on to endpoints. -/
theorem Task.run_quiet {t : Task} {s : Store} {n : Next} (ht : t.isProper = true)
    (hp : ∀ buffer processed, t ≠ .parse buffer processed) (h : t.run s = some n) :
    ∀ cb, .started cb ∈ n.log → cb.isDelivery = false := by
  cases hm : t.movesIds with
  | false => exact (run_isApart ht hm h).quiet
  | true =>
    cases t with
    | parse buffer processed => exact absurd rfl (hp buffer processed)
    | handled e p fault =>
      cases e with
      | some e => cases hm
      | none =>
        cases fault with
        | none => cases hm
        | some v => cases h; exact report_quiet s v _
    | tuned limits => cases h; split <;> exact fun _ h => nomatch h
    | closedByPeer reason => cases h; split <;> exact fun _ h => nomatch h
    | unregister | clearRegistry => cases h; exact fun _ h => nomatch h
    | channelClosedByPeer c text => cases h; exact (IsApart.start (s := s.retire c) rfl rfl _).quiet
    | _ => cases hm

namespace Session

/-- The call may give out ids or free them. -/
def Call.movesIds : Call → Bool
  | .register _ | .unregister _ | .openChannel | .transportClosed => true
  | _ => false

theorem tryOnConnection_isApart {ε : Type} {s : Store} (outcome : Except ε Unit → Outcome)
    {n : Store → Except ε Next}
    (h : ∀ m, n s.holdHandle = .ok m → IsApart s.connection.registry m) :
    IsApart s.connection.registry (tryOnConnection s outcome n) :=
  match tryOnConnection s outcome n, tries s outcome n with
  | _, .accepted hm => (h _ hm).andThen _
  | _, .refused _ => .follow rfl _

theorem Call.run_isApart {c : Call} (s : Store) (hm : c.movesIds = false) :
    IsApart s.connection.registry (c.run s) := by
  cases c with
  | register | unregister | openChannel | transportClosed => cases hm
  | send f =>
    show IsApart _ (tryOnConnection s .sent (·.send f))
    exact tryOnConnection_isApart _ fun m hm => send_isApart (s := s.holdHandle) hm
  | close =>
    show IsApart _ (tryOnConnection s .closed Store.close)
    exact tryOnConnection_isApart _ fun m hm => close_isApart (s := s.holdHandle) hm
  | destroy => exact (s.holdHandle.destroys.isApart).andThen _
  | sendOn c body =>
    refine IsApart.andThen ?_ _
    split
    · rename_i n h; exact sendOn_isApart (s := s.hold (.channel c)) h
    · exact .only rfl
  | closeChannel c => exact (closeChannel_isApart (s.hold (.channel c)) c).andThen _
  | dropChannel c =>
    exact (whenLost_isApart (s.mapChannel c fun ch => { ch with owned := ch.owned - 1 }) _).andThen _
  | parse | cloneHandle | dropHandle | cloneChannel | newEndpoint | setEndpointId | dropEndpoint =>
    exact ⟨rfl, fun _ h => nomatch h⟩

/-- No call tells an endpoint of a frame. -/
theorem Call.run_quiet (c : Call) (s : Store) :
    ∀ cb, .started cb ∈ (c.run s).log → cb.isDelivery = false := by
  cases hm : c.movesIds with
  | false => exact (run_isApart s hm).quiet
  | true =>
    cases c with
    | register | unregister => exact fun _ h => nomatch h
    | transportClosed =>
      show ∀ cb, .started cb ∈ (s.holdHandle.transportClosed).log → _
      match s.holdHandle.transportClosed, s.holdHandle.losesTransport with
      | _, .aside _ => exact fun _ h => nomatch h
      | _, .shut _ => exact fun _ h => nomatch h
    | openChannel =>
      show ∀ cb, .started cb ∈ (s.holdHandle.openChannel).2.log → _
      obtain ⟨e, h, -⟩ | ⟨id, r, n, -, -, hn, h⟩ := s.holdHandle.openChannel_cases
      · rw [h]
        exact fun _ h => nomatch h
      · rw [h]
        exact (send_isApart hn).quiet
    | _ => cases hm

end Session

end AmqpSession
