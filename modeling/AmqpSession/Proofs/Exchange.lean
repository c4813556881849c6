/-
A client and a server that keeps to the rules, with frames on their way in both directions. The
server reads the frames of the client in order, answers every request for a channel to be opened or
closed, and may push data onto a channel that it has open; the client does with its channels what it
likes, and gets what the server sent whenever it does. The connection survives this if and only if no
opening is confirmed to a channel that was closed in the meantime (`peaceful_iff`).
-/
import AmqpSession.Proofs.Stage

namespace AmqpSession

open Wire Session

/-- The client, the server and what is on its way between them. -/
structure Exchange where
  /-- The client. -/
  session : Session
  /-- How many of the frames that went out the server has read. -/
  read : Nat
  /-- The channels that are open as the server sees it. -/
  opened : List UInt16
  /-- What the server sent and the client did not get yet, the first frame first. -/
  flight : List Frame

/-- What happens next. -/
inductive Act where
  /-- User code of the client does something with a channel. -/
  | call (call : Session.Call)
  /-- The server reads a frame. -/
  | read
  /-- The server sends something on its own. -/
  | push (frame : Frame)
  /-- The client gets the first frames that are on their way to it. -/
  | deliver (arrived : List Frame)

/-! ## The server -/

/-- Open is opened with an answer, close is closed with an answer, and nothing else is answered. -/
def answersTo (f : Frame) : List Frame :=
  match f.body with
  | .method (.channel .openRequest) => [openAnswer f.channel]
  | .method (.channel (.close _)) => [closeAnswer f.channel]
  | _ => []

/-- The channels that are open once a frame was answered. -/
def openedAfter (f : Frame) (opened : List UInt16) : List UInt16 :=
  match f.body with
  | .method (.channel .openRequest) => f.channel :: opened
  | .method (.channel (.close _)) => opened.filter (· != f.channel)
  | _ => opened

/-- Frames as they travel, one behind the other. -/
def octetsOf (fs : List Frame) : Bytes := fs.flatMap (·.toWire.octets)

namespace Exchange

/-- What the client sent and the server has not read yet, the first frame first. -/
def unread (e : Exchange) : List Frame := (handedOver e.session.log).drop e.read

/-- The first part of what the client does in an act. -/
inductive Begins (e : Exchange) : Act → Session → Prop where
  | call {c : Session.Call} {σ : Session} (hc : c.isClients = true) (h : e.session.call? c = some σ) :
      Begins e (.call c) σ
  | deliver {arrived rest : List Frame} {σ : Session} (hf : e.flight = arrived ++ rest)
      (h : e.session.call? (.parse (octetsOf arrived)) = some σ) : Begins e (.deliver arrived) σ

/-- An act, at the end of which user code of the client is not busy. -/
inductive Step (e : Exchange) : Act → Exchange → Prop where
  | call {c : Session.Call} {σ τ : Session} (h : e.Begins (.call c) σ) (hσ : σ.Settles τ) :
      Step e (.call c) { e with session := τ }
  | read {f : Frame} {rest : List Frame} (h : e.unread = f :: rest) :
      Step e .read { e with
        read := e.read + 1
        opened := openedAfter f e.opened
        flight := e.flight ++ answersTo f }
  | push {f : Frame} (ho : f.channel ∈ e.opened) (hb : f.body.isPushable = true)
      (hf : f.Fits e.session.store.connection.maxFrameSize) :
      Step e (.push f) { e with flight := e.flight ++ [f] }
  | deliver {arrived rest : List Frame} {σ τ : Session} (h : e.Begins (.deliver arrived) σ)
      (hf : e.flight = arrived ++ rest) (hσ : σ.Settles τ) :
      Step e (.deliver arrived) { e with session := τ, flight := rest }

/-- A run, with its acts and where each took place, the latest first. -/
inductive Course (e₀ : Exchange) : List (Exchange × Act) → Exchange → Prop where
  | nil : Course e₀ [] e₀
  | cons {acts : List (Exchange × Act)} {e e' : Exchange} {a : Act} (h : Course e₀ acts e)
      (hs : Step e a e') : Course e₀ ((e, a) :: acts) e'

/-- The connection was just established. -/
structure Fresh (e : Exchange) : Prop where
  tasks : e.session.tasks = []
  connected : e.session.store.connection.state = .connected
  alive : e.session.store.connection.alive = true
  owned : e.session.store.connection.owned ≠ 0
  queue : e.session.store.connection.queue = []
  channels : e.session.store.channels = []
  registry : ∀ id, e.session.store.connection.registry.get? id = none
  limit : e.session.store.connection.maxFrameSize = 0 ∨
    frameMinSize ≤ e.session.store.connection.maxFrameSize
  quiet : NoError e.session.log
  read : e.read = (handedOver e.session.log).length
  opened : e.opened = []
  flight : e.flight = []

/-- What the client asked for on a channel of a connection that was still being negotiated. -/
inductive Asked : ChannelState → List Body → Prop where
  | opened : Asked .opening [openBody]
  /-- The channel was closed before the server knew of it. -/
  | withdrawn : Asked .closing [openBody, closeBody]

theorem Asked.stage {state : ChannelState} {asked : List Body} (h : Asked state asked) {isOpen : Prop}
    (ho : ¬ isOpen) : Stage (some state) isOpen [] asked := by
  cases h with
  | opened => exact .requested ho
  | withdrawn => exact .withdrawn ho

/-- The connection is established, and nothing that the client asked for on a channel was answered yet.
Channels may have been opened during negotiation, and closed again. -/
structure Unanswered (e : Exchange) : Prop where
  tasks : e.session.tasks = []
  rests : e.session.store.Rests
  limit : e.session.store.connection.maxFrameSize = 0 ∨
    frameMinSize ≤ e.session.store.connection.maxFrameSize
  quiet : NoError e.session.log
  read_le : e.read ≤ (handedOver e.session.log).length
  opened : e.opened = []
  flight : e.flight = []
  requests : ∀ f ∈ e.unread, f.body.isRequest = true → f.channel ≠ 0
  asked : ∀ {id state}, e.session.store.stateOn id = some state → Asked state (requestsOn id e.unread)

/-- The client is still connected, and no error was reported to its user code. -/
def Peaceful (e : Exchange) : Prop :=
  e.session.store.connection.state = .connected ∧ NoError e.session.log

/-- The last use of an id has not come to its end on both sides. -/
def lingers (e : Exchange) (id : UInt16) : Bool :=
  e.opened.contains id || e.flight.any (·.channel == id) ||
    e.unread.any fun f => f.channel == id && f.body.isRequest

/-- A channel is opened under such an id. Ids come round after 65535 others. -/
def reuses (e : Exchange) (a : Act) : Bool :=
  match a with
  | .call .openChannel =>
    match e.session.store.connection.registry.register (.channel e.session.store.channels.length) with
    | .ok (id, _) => e.lingers id
    | .error _ => false
  | _ => false

/-- The client is told that a channel is open that it closed before. -/
def isLate (e : Exchange) (a : Act) : Bool :=
  match a with
  | .deliver arrived => arrived.any fun f =>
      f.body == openOkBody && e.session.store.stateOn f.channel == some .closing
  | _ => false

/-- The client is told that a channel is closed. -/
def confirms (e : Exchange) (a : Act) (c : Nat) : Bool :=
  match a with
  | .deliver arrived => arrived.contains (closeAnswer (e.session.store.channel c).id)
  | _ => false

end Exchange

/-! ## On the way to agree -/

variable {f : Frame}

/-- Client and server are on the way to agree on every channel. -/
structure OnTrack (s : Store) (opened : List UInt16) (flight unread : List Frame) : Prop where
  rests : s.Rests
  limit : s.connection.maxFrameSize = 0 ∨ frameMinSize ≤ s.connection.maxFrameSize
  servers : ∀ f ∈ flight, f.channel ≠ 0 ∧ f.body.isServers ∧ f.Fits s.connection.maxFrameSize
  requests : ∀ f ∈ unread, f.body.isRequest = true → f.channel ≠ 0
  nonzero : ∀ id ∈ opened, id ≠ 0
  stage : ∀ id, Stage (s.stateOn id) (id ∈ opened) (bodiesOn id flight) (requestsOn id unread)

theorem Wire.Body.cases_isRequest {body : Body} (h : body.isRequest = true) :
    body = openBody ∨ ∃ reason, body = .method (.channel (.close reason)) := by
  unfold isRequest at h
  split at h
  · exact .inl rfl
  · exact .inr ⟨_, rfl⟩
  · cases h

theorem answersTo_open (h : f.body = openBody) : answersTo f = [openAnswer f.channel] := by
  rw [answersTo, h]
  rfl

theorem answersTo_close {reason : Close} (h : f.body = .method (.channel (.close reason))) :
    answersTo f = [closeAnswer f.channel] := by
  rw [answersTo, h]

theorem answersTo_of_not (h : f.body.isRequest = false) : answersTo f = [] := by
  unfold answersTo
  split
  · rename_i hb
    rw [hb] at h
    cases h
  · rename_i hb
    rw [hb] at h
    cases h
  · rfl

theorem openedAfter_of_not (h : f.body.isRequest = false) (opened : List UInt16) :
    openedAfter f opened = opened := by
  unfold openedAfter
  split
  · rename_i hb
    rw [hb] at h
    cases h
  · rename_i hb
    rw [hb] at h
    cases h
  · rfl

/-- A short method fits into every limit. -/
theorem fits_of_short {max : UInt32} (hm : max = 0 ∨ frameMinSize ≤ max) (channel : UInt16) {m : Method}
    (hf : m.encode.fault = none) (hl : m.encode.octets.length ≤ 8) :
    (Frame.mk channel (.method m)).Fits max := by
  have hl' : m.encode.octets.length < UInt32.size := Nat.lt_of_le_of_lt hl (by decide)
  obtain ⟨octets, hw⟩ := Frame.exists_toWire channel hf hl'
  have he : (Frame.mk channel (.method m)).encode = Frame.encodePayload .method channel m.encode := rfl
  have hlen : octets.length = m.encode.octets.length + 8 := Frame.length_of_encodePayload he rfl hw
  refine ⟨octets, hw, Frame.exceeds_eq_false_iff.2 (hm.imp_right fun hm => ?_)⟩
  have hmin : 4096 ≤ max.toNat := UInt32.le_iff_toNat_le.1 hm
  omega

/-- Answers can be sent within every limit. -/
theorem servers_of_mem_answersTo {max : UInt32} (hm : max = 0 ∨ frameMinSize ≤ max) {g : Frame}
    (hg : g ∈ answersTo f) : g.channel = f.channel ∧ g.body.isServers ∧ g.Fits max := by
  cases hr : f.body.isRequest with
  | false =>
    rw [answersTo_of_not hr] at hg
    cases hg
  | true =>
    obtain hb | ⟨reason, hb⟩ := Body.cases_isRequest hr
    · rw [answersTo_open hb] at hg
      rw [List.mem_singleton.1 hg]
      exact ⟨rfl, .inl rfl, fits_of_short hm _ rfl (by decide)⟩
    · rw [answersTo_close hb] at hg
      rw [List.mem_singleton.1 hg]
      exact ⟨rfl, .inr (.inl rfl), fits_of_short hm _ rfl (by decide)⟩

theorem openedAfter_open (h : f.body = openBody) (opened : List UInt16) :
    openedAfter f opened = f.channel :: opened := by
  rw [openedAfter, h]
  rfl

theorem openedAfter_close {reason : Close} (h : f.body = .method (.channel (.close reason)))
    (opened : List UInt16) : openedAfter f opened = opened.filter (· != f.channel) := by
  rw [openedAfter, h]

namespace OnTrack

variable {s s' : Store} {opened : List UInt16} {flight unread fs : List Frame} {f : Frame} {id : UInt16}
  {state : Option ChannelState}

/-- The client did something on one channel. -/
theorem move {call : Session.Call} (h : OnTrack s opened flight unread)
    (hm : ClientMove s call fs id state)
    (ht : s.Turns s' id state)
    (hnew : ∀ r, call = .openChannel →
      s.connection.registry.register (.channel s.channels.length) = .ok (id, r) →
        id ∉ opened ∧ bodiesOn id flight = [] ∧ requestsOn id unread = []) :
    OnTrack s' opened flight (unread ++ fs) where
  rests := ht.rests
  limit := by rw [ht.connection]; exact h.limit
  servers := by rw [ht.connection]; exact h.servers
  requests f hf hr := by
    rcases List.mem_append.1 hf with hf | hf
    · exact h.requests f hf hr
    · exact hm.ne_zero h.rests hf hr
  nonzero := h.nonzero
  stage x := by
    rw [ht.stateOn x, requestsOn_append]
    by_cases hx : x = id
    · subst hx
      rw [if_pos rfl]
      exact (h.stage x).move hm hnew
    · -- what was sent is on the one channel
      have hfs : requestsOn x fs = [] := requestsOn_eq_nil fun f hf hr hfx =>
        hx (hfx.symm.trans (hm.request hf hr))
      rw [if_neg hx, hfs, List.append_nil]
      exact h.stage x

/-- The server read a frame and answered it. -/
theorem read (h : OnTrack s opened flight (f :: unread)) :
    OnTrack s (openedAfter f opened) (flight ++ answersTo f) unread where
  rests := h.rests
  limit := h.limit
  servers g hg := by
    rcases List.mem_append.1 hg with hg | hg
    · exact h.servers g hg
    · have hr : f.body.isRequest = true := by
        cases hr : f.body.isRequest with
        | true => rfl
        | false =>
          rw [answersTo_of_not hr] at hg
          cases hg
      obtain ⟨hchannel, hservers⟩ := servers_of_mem_answersTo h.limit hg
      exact ⟨hchannel ▸ h.requests f List.mem_cons_self hr, hservers⟩
  requests g hg := h.requests g (List.mem_cons_of_mem _ hg)
  nonzero x hx := by
    cases hr : f.body.isRequest with
    | false =>
      rw [openedAfter_of_not hr] at hx
      exact h.nonzero x hx
    | true =>
      obtain hb | ⟨reason, hb⟩ := Body.cases_isRequest hr
      · rw [openedAfter_open hb] at hx
        rcases List.mem_cons.1 hx with rfl | hx
        · exact h.requests f List.mem_cons_self hr
        · exact h.nonzero x hx
      · rw [openedAfter_close hb] at hx
        exact h.nonzero x (List.mem_filter.1 hx).1
  stage x := by
    have hstage := h.stage x
    rw [bodiesOn_append]
    cases hr : f.body.isRequest with
    | false =>
      rw [requestsOn_cons_of_not hr] at hstage
      rw [answersTo_of_not hr, openedAfter_of_not hr]
      show Stage _ _ (bodiesOn x flight ++ []) _
      rw [List.append_nil]
      exact hstage
    | true =>
      -- a request is answered on its own channel, and the others stay as they are
      by_cases hx : f.channel = x
      · rw [requestsOn_cons hr hx] at hstage
        obtain hb | ⟨reason, hb⟩ := Body.cases_isRequest hr
        · have hanswer : bodiesOn x [openAnswer f.channel] = [openOkBody] := bodiesOn_cons hx
          rw [hb] at hstage
          rw [answersTo_open hb, openedAfter_open hb, hanswer]
          exact hstage.grant (hx ▸ List.mem_cons_self)
        · have hanswer : bodiesOn x [closeAnswer f.channel] = [closeOkBody] := bodiesOn_cons hx
          rw [answersTo_close hb, openedAfter_close hb, hanswer]
          refine hstage.confirm hr (by rw [hb]; nofun) fun hm => ?_
          exact bne_iff_ne.1 (List.mem_filter.1 hm).2 hx.symm
      · rw [requestsOn_cons_of_ne hx] at hstage
        have hanswers : bodiesOn x (answersTo f) = [] := bodiesOn_eq_nil fun g hg =>
          (servers_of_mem_answersTo h.limit hg).1 ▸ hx
        have hopened : x ∈ openedAfter f opened ↔ x ∈ opened := by
          obtain hb | ⟨reason, hb⟩ := Body.cases_isRequest hr
          · rw [openedAfter_open hb, List.mem_cons, or_iff_right (Ne.symm hx)]
          · rw [openedAfter_close hb, List.mem_filter, and_iff_left (bne_iff_ne.2 (Ne.symm hx))]
        rw [hanswers, List.append_nil]
        exact hstage.congr hopened.symm

/-- The server pushed something on a channel that it has open. -/
theorem push (h : OnTrack s opened flight unread) (ho : f.channel ∈ opened)
    (hb : f.body.isPushable = true) (hf : f.Fits s.connection.maxFrameSize) :
    OnTrack s opened (flight ++ [f]) unread where
  rests := h.rests
  limit := h.limit
  servers g hg := by
    rcases List.mem_append.1 hg with hg | hg
    · exact h.servers g hg
    · rw [List.mem_singleton.1 hg]
      exact ⟨h.nonzero _ ho, .inr (.inr hb), hf⟩
  requests := h.requests
  nonzero := h.nonzero
  stage x := by
    rw [bodiesOn_append]
    by_cases hx : f.channel = x
    · subst hx
      rw [bodiesOn_cons rfl]
      exact (h.stage f.channel).push ho hb
    · rw [bodiesOn_cons_of_ne hx]
      show Stage _ _ (bodiesOn x flight ++ []) _
      rw [List.append_nil]
      exact h.stage x

/-- A frame arrived that has its place. -/
theorem arrive (h : OnTrack s opened (f :: flight) unread)
    (hnot : f.body = openOkBody → s.stateOn f.channel ≠ some .closing) (buffer : Bytes) (processed : Nat)
    (base : List Task) :
    ∃ fs s' state, ServerMove s f state ∧ s.Turns s' f.channel state ∧
      OnTrack s' opened flight (unread ++ fs) ∧
      (Next.only s).Leads (.parse (f.toWire.octets ++ buffer) processed :: base) fs s'
        (.parse buffer (processed + f.toWire.octets.length) :: base) := by
  obtain ⟨hf0, hservers, hfits⟩ := h.servers f List.mem_cons_self
  have hstage := h.stage f.channel
  rw [bodiesOn_cons rfl] at hstage
  obtain ⟨state, hm, hstage'⟩ | ⟨hclosing, hb⟩ := hstage.arrive
  · obtain ⟨fs, s', hfs, hturns, hleads⟩ := hm.leads h.rests hf0 hservers hfits
    refine ⟨fs, s', state, hm, hturns, ?_, hleads⟩
    -- what goes out in answer to a frame of the server is no request
    have hrequests : ∀ x, requestsOn x (unread ++ fs) = requestsOn x unread := by
      intro x
      have hnone : requestsOn x fs = [] := requestsOn_eq_nil fun g hg hr =>
        absurd ((hfs g hg).symm.trans hr) Bool.false_ne_true
      rw [requestsOn_append, hnone, List.append_nil]
    exact
      { rests := hturns.rests
        limit := by rw [hturns.connection]; exact h.limit
        servers := fun g hg => by
          rw [hturns.connection]
          exact h.servers g (List.mem_cons_of_mem _ hg)
        requests := fun g hg hr => by
          rcases List.mem_append.1 hg with hg | hg
          · exact h.requests g hg hr
          · rw [hfs g hg] at hr
            cases hr
        nonzero := h.nonzero
        stage := fun x => by
          rw [hturns.stateOn x, hrequests]
          by_cases hx : x = f.channel
          · subst hx
            rw [if_pos rfl]
            exact hstage'
          · rw [if_neg hx]
            have hx' := h.stage x
            rw [bodiesOn_cons_of_ne (Ne.symm hx)] at hx'
            exact hx' }
  · exact absurd hclosing (hnot hb)

end OnTrack

/-! ## Deliveries -/

/-- A channel is closing only if it was closing before. -/
theorem ServerMove.stateOn_closing {s s' : Store} {state : Option ChannelState}
    (h : ServerMove s f state) (ht : s.Turns s' f.channel state) {id : UInt16}
    (hid : s'.stateOn id = some .closing) : s.stateOn id = some .closing := by
  rw [ht.stateOn id] at hid
  by_cases hx : id = f.channel
  · rw [if_pos hx] at hid
    subst hid
    rw [hx]
    cases h with
    | passes h => exact h
  · rwa [if_neg hx] at hid

/-- What became of the channels when so many frames had arrived. -/
structure Store.Receives (s s' : Store) (arrived : List Frame) : Prop where
  retired : ∀ {c}, s.IsRetired c → s'.IsRetired c
  confirmed : ∀ {c id}, closeAnswer id ∈ arrived →
    s.connection.registry.get? id = some (.channel c) → s'.IsRetired c

theorem ServerMove.receives {s s₁ s' : Store} {state : Option ChannelState} {arrived : List Frame}
    (h : ServerMove s f state) (ht : s.Turns s₁ f.channel state) (hr : s₁.Receives s' arrived) :
    s.Receives s' (f :: arrived) where
  retired hc := hr.retired (ht.retired hc)
  confirmed {c id} hm hg := by
    rcases List.mem_cons.1 hm with rfl | hm
    · have hst := Store.stateOn_of_get? hg
      cases h with
      | nobody h =>
        rw [show (closeAnswer id).channel = id from rfl, hst] at h
        cases h
      | ready _ hb => cases hb
      | confirmed => exact hr.retired (ht.left hg rfl)
      | passes _ _ hb => cases hb
    · rcases ht.get? hg with hg' | ⟨rfl, hnone⟩
      · exact hr.confirmed hm hg'
      · exact hr.retired (ht.left hg hnone)

namespace OnTrack

variable {s s' : Store} {opened : List UInt16} {flight unread arrived : List Frame}

/-- No opening is confirmed to a channel that is closing. -/
theorem deliver (h : OnTrack s opened (arrived ++ flight) unread)
    (hnot : ∀ g ∈ arrived, g.body = openOkBody → s.stateOn g.channel ≠ some .closing)
    (processed : Nat) (base : List Task) :
    ∃ fs s' processed', OnTrack s' opened flight (unread ++ fs) ∧ s.Receives s' arrived ∧
      s'.connection.held = s.connection.held ∧
      (Next.only s).Leads (.parse (octetsOf arrived) processed :: base) fs s'
        (.parse [] processed' :: base) := by
  induction arrived generalizing s unread processed with
  | nil =>
    refine ⟨[], s, processed, ?_, ⟨id, nofun⟩, rfl, .refl s _⟩
    rw [List.append_nil]
    exact h
  | cons f arrived ih =>
    obtain ⟨fs, s₁, state, hm, hturns, hon, hleads⟩ := h.arrive (hnot f List.mem_cons_self)
      (octetsOf arrived) processed base
    -- a frame that has its place takes no channel to closing, so the others are not late either
    have hnot' : ∀ g ∈ arrived, g.body = openOkBody → s₁.stateOn g.channel ≠ some .closing :=
      fun g hg hb hst => hnot g (List.mem_cons_of_mem _ hg) hb (hm.stateOn_closing hturns hst)
    obtain ⟨fs', s', processed', hon', hreceives, hheld, hleads'⟩ := ih hon hnot' _
    refine ⟨fs ++ fs', s', processed', ?_, hm.receives hturns hreceives, ?_, hleads.trans hleads'⟩
    · rw [← List.append_assoc]
      exact hon'
    · rw [hheld, hturns.connection]

/-- An opening is confirmed to a channel that is closing: an error is about to be reported. -/
theorem deliver_late (h : OnTrack s opened (arrived ++ flight) unread)
    (hlate : ∃ g ∈ arrived, g.body = openOkBody ∧ s.stateOn g.channel = some .closing)
    (processed : Nat) (base : List Task) :
    ∃ fs s' es text rest', (Next.only s).Leads (.parse (octetsOf arrived) processed :: base) fs s'
      (.invalidateEach es :: .notify (.error text) :: rest') := by
  induction arrived generalizing s unread processed with
  | nil =>
    obtain ⟨g, hg, -⟩ := hlate
    cases hg
  | cons f arrived ih =>
    obtain ⟨g, hg, hb, hst⟩ := hlate
    by_cases hfirst : f.body = openOkBody ∧ s.stateOn f.channel = some .closing
    · obtain ⟨s', es, text, rest', hleads⟩ := Next.Leads.parse_late h.rests hfirst.1
        (h.servers f List.mem_cons_self).2.2 hfirst.2 (octetsOf arrived) processed base
      exact ⟨[], s', es, text, rest', hleads⟩
    · have hmem : g ∈ arrived := by
        rcases List.mem_cons.1 hg with rfl | hg
        · exact absurd ⟨hb, hst⟩ hfirst
        · exact hg
      obtain ⟨fs, s₁, state, hm, hturns, hon, hleads⟩ := h.arrive
        (fun hb' hst' => hfirst ⟨hb', hst'⟩) (octetsOf arrived) processed base
      have hst' : s₁.stateOn g.channel = some .closing := by
        rw [hturns.stateOn]
        by_cases hx : g.channel = f.channel
        · -- the late confirmation would have been the first frame on its channel
          have hstage := h.stage f.channel
          rw [← hx, hst, hx, List.cons_append, bodiesOn_cons rfl] at hstage
          have hin : openOkBody ∈ bodiesOn f.channel (arrived ++ flight) := by
            rw [← hb, ← hx]
            exact mem_bodiesOn (List.mem_append_left _ hmem)
          exact absurd ⟨hstage.first_of_mem hin, hx ▸ hst⟩ hfirst
        · rw [if_neg hx]
          exact hst
      obtain ⟨fs', s', es, text, rest', hleads'⟩ := ih hon ⟨g, hmem, hb, hst'⟩ _
      exact ⟨_, s', es, text, rest', hleads.trans hleads'⟩

theorem holdHandle (h : OnTrack s opened flight unread) : OnTrack s.holdHandle opened flight unread :=
  { h with rests := h.rests.holdHandle }

theorem loseHandle (h : OnTrack s opened flight unread) : OnTrack s.loseHandle opened flight unread :=
  { h with rests := h.rests.loseHandle }

end OnTrack

/-- A call to parse ends. -/
theorem Next.Leads.parse_end {s : Store} (ho : s.connection.owned ≠ 0) (hh : s.connection.held ≠ 0)
    (processed : Nat) : (only s).Leads [.parse [] processed] [] s.loseHandle [] := by
  have hrun : Task.run (.parse [] processed) s = some (.follow s (Store.endOfParse processed)) := rfl
  have hrelease : (only s).Leads [.releaseHandle, .answer (.consumed processed)] [] s.loseHandle [] := by
    have h := releaseHandle (s := s.loseHandle) ho
      (answer (o := .consumed processed) (refl s.loseHandle []))
    rw [Store.holdHandle_loseHandle s hh] at h
    exact h
  exact task hrun hrelease

end AmqpSession
