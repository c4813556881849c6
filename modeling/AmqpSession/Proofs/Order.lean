/-
The order of frames on one channel. What this side sends of itself there is handed over in the order in
which it was accepted, and never before the connection is established. The exception is user code that
sends a frame of negotiation on a channel: such a frame goes out at once, whatever its channel, and so
ahead of what is held back. `order_kept_iff`: the order is kept exactly if no frame overtakes
(`Moment.Overtakes`), and a channel's request to be opened is taken first in any case.
-/
import AmqpSession.Proofs.Barred
import AmqpSession.Proofs.Own
import AmqpSession.Proofs.Shutdown

namespace AmqpSession

open Wire

/-! ## What the log tells of a channel -/

/-- The frames on the channel that went to the transport, the first one first. -/
def handedOn (c : UInt16) : List Event → List Frame
  | [] => []
  | .handed f :: log => if f.channel = c then handedOn c log ++ [f] else handedOn c log
  | _ :: log => handedOn c log

/-- The frames on the channel that were accepted, the first one first, without those that were
discarded. -/
def keptOn (c : UInt16) : List Event → List Frame
  | [] => []
  | .accepted f :: log => if f.channel = c then keptOn c log ++ [f] else keptOn c log
  | .discarded f :: log => if f.channel = c then eraseLast (keptOn c log) f else keptOn c log
  | _ :: log => keptOn c log

/-- The frames that are held back for the channel. -/
def Connection.heldOn (k : Connection) (c : UInt16) : List Frame := k.queue.filter (·.channel == c)

/-- What went out on the channel, then what is held back for it, is what was accepted on it. -/
def Connection.InOrderOn (k : Connection) (c : UInt16) (log : List Event) : Prop :=
  handedOn c log ++ k.heldOn c = keptOn c log

variable {c : UInt16} {log : List Event}

theorem handedOn_note {t : Option Task} {e : Event} (he : e.isNoteOf t = true) (log : List Event) :
    handedOn c (e :: log) = handedOn c log := by
  cases e with
  | handed => cases he
  | _ => rfl

theorem keptOn_note {t : Option Task} {e : Event} (he : e.isNoteOf t = true) (log : List Event) :
    keptOn c (e :: log) = keptOn c log := by
  cases e with
  | accepted | discarded => cases he
  | _ => rfl

theorem handedOn_discarded (fs : List Frame) (log : List Event) :
    handedOn c ((fs.map .discarded).reverse ++ log) = handedOn c log := by
  induction fs generalizing log with
  | nil => rfl
  | cons f fs ih =>
    rw [List.map_cons, List.reverse_cons, List.append_assoc, List.singleton_append, ih]
    rfl

theorem keptOn_discarded (fs : List Frame) (log : List Event) :
    keptOn c ((fs.map .discarded).reverse ++ log) =
      (fs.filter (·.channel == c)).foldl eraseLast (keptOn c log) := by
  induction fs generalizing log with
  | nil => rfl
  | cons f fs ih =>
    rw [List.map_cons, List.reverse_cons, List.append_assoc, List.singleton_append, ih, keptOn]
    by_cases hf : f.channel = c
    · rw [if_pos hf, List.filter_cons_of_pos (by simpa using hf), List.foldl_cons]
    · rw [if_neg hf, List.filter_cons_of_neg (by simpa using hf)]

/-! ## One change -/

namespace Connection

variable {t : Option Task} {k k' : Connection} {es : List Event}

theorem heldOn_of_queue (h : k'.queue = k.queue) : k'.heldOn c = k.heldOn c := by rw [heldOn, h, heldOn]

theorem InOrderOn.congr (h : k.InOrderOn c log) (hq : k'.queue = k.queue) : k'.InOrderOn c log := by
  rwa [InOrderOn, heldOn_of_queue hq]

theorem InOrderOn.discard (h : k.InOrderOn c log) (id : UInt16) :
    InOrderOn { k with queue := k.queue.filter (·.channel != id) } c
      (((k.queue.filter (·.channel == id)).map .discarded).reverse ++ log) := by
  have hswap : ∀ p : Frame → Bool, (k.queue.filter p).filter (·.channel == c) = (k.heldOn c).filter p :=
    fun p => List.filter_comm ..
  show _ ++ (k.queue.filter _).filter _ = _
  rw [handedOn_discarded, keptOn_discarded, ← h, hswap, hswap]
  exact (eraseLast_filter (·.channel == id) _ _).symm

/-- A frame may go out at once if nothing is held back that was accepted before it. -/
theorem InOrderOn.pass (h : k.InOrderOn c log) {f : Frame} (hf : f.channel = c → k.heldOn c = [])
    (octets : Bytes) : k.InOrderOn c (.started (.data octets) :: .handed f :: .accepted f :: log) := by
  show handedOn c (.handed f :: .accepted f :: log) ++ _ = keptOn c (.accepted f :: log)
  rw [handedOn, keptOn]
  by_cases hfc : f.channel = c
  · rw [InOrderOn, hf hfc, List.append_nil] at h
    rw [if_pos hfc, if_pos hfc, hf hfc, List.append_nil, ← h]
    rfl
  · rw [if_neg hfc, if_neg hfc]
    exact h

theorem InOrderOn.enqueue (h : k.InOrderOn c log) {f : Frame} (hq : k'.queue = k.queue ++ [f]) :
    k'.InOrderOn c (.accepted f :: log) := by
  show handedOn c log ++ k'.queue.filter _ = keptOn c (.accepted f :: log)
  rw [keptOn, hq, List.filter_append]
  by_cases hf : f.channel = c
  · rw [if_pos hf, ← h, List.append_assoc]
    simp [heldOn, hf]
  · rw [if_neg hf, ← h]
    simp [heldOn, hf]

/-- Frames that are no part of negotiation wait their turn. -/
theorem Move.inOrderOn (hm : Move t k es k') (h : k.InOrderOn c log)
    (hpass : ∀ f, .accepted f ∈ es → f.channel = c → f.isPartOfHandshake = false) :
    k'.InOrderOn c (es.reverse ++ log) := by
  cases hm with
  | note e he =>
    show handedOn c (e :: log) ++ _ = keptOn c (e :: log)
    rw [handedOn_note he, keptOn_note he]
    exact h
  | pass f octets hw ho hd =>
    refine h.pass (fun hf => ?_) octets
    have hq : k.queue = [] := (hd.resolve_right (by simp [hpass f (by simp) hf])).2
    rw [heldOn, hq]
    rfl
  | enqueue f octets hw ho hd => exact h.enqueue rfl
  | confirm => exact h
  | dequeue f rest ht hq ha =>
    show handedOn c (.handed f :: log) ++ rest.filter _ = keptOn c log
    rw [handedOn, ← h, heldOn, hq]
    by_cases hf : f.channel = c <;> simp [hf]
  | discard id e rest limits ht ha => exact h.discard id
  | _ => exact h

theorem Moves.inOrderOn (hms : Moves t k es k') (h : k.InOrderOn c log)
    (hpass : ∀ f, .accepted f ∈ es → f.channel = c → f.isPartOfHandshake = false) :
    k'.InOrderOn c (es.reverse ++ log) := by
  induction hms with
  | refl => exact h
  | tail _ hm ih =>
    rw [List.reverse_append, List.append_assoc]
    exact hm.inOrderOn (ih fun f hf => hpass f (List.mem_append_left _ hf))
      fun f hf => hpass f (List.mem_append_right _ hf)

/-- A frame goes out on an established connection, or it is part of negotiation, or it was held back. -/
theorem Moves.handed_cases (h : Moves t k es k') {f : Frame} (hf : .handed f ∈ es) :
    k.state = .connected ∨ (f.isPartOfHandshake = true ∧ .accepted f ∈ es) ∨ t = some .flush := by
  induction h with
  | refl => cases hf
  | @tail k₁ k₂ es es' hprev hm ih =>
    rcases List.mem_append.1 hf with hf | hf
    · exact (ih hf).imp id (.imp (fun ⟨hp, ha⟩ => ⟨hp, List.mem_append_left _ ha⟩) id)
    · cases hm with
      | note e he => rw [← List.mem_singleton.1 hf] at he; cases he
      | pass g octets hw ho hd =>
        obtain rfl : f = g := by simpa using hf
        refine hd.imp (fun hd => hprev.connected hd.1) fun hp => .inl ⟨hp, ?_⟩
        exact List.mem_append_right _ (by simp)
      | dequeue g rest ht => exact .inr (.inr ht)
      | enqueue | confirm | discard => simp at hf
      | _ => cases hf

/-- Negotiation is over, whatever came of the connection. -/
structure IsNegotiated (k : Connection) : Prop where
  protocol : k.state ≠ .negotiatingProtocol
  tuning : k.state ≠ .negotiatingTuning

theorem IsNegotiated.of_connected (h : k.state = .connected) : k.IsNegotiated := by
  constructor <;> rw [h] <;> nofun

theorem Moves.isNegotiated (hms : Moves t k es k') (h : k.IsNegotiated) : k'.IsNegotiated := by
  induction hms with
  | refl => exact h
  | tail _ hm ih =>
    cases hm with
    | answerOffer hs => exact absurd hs ih.protocol
    | awaitCloseOk | shut | destroyed => exact ⟨nofun, nofun⟩
    | _ => exact ⟨ih.protocol, ih.tuning⟩

end Connection

/-! ## What a channel sends first -/

/-- A channel that is not closed has asked to be opened, and so has one that owes the peer an answer. -/
structure Asked (c : Nat) (L : List ChannelEvent) (s : Store) (tasks : List Task) : Prop where
  up : (s.channel c).state ≠ .closed → .own openBody ∈ L
  owing : ∀ active, .flowReply c active ∈ tasks → .own openBody ∈ L

namespace Asked

variable {c : Nat} {L : List ChannelEvent} {s : Store} {t : Option Task} {rest : List Task} {n : Next}

theorem of_map_plain {tasks tasks' : List Task} (h : Asked c L s tasks)
    (hm : tasks'.map Task.plain = tasks.map Task.plain) : Asked c L s tasks' :=
  ⟨h.up, fun active ht => h.owing active (Session.mem_of_map_plain_eq hm rfl ht)⟩

theorem turn (h : Asked c L s (t.toList ++ rest)) (evs : List ChannelEvent)
    (hs : (n.store.channel c).state ≠ .closed → (s.channel c).state ≠ .closed)
    (hf : ∀ active, .flowReply c active ∉ n.tasks) : Asked c (evs ++ L) n.store (n.tasks ++ rest) where
  up hst := List.mem_append_right _ (h.up (hs hst))
  owing active ht := List.mem_append_right _ (h.owing active
    (List.mem_append_right _ ((List.mem_append.1 ht).resolve_left (hf active))))

theorem pass (h : Asked c L s (t.toList ++ rest)) (evs : List ChannelEvent) (hs : s.PassesBy c n.store)
    (hf : ∀ active, .flowReply c active ∉ n.tasks) : Asked c (evs ++ L) n.store (n.tasks ++ rest) :=
  h.turn evs (fun hst => hs.state ▸ hst) hf

theorem of_up (h : Asked c L s (t.toList ++ rest)) (hst : s.IsUp c) : .own openBody ∈ L := by
  refine h.up ?_
  rcases hst with hst | hst <;> rw [hst] <;> simp

theorem episode (h : Asked c L s (t.toList ++ rest)) {evs : List ChannelEvent} (he : Episode c s t n evs)
    (hid : (∃ id, s.HasId c id) → (s.channel c).state ≠ .closed) :
    Asked c (evs ++ L) n.store (n.tasks ++ rest) := by
  have none : NoneAbout c n.tasks → ∀ active, .flowReply c active ∉ n.tasks :=
    fun hn _ => hn.not_mem (beq_self_eq_true c)
  cases he with
  | asks => exact ⟨fun _ => List.mem_cons_self, fun _ _ => List.mem_cons_self⟩
  | aside hs he hc hf => exact h.pass [] hs hf
  | fails hc hg hl hn => exact h.turn [] (fun hst => absurd (by rw [hg]; rfl) hst) (none hn)
  | sends body hst hh hs hn => exact h.pass _ hs (none hn)
  | takesLeave hst hh hs hn =>
    -- the state may be any from here on: that the channel was asked for is settled
    have hasked := List.mem_append_right [ChannelEvent.own closeBody] (h.of_up hst)
    exact ⟨fun _ => hasked, fun _ _ => hasked⟩
  | leaves hst hs hn => exact ⟨fun _ => h.of_up hst, fun _ _ => h.of_up hst⟩
  | ready hid' | confirmed hid' | frame hid' | flow hid' | closedByPeer hid' =>
    have hasked := h.up (hid hid')
    exact ⟨fun _ => List.mem_append_right _ hasked, fun _ _ => List.mem_append_right _ hasked⟩
  | error ht he hc hf hs => exact h.turn _ (fun hst => absurd hs.state hst) hf
  | tuned hs he hid' hc hf => exact h.pass [] hs hf
  | closed ht hs hn => exact h.pass _ hs (none hn)
  | flowOk ho hs hn => exact h.pass _ hs (none hn)
  | cut hs hn => exact h.turn [] (fun hst => absurd hs.state hst) (none hn)

/-- Whatever else is taken from a channel, it has asked to be opened. -/
theorem mem_of_episode (h : Asked c L s (t.toList ++ rest)) {evs : List ChannelEvent}
    (he : Episode c s t n evs) (hid : (∃ id, s.HasId c id) → (s.channel c).state ≠ .closed)
    {e : ChannelEvent} (hm : e ∈ evs) (hb : ∃ body, e = .own body ∨ e = .sent body) :
    e = .own openBody ∨ .own openBody ∈ L := by
  obtain ⟨body, hb⟩ := hb
  cases he with
  | asks => exact .inl (List.mem_singleton.1 hm)
  | sends _ hst | takesLeave hst => exact .inr (h.of_up hst)
  | closedByPeer hid' => exact .inr (h.up (hid hid'))
  | flowOk => exact .inr (h.owing _ List.mem_cons_self)
  | ready | confirmed | frame | flow | error | closed => rcases hb with rfl | rfl <;> simp at hm
  | aside | fails | leaves | tuned | cut => cases hm

end Asked

/-- A channel goes by its id whoever holds it. -/
theorem Store.id_hold (s : Store) (c d : Nat) :
    ((s.hold (.channel c)).channel d).id = (s.channel d).id := by
  unfold Store.hold Store.mapChannel Store.channel
  rw [List.getElem?_modify]
  cases s.channels[d]? with
  | none => rfl
  | some ch => dsimp only [Option.map_eq_map, Option.map_some, Option.getD_some]; split <;> rfl

namespace Session

variable {σ τ : Session} {a : Option Act} {ms : List Moment} {m : Moment} {f : Frame}

/-! ## Frames that user code sends -/

/-- The frame that user code sends in this step. -/
def Moment.frame? (m : Moment) : Option Frame :=
  match m.act with
  | some (.call call) => call.frame? m.before.store
  | _ => none

theorem Moment.frame?_eq_some_iff :
    m.frame? = some f ↔ ∃ call, m.act = some (.call call) ∧ call.frame? m.before.store = some f := by
  unfold Moment.frame?
  split
  · rename_i call ha
    simp [ha]
  · rename_i hno
    constructor
    · rintro ⟨⟩
    · rintro ⟨call, ha, -⟩
      exact absurd ha (hno call)

/-- What a call comes to that sends a frame of user code's: the frame is refused, goes out at once, or is
held back. -/
inductive Sending (s : Store) (f : Frame) (n : Next) : Prop where
  | refused (hl : n.log = []) (hq : n.store.connection.queue = s.connection.queue) : Sending s f n
  | passed (octets : Bytes) (ho : s.connection.isOpen)
      (hl : n.log = [.accepted f, .handed f, .started (.data octets)])
      (hd : s.connection.sendsAtOnce f) (hq : n.store.connection.queue = s.connection.queue) : Sending s f n
  | held (hl : n.log = [.accepted f]) (hd : ¬s.connection.sendsAtOnce f)
      (hq : n.store.connection.queue = s.connection.queue ++ [f]) : Sending s f n

theorem Sending.andThen {s : Store} {n : Next} (h : Sending s f n) (tasks : List Task) :
    Sending s f (n.andThen tasks) := by
  cases h with
  | refused hl hq => exact .refused hl hq
  | passed octets ho hl hd hq => exact .passed octets ho hl hd hq
  | held hl hd hq => exact .held hl hd hq

/-- A frame of negotiation keeps the order only if nothing is held back. -/
theorem Sending.inOrderOn {s : Store} {n : Next} (hn : Sending s f n) (h : s.connection.InOrderOn c log)
    (hpass : .accepted f ∈ n.log → f.channel = c → f.isPartOfHandshake = true →
      s.connection.heldOn c = []) :
    n.store.connection.InOrderOn c (n.log.reverse ++ log) := by
  cases hn with
  | refused hl hq =>
    rw [hl]
    exact h.congr hq
  | passed octets ho hl hd hq =>
    have hheld : f.channel = c → s.connection.heldOn c = [] := by
      intro hfc
      by_cases hp : f.isPartOfHandshake = true
      · exact hpass (by rw [hl]; simp) hfc hp
      · rw [Connection.heldOn, (hd.resolve_right hp).2]
        rfl
    rw [hl]
    exact (h.pass hheld octets).congr hq
  | held hl hd hq =>
    rw [hl]
    exact h.enqueue hq

theorem sending_of_send {s s' : Store} {n : Next} (hc : s'.connection = s.connection)
    (h : s'.holdHandle.send f = .ok n) : Sending s f n := by
  obtain ⟨octets, -, ho, ⟨hd, rfl⟩ | ⟨hd, rfl⟩⟩ := Store.send_cases h
  · rw [Store.connection_holdHandle, hc] at ho hd
    exact .passed octets ho rfl hd (by rw [Store.connection_holdHandle, hc])
  · rw [Store.connection_holdHandle, hc] at hd
    exact .held rfl hd (by rw [← hc]; rfl)

theorem sending_of_sendOn {s s' : Store} {d : Nat} {body : Body} {n : Next}
    (hc : s'.connection = s.connection) (h : s'.sendOn d body = .ok n) :
    Sending s ⟨(s'.channel d).id, body⟩ n := by
  obtain ⟨-, -, m, hm, rfl⟩ := Store.sendOn_eq_ok h
  exact (sending_of_send hc hm).andThen _

theorem Call.run_sending {call : Call} {s : Store} (h : call.frame? s = some f) :
    Sending s f (call.run s) := by
  cases call with
  | send g =>
    obtain rfl : g = f := Option.some.inj h
    show Sending s g (tryOnConnection s .sent (·.send g))
    match tryOnConnection s .sent (·.send g), tries s .sent (·.send g) with
    | _, .accepted hn => exact (sending_of_send rfl hn).andThen _
    | _, .refused _ => exact .refused rfl rfl
  | sendOn d body =>
    obtain rfl : ⟨(s.channel d).id, body⟩ = f := Option.some.inj h
    have hid : ((s.hold (.channel d)).channel d).id = (s.channel d).id := s.id_hold d d
    rw [← hid]
    refine Sending.andThen (n := Prod.snd _) ?_ _
    split
    · rename_i n hn
      exact sending_of_sendOn (s.connection_hold _) hn
    · exact .refused rfl rfl
  | _ => cases h

/-- All frames but user code's are this side's own. -/
theorem isOwn_or_frame?_of_accepted (hs : σ.next? a = some τ) (hf : .accepted f ∈ σ.notes a) :
    f.IsOwn ∨ Moment.frame? ⟨σ, a, τ⟩ = some f := by
  obtain ⟨t, rest, n, rfl, ht, hn, -⟩ | ⟨call, rfl, -, -, -⟩ | ⟨r, cb, rest, rfl, -, -⟩ := next?_cases hs
  · rw [notes_of_run ht hn] at hf
    exact .inl (Task.run_sendsOwn hn f hf)
  · cases hcall : call.frame? σ.store with
    | none => exact .inl (Call.run_sendsOwn hcall f hf)
    | some g =>
      refine .inr (hcall.trans (congrArg some ?_))
      cases Call.run_sending hcall with
      | refused hl => rw [show σ.notes (some (.call call)) = _ from hl] at hf; cases hf
      | passed _ _ hl | held hl =>
        rw [show σ.notes (some (.call call)) = _ from hl] at hf
        simpa [eq_comm] using hf
  · cases hf

/-! ## One step -/

/-- User code sends a frame of negotiation on the channel, and the frame goes ahead: of the end of
negotiation, or of frames that were accepted before it. -/
def Moment.Overtakes (m : Moment) (c : UInt16) : Prop :=
  ∃ f, m.frame? = some f ∧ f.channel = c ∧ f.isPartOfHandshake = true ∧ .accepted f ∈ m.noted ∧
    ¬(m.before.store.connection.state = .connected ∧ m.before.store.connection.heldOn c = [])

/-- On other channels than 0 only user code sends frames of negotiation. -/
theorem overtakes_of_accepted (hs : σ.next? a = some τ) (hf : .accepted f ∈ σ.notes a)
    (hc : f.channel ≠ 0) (hp : f.isPartOfHandshake = true) : Moment.Overtakes ⟨σ, a, τ⟩ f.channel ∨
      (σ.store.connection.state = .connected ∧ σ.store.connection.heldOn f.channel = []) := by
  rw [or_iff_not_imp_right]
  intro hn
  obtain hown | hframe := isOwn_or_frame?_of_accepted hs hf
  · rw [hown.ordinary hc] at hp
    cases hp
  · exact ⟨f, hframe, rfl, hp, hf, hn⟩

theorem inOrderOn_of_next? (hσ : σ.Reachable) (hs : σ.next? a = some τ) (hc : c ≠ 0)
    (hn : ¬Moment.Overtakes ⟨σ, a, τ⟩ c) (h : σ.store.connection.InOrderOn c σ.log) :
    τ.store.connection.InOrderOn c τ.log := by
  rw [log_of_next? hs]
  cases hframe : Moment.frame? ⟨σ, a, τ⟩ with
  | some g =>
    obtain ⟨call, rfl, hg⟩ := Moment.frame?_eq_some_iff.1 hframe
    obtain ⟨-, -, rfl⟩ := call?_eq_some_iff.1 hs
    refine (Call.run_sending hg).inOrderOn h ?_
    rintro ha rfl hp
    exact ((overtakes_of_accepted hs ha hc hp).resolve_left hn).2
  | none =>
    -- all that is accepted is this side's own, and waits its turn
    obtain hm | ⟨f, hnotes, hk⟩ := moves_of_next? hσ hs
    · refine hm.inOrderOn h ?_
      rintro f hf rfl
      obtain hown | hf := isOwn_or_frame?_of_accepted hs hf
      · exact hown.ordinary hc
      · rw [hframe] at hf
        cases hf
    · rw [hnotes, hk]
      exact h

/-- Frames go out on an established connection, but for those that overtake and those held back. -/
theorem handed_of_next? (hσ : σ.Reachable) (hs : σ.next? a = some τ) (hc : c ≠ 0)
    (hn : ¬Moment.Overtakes ⟨σ, a, τ⟩ c) (hf : .handed f ∈ σ.notes a) (hfc : f.channel = c) :
    σ.store.connection.state = .connected ∨ .flush ∈ σ.tasks := by
  subst hfc
  obtain hm | ⟨g, hnotes, -⟩ := moves_of_next? hσ hs
  · obtain hst | ⟨hp, ha⟩ | ht := hm.handed_cases hf
    · exact .inl hst
    · exact .inl ((overtakes_of_accepted hs ha hc hp).resolve_left hn).1
    · exact .inr (List.mem_of_mem_head? ht)
  · rw [hnotes] at hf
    simp at hf

/-! ## Throughout a run -/

/-- The connection was established at one of the moments. -/
def HasConnected (ms : List Moment) : Prop := ∃ m ∈ ms, m.before.store.connection.state = .connected

theorem flush_of_works {es : List Event} {old new rest rest' : List Task}
    (w : Works σ τ es old new rest rest') (h : .flush ∈ new) : .announce ∈ σ.tasks ∨ .flush ∈ σ.tasks := by
  obtain hcommon | ⟨t, rfl, hl⟩ | ⟨-, hl⟩ := w.tasks _ h
  · cases hcommon
  · have ht : t ∈ σ.tasks := by rw [w.before]; exact List.mem_append_left _ (List.mem_singleton_self t)
    cases t with
    | announce => exact .inl ht
    | flush => exact .inr ht
    | handled e p fault => cases e <;> cases fault <;> simp [Task.LeadsTo, Connection.Reports] at hl
    | _ => simp [Task.LeadsTo, Connection.TearsDown, Connection.Closes, Connection.Reports,
        Connection.Receives] at hl
  · simp [Connection.CallLeadsTo, Connection.TearsDown, Connection.Closes] at hl

/-- What was held back waits for the connection to be established. -/
theorem Trail.hasConnected {o : Options} (h : Trail (connect o) ms σ)
    (ht : .announce ∈ σ.tasks ∨ .flush ∈ σ.tasks) :
    σ.store.connection.state = .connected ∨ HasConnected ms := by
  revert ht
  refine h.induction ⟨o, .refl⟩ (P := fun ms σ => .announce ∈ σ.tasks ∨ .flush ∈ σ.tasks →
    σ.store.connection.state = .connected ∨ HasConnected ms) ?_ ?_
  · intro ht
    have none := connect_tasks o (p := fun t => t ≠ .announce ∧ t ≠ .flush) (fun t hc => by
      constructor <;> rintro rfl <;> cases hc) ⟨nofun, nofun⟩ ⟨nofun, nofun⟩
    exact ht.elim (fun ht => absurd rfl (none _ ht).1) fun ht => absurd rfl (none _ ht).2
  · intro ms σ a τ hσ ih hs ht
    have before : .announce ∈ σ.tasks ∨ .flush ∈ σ.tasks → HasConnected (⟨σ, a, τ⟩ :: ms) := by
      intro ht
      obtain hst | ⟨m, hm, hst⟩ := ih ht
      · exact ⟨_, List.mem_cons_self, hst⟩
      · exact ⟨m, List.mem_cons_of_mem _ hm, hst⟩
    rcases (Step.next hs).cases hσ.isProper with ⟨es, old, new, rest, rest', w⟩ | hc
    · -- neither task is new, but for the one that the other leaves
      refine .inr (before ?_)
      rcases ht with ht | ht
      · exact .inl ((w.mem_of_isFixed rfl ht).resolve_left (announce_notMem w))
      · exact (w.mem_of_isFixed rfl ht).elim (flush_of_works w) .inr
    · left
      rw [hc.connection]

theorem isNegotiated_of_next? (hσ : σ.Reachable) (h : σ.store.connection.IsNegotiated)
    (hs : σ.next? a = some τ) : τ.store.connection.IsNegotiated := by
  obtain hm | ⟨f, -, hk⟩ := moves_of_next? hσ hs
  · exact hm.isNegotiated h
  · rw [hk]
    exact ⟨nofun, nofun⟩

theorem Trail.isNegotiated {o : Options} (h : Trail (connect o) ms σ) (hc : HasConnected ms) :
    σ.store.connection.IsNegotiated := by
  revert hc
  refine h.induction ⟨o, .refl⟩ (P := fun ms σ => HasConnected ms → σ.store.connection.IsNegotiated) ?_ ?_
  · rintro ⟨m, hm, -⟩
    cases hm
  · rintro ms σ a τ hσ ih hs ⟨m, hm, hst⟩
    refine isNegotiated_of_next? hσ ?_ hs
    rcases List.mem_cons.1 hm with rfl | hm
    · exact .of_connected hst
    · exact ih ⟨m, hm, hst⟩

theorem inOrderOn_connect (o : Options) (hc : c ≠ 0) :
    (connect o).store.connection.InOrderOn c (connect o).log := by
  have hlog : (connect o).log.reverse = ((Store.new o).offer .greeting).log := by simp [connect, proceed]
  have h₀ : (Store.new o).connection.InOrderOn c [] := rfl
  have h := (connect_works o).1.inOrderOn h₀ fun f hf hfc =>
    Wire.Frame.IsOwn.ordinary (Store.offer_sendsOwn (.new o) .greeting f (hlog ▸ hf)) (hfc ▸ hc)
  rwa [List.reverse_reverse, List.append_nil] at h

theorem Trail.inOrderOn {o : Options} (h : Trail (connect o) ms σ) (hc : c ≠ 0)
    (hn : ∀ m ∈ ms, ¬m.Overtakes c) : σ.store.connection.InOrderOn c σ.log := by
  revert hn
  refine h.induction ⟨o, .refl⟩ (P := fun ms σ => (∀ m ∈ ms, ¬m.Overtakes c) →
    σ.store.connection.InOrderOn c σ.log) (fun _ => inOrderOn_connect o hc) ?_
  intro ms σ a τ hσ ih hs hn
  rw [List.forall_mem_cons] at hn
  exact inOrderOn_of_next? hσ hs hc hn.1 (ih hn.2)

/-- The frames on the channel that go out in this step go out after the connection was established, and
so far all of them went out in the order in which they were accepted. -/
structure Moment.KeepsOrder (m : Moment) (earlier : List Moment) (c : UInt16) : Prop where
  established : ∀ f, f.channel = c → .handed f ∈ m.noted → HasConnected (m :: earlier)
  inOrder : m.after.store.connection.InOrderOn c m.after.log

theorem keepsOrder_of_next? {o : Options} (h : Trail (connect o) ms σ) (hs : σ.next? a = some τ)
    (hc : c ≠ 0) (hn : ∀ m ∈ ⟨σ, a, τ⟩ :: ms, ¬m.Overtakes c) : Moment.KeepsOrder ⟨σ, a, τ⟩ ms c where
  established f hfc hf := by
    have hσ : σ.Reachable := h.reachable ⟨o, .refl⟩
    have now : σ.store.connection.state = .connected → HasConnected (⟨σ, a, τ⟩ :: ms) :=
      fun hst => ⟨_, List.mem_cons_self, hst⟩
    obtain hst | hflush := handed_of_next? hσ hs hc (hn _ List.mem_cons_self) hf hfc
    · exact now hst
    · obtain hst | ⟨m, hm, hst⟩ := h.hasConnected (.inr hflush)
      · exact now hst
      · exact ⟨m, List.mem_cons_of_mem _ hm, hst⟩
  inOrder := (h.cons a hs).inOrderOn hc hn

/-- A frame that overtakes goes out at once, ahead of what is held back. -/
theorem noted_of_overtakes (hs : σ.next? a = some τ) (h : Moment.Overtakes ⟨σ, a, τ⟩ c) :
    ∃ f octets, f.channel = c ∧ f.isPartOfHandshake = true ∧ σ.store.connection.isOpen ∧
      σ.notes a = [.accepted f, .handed f, .started (.data octets)] ∧
      τ.store.connection.queue = σ.store.connection.queue ∧
      ¬(σ.store.connection.state = .connected ∧ σ.store.connection.heldOn c = []) := by
  obtain ⟨f, hframe, hfc, hp, ha, hn⟩ := h
  obtain ⟨call, rfl, hcall⟩ := Moment.frame?_eq_some_iff.1 hframe
  obtain ⟨-, -, rfl⟩ := call?_eq_some_iff.1 hs
  have ha : .accepted f ∈ (call.run σ.store).log := ha
  cases Call.run_sending hcall with
  | refused hl => rw [hl] at ha; cases ha
  | passed octets ho hl hd hq => exact ⟨f, octets, hfc, hp, ho, hl, hq, hn⟩
  | held hl hd => exact absurd (.inr hp) hd

/-- With a frame that overtakes the order is lost. -/
theorem not_keepsOrder_of_overtakes {o : Options} (h : Trail (connect o) ms σ)
    (hs : σ.next? a = some τ) (hm : Moment.Overtakes ⟨σ, a, τ⟩ c)
    (hbefore : σ.store.connection.InOrderOn c σ.log) : ¬Moment.KeepsOrder ⟨σ, a, τ⟩ ms c := by
  rintro ⟨hestablished, horder⟩
  have hσ : σ.Reachable := h.reachable ⟨o, .refl⟩
  obtain ⟨f, octets, hfc, hp, ho, hnotes, hq, hn⟩ := noted_of_overtakes hs hm
  by_cases hst : σ.store.connection.state = .connected
  · -- the frame is behind what is held back in the order of acceptance, and went out ahead of it
    have hlog : τ.log = .started (.data octets) :: .handed f :: .accepted f :: σ.log := by
      rw [log_of_next? hs, hnotes]
      rfl
    have hswap : [f] ++ σ.store.connection.heldOn c = σ.store.connection.heldOn c ++ [f] := by
      have horder : handedOn c τ.log ++ τ.store.connection.heldOn c = keptOn c τ.log := horder
      rw [hlog, Connection.heldOn_of_queue hq] at horder
      simp only [handedOn, keptOn, if_pos hfc] at horder
      rwa [← hbefore, List.append_assoc, List.append_assoc, List.append_cancel_left_eq] at horder
    cases hheld : σ.store.connection.heldOn c with
    | nil => exact hn ⟨hst, hheld⟩
    | cons g rest =>
      rw [hheld] at hswap
      obtain rfl : f = g := (List.cons.inj hswap).1
      have hmem : f ∈ σ.store.connection.heldOn c := by rw [hheld]; exact List.mem_cons_self
      rw [hσ.delivers.ordinary f (List.mem_of_mem_filter hmem)] at hp
      cases hp
  · -- the connection takes frames, so that it is in negotiation and never was established
    obtain ⟨m, hm, hc⟩ := hestablished f hfc (by rw [Moment.noted, hnotes]; simp)
    rcases List.mem_cons.1 hm with rfl | hm
    · exact hst hc
    · have hnegotiated := h.isNegotiated ⟨m, hm, hc⟩
      cases hs : σ.store.connection.state with
      | negotiatingProtocol => exact hnegotiated.protocol hs
      | negotiatingTuning => exact hnegotiated.tuning hs
      | connected => exact hst hs
      | closing => exact ho.1 hs
      | closed => exact ho.2 hs

/-- A channel asks to be opened before anything else is sent on it. -/
theorem Trail.asked {o : Options} (h : Trail (connect o) ms σ) (d : Nat) :
    Asked d (life d ms) σ.store σ.tasks := by
  refine h.induction ⟨o, .refl⟩ (P := fun ms σ => Asked d (life d ms) σ.store σ.tasks) ?_ ?_
  · have hearly := (chronicle_connect o d).early (by simp)
    exact ⟨fun hst => absurd hearly.2.1 hst, fun active ht => absurd ht (hearly.2.2.2.2.2 active)⟩
  · intro ms σ a τ hσ ih hs
    obtain ⟨t, n, rest, rest', htasks, hstore, htasks', hplain, he, -⟩ := next?_episode hσ hs d
    rw [htasks] at ih
    have hlife : life d (⟨σ, a, τ⟩ :: ms) = Moment.eventsOf d ⟨σ, a, τ⟩ ++ life d ms := by
      rw [life, List.flatMap_cons, he.reverse_eq, life]
    rw [hlife, hstore, htasks']
    refine (ih.episode he (state_ne_closed_of_hasId hσ)).of_map_plain ?_
    rw [List.map_append, List.map_append, hplain]

/-- Whatever the connection takes from a channel, it has taken the channel's request to be opened. -/
def OpensFirst (d : Nat) (ms : List Moment) : Prop :=
  ∀ later m earlier, ms = later ++ m :: earlier → ∀ body e, (e = .own body ∨ e = .sent body) →
    e ∈ m.eventsOf d → e = .own openBody ∨ .own openBody ∈ life d earlier

theorem Trail.opensFirst {o : Options} (h : Trail (connect o) ms σ) (d : Nat) : OpensFirst d ms := by
  rintro later ⟨σ', a, τ⟩ earlier rfl body e hb hm
  obtain ⟨hσ, hs⟩ := h.moment ⟨o, .refl⟩ _ (List.mem_append_right _ List.mem_cons_self)
  have hasked : Asked d (life d earlier) σ'.store σ'.tasks := h.split.1.asked d
  obtain ⟨t, n, rest, -, htasks, -, -, -, he, -⟩ := next?_episode hσ hs d
  rw [htasks] at hasked
  exact hasked.mem_of_episode he (state_ne_closed_of_hasId hσ) hm ⟨body, hb⟩

/-- Where no frame overtakes, the order is kept, and only there. -/
theorem keepsOrder_iff {o : Options} (h : Trail (connect o) ms σ) (hc : c ≠ 0) :
    (∀ later m earlier, ms = later ++ m :: earlier → m.KeepsOrder earlier c) ↔
      ∀ m ∈ ms, ¬m.Overtakes c := by
  constructor
  · intro hall m hm hover
    obtain ⟨later, earlier, rfl⟩ := List.append_of_mem hm
    obtain ⟨-, hs⟩ := h.moment ⟨o, .refl⟩ m hm
    have htrail := h.split.1
    obtain ⟨σ', a, τ⟩ := m
    refine not_keepsOrder_of_overtakes htrail hs hover ?_ (hall later _ earlier rfl)
    -- the order was kept up to here: by the construction or by the step before
    cases htrail with
    | nil => exact inOrderOn_connect o hc
    | cons a' htrail hs' =>
      exact (hall (later ++ [⟨σ', a, τ⟩]) _ _ (by rw [List.append_assoc]; rfl)).inOrder
  · rintro hn later m earlier rfl
    obtain ⟨-, hs⟩ := h.moment ⟨o, .refl⟩ m (List.mem_append_right _ List.mem_cons_self)
    exact keepsOrder_of_next? h.split.1 hs hc fun m' hm' => hn m' (List.mem_append_right _ hm')

/-- On every channel but 0, frames go out only after the connection was established and in the order in
which they were accepted, at every moment of the run, exactly if user code never sends a frame of
negotiation there that goes ahead. Every channel's request to be opened is taken before all else that is
sent on the channel. -/
theorem order_kept_iff {o : Options} (h : Trail (connect o) ms σ) (hc : c ≠ 0) :
    ((∀ later m earlier, ms = later ++ m :: earlier → m.KeepsOrder earlier c) ↔
      ∀ m ∈ ms, ¬m.Overtakes c) ∧ ∀ d, OpensFirst d ms :=
  ⟨keepsOrder_iff h hc, h.opensFirst⟩

/-! ### Runs that keep the order and one that loses it -/

instance (f : Frame) (es : List Event) : Decidable (.accepted f ∈ es) :=
  decidable_of_iff (es.any fun e => match e with | .accepted g => g == f | _ => false) (by
    rw [List.any_eq_true]
    constructor
    · rintro ⟨e, he, hg⟩
      cases e with
      | accepted g => rwa [← beq_iff_eq.1 hg]
      | _ => cases hg
    · exact fun hf => ⟨_, hf, beq_self_eq_true f⟩)

instance (m : Moment) : Decidable (m.Overtakes c) :=
  decidable_of_iff (∃ f ∈ m.frame?, f.channel = c ∧ f.isPartOfHandshake = true ∧
    Event.accepted f ∈ m.noted ∧
      ¬(m.before.store.connection.state = .connected ∧ m.before.store.connection.heldOn c = [])) Iff.rfl

/-- A channel is opened and content is sent on it before the connection is established, and more of it
where user code learns that the connection is. -/
def sendEarly : List (Option Act) :=
  greeted ++ openEarly ++ [some (.call (.sendOn 0 (.content [5]))), none, none, none] ++
    [some (.call (.parse serverHandshake))] ++ pass 1 ++ pass 2 ++ pass 2 ++ pass 1 ++
    [none, none, none, some (.call (.send ⟨1, .content [6]⟩)), none, none] ++ pass 0 ++ pass 1 ++ pass 1 ++
    pass 1

theorem order_kept_iff_early : ∃ (ms : List Moment) (σ : Session), Trail (connect .standard) ms σ ∧
    (1 : UInt16) ≠ 0 ∧
      handedOn 1 σ.log = [.ofChannel 1 .openRequest, ⟨1, .content [5]⟩, ⟨1, .content [6]⟩] ∧
      (∀ later m earlier, ms = later ++ m :: earlier → m.KeepsOrder earlier 1) ∧ OpensFirst 0 ms := by
  obtain ⟨ms, σ, h, he⟩ := exists_trail_of_record sendEarly (connect .standard)
    (fun ms σ => (decide (∀ m ∈ ms, ¬m.Overtakes 1), handedOn 1 σ.log))
    (a := (true, [.ofChannel 1 .openRequest, ⟨1, .content [5]⟩, ⟨1, .content [6]⟩])) (by decide +kernel)
  obtain ⟨hn, hout⟩ := Prod.mk.inj he
  have hc : (1 : UInt16) ≠ 0 := by decide
  obtain ⟨horder, hopens⟩ := order_kept_iff h hc
  exact ⟨ms, σ, h, hc, hout, horder.2 (of_decide_eq_true hn), hopens 0⟩

/-- A channel waits to be opened, and user code sends a frame of negotiation on it. -/
def overtake : List (Option Act) :=
  greeted ++ openEarly ++ [some (.call (.sendOn 0 (.method (.connection (.openRequest "x")))))]

/-- The frame goes out before the connection is established and ahead of the channel's request to be
opened. -/
theorem order_lost_in_negotiation : ∃ (ms : List Moment) (σ : Session),
    Trail (connect .standard) ms σ ∧ σ.state = .negotiatingProtocol ∧
      keptOn 1 σ.log = [.ofChannel 1 .openRequest, ⟨1, .method (.connection (.openRequest "x"))⟩] ∧
      handedOn 1 σ.log = [⟨1, .method (.connection (.openRequest "x"))⟩] ∧
      ¬∀ later m earlier, ms = later ++ m :: earlier → m.KeepsOrder earlier 1 := by
  obtain ⟨ms, σ, h, he⟩ := exists_trail_of_record overtake (connect .standard)
    (fun ms σ => (decide (∃ m ∈ ms, m.Overtakes 1), σ.state, keptOn 1 σ.log, handedOn 1 σ.log))
    (a := (true, .negotiatingProtocol,
      [.ofChannel 1 .openRequest, ⟨1, .method (.connection (.openRequest "x"))⟩],
      [⟨1, .method (.connection (.openRequest "x"))⟩])) (by decide +kernel)
  simp only [Prod.mk.injEq] at he
  obtain ⟨hover, hstate, hkept, hout⟩ := he
  refine ⟨ms, σ, h, hstate, hkept, hout, fun horder => ?_⟩
  obtain ⟨m, hm, hover⟩ := of_decide_eq_true hover
  exact (keepsOrder_iff h (by decide)).1 horder m hm hover

end Session

end AmqpSession
