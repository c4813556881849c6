/-
Who has an id, and where a received frame goes. An id belongs to the endpoint it was given to until that
very endpoint gives it back, the limit that is agreed on turns it away, or the connection comes to its
end (`Moment.TakesAway`); no other endpoint can free it. A frame for a channel goes to the endpoint that
has its id at that moment, if it still exists, and to nobody else (`Session.routes?`).
-/
import AmqpSession.Proofs.Agreement
import AmqpSession.Proofs.Answers
import AmqpSession.Proofs.Apart
import AmqpSession.Proofs.Demise
import AmqpSession.Proofs.Trail

namespace AmqpSession

open Wire Store Next

namespace Session

/-! ## Whose an id is -/

/-- The id belongs to the endpoint. -/
def IsBound (σ : Session) (id : UInt16) (e : EndpointRef) : Prop :=
  σ.store.connection.registry.get? id = some e

/-- The frame that is taken off a buffer next. -/
def takes? (σ : Session) : Option Frame :=
  match σ.tasks with
  | .parse buffer _ :: _ =>
    if σ.store.connection.state = .closed then none
    else match Frame.decode buffer σ.store.connection.maxFrameSize with
      | .ok (some r) => some r.frame
      | _ => none
  | _ => none

/-- The endpoint that this frame goes to. -/
def routes? (σ : Session) : Option (EndpointRef × Frame) :=
  σ.takes?.bind fun f =>
    if f.channel = 0 ∨ f.body = .heartbeat ∨ σ.store.connection.state = .closing then none
    else (σ.store.addressee? f).map (·, f)

namespace Moment

/-- The endpoint is given the id: user code learns of it, or the channel asks to be opened. -/
inductive GivesOut (m : Moment) (id : UInt16) : EndpointRef → Prop where
  | registered (n : Nat) (ha : m.act = some (.call (.register n)))
      (hr : m.after.tasks.head? = some (.answer (.registered (.ok id)))) : GivesOut m id (.custom n)
  | opened (ha : m.act = some (.call .openChannel))
      (hr : .accepted (.ofChannel id .openRequest) ∈ m.noted) :
      GivesOut m id (.channel m.before.store.channels.length)

/-- The endpoint is taken out of the registry: user code asks for it, or a channel does that nobody
holds any more, that the peer closed, or whose close the peer confirms. -/
inductive Unregisters (m : Moment) : EndpointRef → Prop where
  | called (n : Nat) (ha : m.act = some (.call (.unregister n))) : Unregisters m (.custom n)
  | dropped (c : Nat) (rest : List Task) (ht : m.before.tasks = .unregister (.channel c) :: rest) :
      Unregisters m (.channel c)
  | closedByPeer (c : Nat) (text : String) (rest : List Task)
      (ht : m.before.tasks = .channelClosedByPeer c text :: rest) : Unregisters m (.channel c)
  | confirmed (c : Nat) (f : Frame) (hr : m.before.routes? = some (.channel c, f))
      (hb : f.body = .method (.channel .closeOk))
      (hs : (m.before.store.channel c).state = .closing) : Unregisters m (.channel c)

/-- How an endpoint can lose an id: by its own doing, while the id is the one it goes by; by a limit
that is agreed on; or because the connection is closed or about to be destroyed. -/
inductive TakesAway (m : Moment) (id : UInt16) (e : EndpointRef) : Prop where
  | unregistered (hu : m.Unregisters e) (hid : m.before.store.idOf e = id)
  | evicted (limits : Tune) (rest : List Task) (ht : m.before.tasks = .tuned limits :: rest)
      (hs : (id, e) ∈ (m.before.store.setLimits limits).connection.registry.surplus)
  | closed (hs : m.after.store.connection.state = .closed)
  | destroyed (rest : List Task) (ht : m.before.tasks = .clearRegistry :: .destroyed :: rest)

/-- The frame is delivered to the endpoint, and concerns nobody else. -/
structure Delivers (m : Moment) (e : EndpointRef) (f : Frame) : Prop where
  handled : ∃ t p rest, m.before.tasks = t :: rest ∧
    m.after = proceed (((m.before.store.hold e).deliver e f).within f (some e) p) m.before.log rest
  channels : ∀ c, e ≠ .channel c → m.after.store.channel c = m.before.store.channel c
  endpoints : ∀ n, e ≠ .custom n → m.after.store.endpoint n = m.before.store.endpoint n
  callbacks : ∀ cb, .started cb ∈ m.noted → (∃ octets, cb = .data octets) ∨ cb.endpoint? = some e

/-- The frame is passed over: it is noted that it came, and the buffer is gone on with. -/
structure Skips (m : Moment) (f : Frame) : Prop where
  store : m.after.store = m.before.store
  noted : m.noted = [.received f]
  tasks : ∃ t p rest, m.before.tasks = t :: rest ∧ m.after.tasks = .handled none p none :: rest

/-- The frame that user code's endpoint receives. -/
def arrival? (n : Nat) (m : Moment) : Option Frame :=
  m.before.routes?.bind fun r => if r.1 = .custom n then some r.2 else none

end Moment

/-- The frames that user code's endpoint was told of, the latest first. -/
def framesTo (n : Nat) (log : List Event) : List Frame :=
  log.filterMap fun
    | .started (.endpointFrame k f) => if k = n then some f else none
    | _ => none

/-! ### Taking a frame -/

section Step

variable {σ τ : Session} {a : Option Act} {f : Frame}

theorem exists_of_takes? (h : σ.takes? = some f) : ∃ buffer processed rest r,
    σ.tasks = .parse buffer processed :: rest ∧ σ.store.connection.state ≠ .closed ∧
      Frame.decode buffer σ.store.connection.maxFrameSize = .ok (some r) ∧ r.frame = f := by
  unfold takes? at h
  split at h
  · rename_i buffer processed rest ht
    split at h
    · cases h
    · rename_i hs
      split at h
      · rename_i r hd
        cases h
        exact ⟨buffer, processed, rest, r, ht, hs, hd, rfl⟩
      · cases h
  · cases h

/-- Where no frame is taken, the call ends or its octets are a violation. -/
theorem parse_of_takes?_none {buffer : Bytes} {processed : Nat} {rest : List Task}
    (ht : σ.tasks = .parse buffer processed :: rest) (h : σ.takes? = none) :
    σ.store.parse buffer processed = .follow σ.store (endOfParse processed) ∨
      ∃ v, σ.store.parse buffer processed = σ.store.report v processed := by
  rw [takes?, ht] at h
  dsimp only at h
  match σ.store.parse buffer processed, σ.store.parsesNext buffer processed with
  | _, .ended => exact .inl rfl
  | _, .violated _ _ _ => exact .inr ⟨_, rfl⟩
  | _, .received _ hs hr =>
    rw [if_neg hs, hr] at h
    cases h

/-- A frame that is taken off a buffer is handled. -/
theorem parse_of_takes? (hσ : σ.Reachable) (h : σ.takes? = some f) {buffer : Bytes} {processed : Nat}
    {rest : List Task} (ht : σ.tasks = .parse buffer processed :: rest) :
    ∃ p, σ.store.parse buffer processed = σ.store.receive f p := by
  obtain ⟨buffer', processed', rest', r, ht', hc, hd, rfl⟩ := exists_of_takes? h
  rw [ht] at ht'
  cases ht'
  have ha : σ.store.connection.alive = true := by
    rw [← Bool.not_eq_false]
    exact fun ha => hc (hσ.state_of_not_alive ha)
  rw [parse_of_live ha hc, hd]
  exact ⟨_, rfl⟩

theorem next?_of_takes? (hσ : σ.Reachable) (h : σ.takes? = some f) (hs : σ.next? a = some τ) :
    ∃ t p rest, a = none ∧ σ.tasks = t :: rest ∧ t.run σ.store = some (σ.store.receive f p) ∧
      τ = proceed (σ.store.receive f p) σ.log rest := by
  obtain ⟨buffer, processed, rest, -, ht, -⟩ := exists_of_takes? h
  obtain ⟨p, hp⟩ := parse_of_takes? hσ h ht
  obtain ⟨hact, n, hn, hτ⟩ := next?_eq_proceed hs ht nofun
  obtain rfl : σ.store.receive f p = n := hp.symm.trans (Option.some.inj hn)
  exact ⟨_, p, rest, hact, ht, hn, hτ⟩

theorem routes?_eq_some_iff {e : EndpointRef} : σ.routes? = some (e, f) ↔
    σ.takes? = some f ∧ f.channel ≠ 0 ∧ ¬ (f.body = .heartbeat ∨ σ.store.connection.state = .closing) ∧
      σ.store.addressee? f = some e := by
  unfold routes?
  constructor
  · intro h
    obtain ⟨f', hf', h⟩ := Option.bind_eq_some_iff.1 h
    split at h
    · cases h
    · rename_i hn
      obtain ⟨e', he', h⟩ := Option.map_eq_some_iff.1 h
      cases h
      exact ⟨hf', (not_or.1 hn).1, (not_or.1 hn).2, he'⟩
  · rintro ⟨hf, hz, hn, he⟩
    rw [hf, Option.bind_some, if_neg (not_or.2 ⟨hz, hn⟩), he]
    rfl

theorem addressee?_eq_some_iff {s : Store} {e : EndpointRef} : s.addressee? f = some e ↔
    s.connection.registry.get? f.channel = some e ∧ s.isLive e = true := by
  unfold addressee?
  constructor
  · intro h
    split at h
    · rename_i e' he'
      split at h
      · rename_i hl
        cases h
        exact ⟨he', hl⟩
      · cases h
    · cases h
  · rintro ⟨hg, hl⟩
    rw [hg]
    exact if_pos hl

/-- A frame with an addressee is delivered. -/
theorem delivers_of_routes? (hσ : σ.Reachable) {e : EndpointRef} (h : σ.routes? = some (e, f))
    (hs : σ.next? a = some τ) : Moment.Delivers ⟨σ, a, τ⟩ e f ∧
      σ.notes a = .received f :: ((σ.store.hold e).deliver e f).log := by
  obtain ⟨htake, hz, hn, he⟩ := routes?_eq_some_iff.1 h
  obtain ⟨t, p, rest, rfl, ht, hrun, rfl⟩ := next?_of_takes? hσ htake hs
  rw [receive_addressed hz hn he] at hrun ⊢
  have hnotes : σ.notes none = .received f :: ((σ.store.hold e).deliver e f).log :=
    notes_of_run ht hrun
  obtain ⟨hch, hen⟩ := deliver_others σ.store e f
  refine ⟨⟨⟨t, p, rest, ht, rfl⟩, hch, hen, fun cb hcb => ?_⟩, hnotes⟩
  rw [show Moment.noted ⟨σ, none, _⟩ = _ from hnotes] at hcb
  exact deliver_callbacks _ e f cb ((List.mem_cons.1 hcb).resolve_left nofun)

/-- A frame for a channel without one is passed over. -/
theorem skips_of_routes? (hσ : σ.Reachable) (h : σ.takes? = some f) (hz : f.channel ≠ 0)
    (hn : (f.body = .heartbeat ∨ σ.store.connection.state = .closing) ∨ σ.store.addressee? f = none)
    (hs : σ.next? a = some τ) : Moment.Skips ⟨σ, a, τ⟩ f := by
  obtain ⟨t, p, rest, rfl, ht, hrun, rfl⟩ := next?_of_takes? hσ h hs
  rw [receive_ignored hz hn] at hrun ⊢
  exact ⟨rfl, notes_of_run ht hrun, t, p, rest, ht, rfl⟩

/-- No endpoint is told of anything but a frame that goes to it. -/
theorem routes?_of_isDelivery (hσ : σ.Reachable) (hs : σ.next? a = some τ) {cb : Callback}
    (hcb : .started cb ∈ σ.notes a) (hd : cb.isDelivery = true) :
    ∃ e f, σ.routes? = some (e, f) ∧ cb.endpoint? = some e := by
  have hno : ∀ {l : List Event}, (∀ cb, .started cb ∈ l → cb.isDelivery = false) →
      .started cb ∉ l := fun hl hcb => Bool.false_ne_true ((hl cb hcb).symm.trans hd)
  obtain ⟨t, rest, n, rfl, ht, hn, -⟩ | ⟨c, rfl, -, -, -⟩ | ⟨r, cb', rest, rfl, -, -⟩ :=
    next?_cases hs
  · rw [notes_of_run ht hn] at hcb
    have htask : (∀ buffer processed, t ≠ .parse buffer processed) → False := fun hp =>
      hno (Task.run_quiet (hσ.isProper t (by rw [ht]; exact List.mem_cons_self)) hp hn) hcb
    cases t with
    | parse buffer processed =>
      cases hf : σ.takes? with
      | some f =>
        obtain ⟨t, p, rest', -, ht', hrun, -⟩ := next?_of_takes? hσ hf hs
        rw [ht] at ht'
        cases ht'
        rw [hrun] at hn
        cases hn
        obtain ⟨e, n, hn, hr⟩ := σ.store.receive_takesIn f p
        rw [hr] at hcb
        replace hcb := (List.mem_cons.1 hcb).resolve_left nofun
        cases hn with
        | connection _ hn => exact absurd hcb (hno hn.quiet)
        | ignored => cases hcb
        | @channel hz hi c he n hn =>
          refine ⟨.channel c, f, routes?_eq_some_iff.2 ⟨hf, hz, hi, he⟩, ?_⟩
          exact (hn.callbacks cb hcb).resolve_left fun ⟨_, hdata⟩ => by cases hdata; cases hd
        | @custom hz hi k he =>
          rw [Event.started.inj (List.mem_singleton.1 hcb)]
          exact ⟨.custom k, f, routes?_eq_some_iff.2 ⟨hf, hz, hi, he⟩, rfl⟩
      | none =>
        -- nothing is taken off the buffer
        refine absurd hcb (hno ?_)
        cases hn
        rcases parse_of_takes?_none ht hf with h | ⟨v, h⟩
        · rw [h]
          exact fun _ h => nomatch h
        · rw [h]
          exact report_quiet _ v processed
    | _ => exact (htask nofun).elim
  · exact absurd hcb (hno (c.run_quiet σ.store))
  · cases hcb

/-! ### Giving out and taking back -/

theorem idOf_hold (s : Store) (e : EndpointRef) : (s.hold e).idOf e = s.idOf e := by
  cases e with
  | channel c =>
    unfold idOf channel hold mapChannel
    dsimp only
    rw [List.getElem?_modify_eq]
    cases s.channels[c]? <;> rfl
  | custom n =>
    unfold idOf endpoint hold mapEndpoint
    dsimp only
    rw [List.getElem?_modify_eq]
    cases s.endpoints[n]? <;> rfl

theorem registry_retire (s : Store) (c : Nat) : (s.retire c).connection.registry =
    s.connection.registry.release (s.idOf (.channel c)) (.channel c) := by
  show s.connection.registry.release ((s.detach c).channel c).id _ = _
  rw [channel_detach]
  rfl

/-- Whoever takes an endpoint out frees the id it goes by, if that is its own. -/
theorem registry_of_unregisters (hσ : σ.Reachable) (hs : σ.next? a = some τ) {e : EndpointRef}
    (h : Moment.Unregisters ⟨σ, a, τ⟩ e) : τ.store.connection.registry =
      σ.store.connection.registry.release (σ.store.idOf e) e := by
  cases h with
  | called n ha =>
    cases ha
    obtain ⟨-, -, rfl⟩ := call?_eq_some_iff.1 hs
    rfl
  | dropped c rest ht =>
    obtain ⟨-, n, hn, rfl⟩ := next?_eq_proceed hs ht nofun
    cases hn
    rfl
  | closedByPeer c text rest ht =>
    obtain ⟨-, n, hn, rfl⟩ := next?_eq_proceed hs ht nofun
    cases hn
    exact registry_retire _ c
  | confirmed c f hr hb hst =>
    obtain ⟨⟨⟨t, p, rest, -, hτ⟩, -, -, -⟩, -⟩ := delivers_of_routes? hσ hr hs
    have hclosing : ((σ.store.hold (.channel c)).channel c).state = .closing :=
      (state_channel_hold σ.store c (.channel c)).trans hst
    have hdeliver : (σ.store.hold (.channel c)).deliver (.channel c) f =
        .start ((σ.store.hold (.channel c)).retire c) (.channelClosed c) [] := by
      unfold deliver receiveOnChannel receiveChannelMethod
      dsimp only
      rw [hb]
      exact if_pos hclosing
    have hreg : τ.store.connection.registry =
        ((σ.store.hold (.channel c)).retire c).connection.registry := by
      rw [show τ = _ from hτ, hdeliver]
      rfl
    rw [hreg, registry_retire, idOf_hold, connection_hold]

/-- Nobody takes an id from an endpoint but the endpoint itself, while it goes by it. -/
theorem isBound_or_of_release {id : UInt16} {e e' : EndpointRef} (hb : σ.IsBound id e)
    (hu : Moment.Unregisters ⟨σ, a, τ⟩ e')
    (hr : τ.store.connection.registry = σ.store.connection.registry.release (σ.store.idOf e') e') :
    τ.IsBound id e ∨ Moment.TakesAway ⟨σ, a, τ⟩ id e := by
  by_cases he : e' = e
  · subst he
    by_cases hid : σ.store.idOf e' = id
    · exact .inr (.unregistered hu hid)
    · left
      rw [IsBound, hr]
      by_cases hc : σ.store.idOf e' ≠ 0 ∧ σ.store.connection.registry.get? (σ.store.idOf e') = some e'
      · rwa [Registry.get?_release hc.1 hc.2, if_neg (Ne.symm hid)]
      · rwa [Registry.release_of_ne hc]
  · left
    rw [IsBound, hr, Registry.get?_release_iff he]
    exact hb

/-- What is registered keeps its id when another id is given out. -/
theorem get?_of_register {r r' : Registry} {id id' : UInt16} {e e' : EndpointRef}
    (hr : r.register e' = .ok (id', r')) (hb : r.get? id = some e) : r'.get? id = some e := by
  obtain ⟨-, hfree, hentries⟩ := Registry.register_eq_ok hr
  rw [Registry.get?_of_insert hentries, if_neg]
  · exact hb
  · rintro rfl
    rw [hb] at hfree
    cases hfree

theorem isBound_openChannel {id : UInt16} {e : EndpointRef} (hb : σ.IsBound id e) :
    (σ.store.holdHandle.openChannel).2.store.connection.registry.get? id = some e := by
  obtain ⟨e', h, -⟩ | ⟨id', r, n, -, hr, hn, h⟩ := σ.store.holdHandle.openChannel_cases
  · rw [h]
    exact hb
  · rw [h]
    exact (congrArg (Registry.get? · id) (send_isApart hn).registry).trans (get?_of_register hr hb)

theorem isBound_register {s : Store} {id : UInt16} {e e' : EndpointRef}
    (hb : s.connection.registry.get? id = some e) :
    (s.register e').2.connection.registry.get? id = some e := by
  unfold Store.register
  split
  · exact hb
  · split
    · exact hb
    · rename_i id' r hr
      exact get?_of_register hr hb

theorem registry_report (s : Store) (v : Violation) (processed : Nat) :
    (s.report v processed).store.connection.registry = s.connection.registry ∨
      (s.report v processed).store.connection.state = .closed :=
  match s.report v processed, s.reportsFault v processed with
  | _, .late _ => .inl rfl
  | _, .shut _ => .inr (congrArg Connection.state s.connection_shut)

theorem registry_transportClosed (s : Store) :
    s.transportClosed.store.connection.registry = s.connection.registry ∨
      s.transportClosed.store.connection.state = .closed :=
  match s.transportClosed, s.losesTransport with
  | _, .aside _ => .inl rfl
  | _, .shut _ => .inr (congrArg Connection.state s.connection_shut)

/-- A frame frees no id, unless it closes the connection or confirms that a channel is closed. -/
theorem isBound_or_of_parse (hσ : σ.Reachable) (hs : σ.next? a = some τ) {buffer : Bytes}
    {processed : Nat} {rest : List Task} (ht : σ.tasks = .parse buffer processed :: rest)
    {id : UInt16} {e : EndpointRef} (hb : σ.IsBound id e) :
    τ.IsBound id e ∨ Moment.TakesAway ⟨σ, a, τ⟩ id e := by
  have kept : τ.store.connection.registry = σ.store.connection.registry → τ.IsBound id e := by
    intro hr
    rw [IsBound, hr]
    exact hb
  cases hf : σ.takes? with
  | none =>
    obtain ⟨-, n, hn, rfl⟩ := next?_eq_proceed hs ht nofun
    cases hn
    rcases parse_of_takes?_none ht hf with h | ⟨v, h⟩
    · exact .inl (kept (congrArg (·.store.connection.registry) h))
    · have hend := registry_report σ.store v processed
      rw [← h] at hend
      exact hend.imp (fun hr => kept hr) fun hc => .closed hc
  | some f =>
    obtain ⟨t, p, rest', rfl, -, -, hτ⟩ := next?_of_takes? hσ hf hs
    have hstore : τ.store = (σ.store.receive f p).store := congrArg Session.store hτ
    obtain ⟨e', n, hn, hr⟩ := σ.store.receive_takesIn f p
    have hstore : τ.store = n.store := by rw [hstore, hr]; rfl
    cases hn with
    | connection _ hn =>
      have hend := hn.registry
      rw [← hstore] at hend
      exact hend.imp kept fun h => .closed h
    | ignored => exact .inl (kept (by rw [hstore]; rfl))
    | @channel hz hi c he n hn =>
      have hhold := congrArg Connection.registry (connection_hold σ.store (.channel c))
      rcases hn.registry with hr | ⟨hbody, hst⟩
      · exact .inl (kept (by rw [hstore]; exact hr.trans hhold))
      · have hu : Moment.Unregisters ⟨σ, none, τ⟩ (.channel c) :=
          .confirmed c f (routes?_eq_some_iff.2 ⟨hf, hz, hi, he⟩) hbody
            ((state_channel_hold σ.store c (.channel c)).symm.trans hst)
        exact isBound_or_of_release hb hu (registry_of_unregisters hσ hs hu)
    | custom => exact .inl (kept (by rw [hstore]; rfl))

/-- An id stays with its endpoint, unless the step is one of those that take it away. -/
theorem isBound_or_takesAway (hσ : σ.Reachable) (hs : σ.next? a = some τ) {id : UInt16}
    {e : EndpointRef} (hb : σ.IsBound id e) :
    τ.IsBound id e ∨ Moment.TakesAway ⟨σ, a, τ⟩ id e := by
  have kept : τ.store.connection.registry = σ.store.connection.registry → τ.IsBound id e := by
    intro hr
    rw [IsBound, hr]
    exact hb
  obtain ⟨t, rest, n, rfl, ht, hn, hτ⟩ | ⟨c, rfl, -, -, hτ⟩ | ⟨r, cb, rest, rfl, -, hτ⟩ :=
    next?_cases hs
  · have hstore : τ.store = n.store := congrArg Session.store hτ
    have ended : n.store.connection.registry = σ.store.connection.registry ∨
        n.store.connection.state = .closed →
        τ.IsBound id e ∨ Moment.TakesAway ⟨σ, none, τ⟩ id e := by
      rw [← hstore]
      exact Or.imp kept fun h => .closed h
    cases hm : t.movesIds with
    | false =>
      refine .inl (kept ?_)
      rw [hstore]
      exact (Task.run_isApart (hσ.isProper t (by rw [ht]; exact List.mem_cons_self)) hm hn).registry
    | true =>
      cases t with
      | parse buffer processed =>
        cases hn
        exact isBound_or_of_parse hσ hs ht hb
      | handled e' p fault =>
        cases e' with
        | some e' => cases hm
        | none =>
          cases fault with
          | none => cases hm
          | some v => cases hn; exact ended (registry_report σ.store v p.processed)
      | unregister e' =>
        cases e' with
        | custom n =>
          cases hσ.isProper _ (by rw [ht]; exact List.mem_cons_self)
        | channel c =>
          have hu : Moment.Unregisters ⟨σ, none, τ⟩ (.channel c) := .dropped c rest ht
          exact isBound_or_of_release hb hu (registry_of_unregisters hσ hs hu)
      | tuned limits =>
        cases hn
        split at hstore
        · by_cases hid : id ∈ (σ.store.setLimits limits).connection.registry.surplus.map Prod.fst
          · obtain ⟨⟨id', e'⟩, hmem, rfl⟩ := List.mem_map.1 hid
            have hget : σ.store.connection.registry.get? id' = some e' := Registry.mem_surplus hmem
            obtain rfl : e = e' := Option.some.inj (hb.symm.trans hget)
            exact .inr (.evicted limits rest ht hmem)
          · left
            rw [IsBound, hstore]
            exact (Registry.get?_evict _ id).trans ((if_neg hid).trans hb)
        · exact .inl (kept (by rw [hstore]; rfl))
      | clearRegistry =>
        obtain ⟨below, rfl⟩ := hσ.eq_destroyed ht
        exact .inr (.destroyed below ht)
      | closedByPeer reason =>
        cases hn
        refine ended ?_
        split
        · exact .inr (congrArg Connection.state (connection_shut _))
        · exact .inl rfl
      | channelClosedByPeer c text =>
        have hu : Moment.Unregisters ⟨σ, none, τ⟩ (.channel c) := .closedByPeer c text rest ht
        exact isBound_or_of_release hb hu (registry_of_unregisters hσ hs hu)
      | _ => cases hm
  · have hstore : τ.store = (c.run σ.store).store := congrArg Session.store hτ
    cases hm : c.movesIds with
    | false =>
      refine .inl (kept ?_)
      rw [hstore]
      exact (Call.run_isApart σ.store hm).registry
    | true =>
      cases c with
      | register n => exact .inl (by rw [IsBound, hstore]; exact isBound_register hb)
      | unregister n =>
        have hu : Moment.Unregisters ⟨σ, some (.call (.unregister n)), τ⟩ (.custom n) := .called n rfl
        exact isBound_or_of_release hb hu (registry_of_unregisters hσ hs hu)
      | openChannel => exact .inl (by rw [IsBound, hstore]; exact isBound_openChannel hb)
      | transportClosed =>
        have hend := registry_transportClosed σ.store.holdHandle
        rw [show σ.store.holdHandle.transportClosed.store = τ.store from hstore.symm] at hend
        exact hend.imp kept fun h => .closed h
      | _ => cases hm
  · exact .inl (kept (congrArg (·.store.connection.registry) hτ))

/-- What is given out belongs to whom it was given. -/
theorem isBound_of_givesOut (hs : σ.next? a = some τ) {id : UInt16} {e : EndpointRef}
    (h : Moment.GivesOut ⟨σ, a, τ⟩ id e) : τ.IsBound id e := by
  cases h with
  | registered n ha hr =>
    cases ha
    obtain ⟨-, -, rfl⟩ := call?_eq_some_iff.1 hs
    have hresult : (σ.store.register (.custom n)).1 = .ok id :=
      Outcome.registered.inj (Task.answer.inj (Option.some.inj hr))
    show (σ.store.register (.custom n)).2.connection.registry.get? id = _
    revert hresult
    unfold Store.register
    split
    · simp
    · split
      · simp
      · rename_i id' r hr
        intro hresult
        cases hresult
        obtain ⟨-, -, hentries⟩ := Registry.register_eq_ok hr
        exact (Registry.get?_of_insert hentries id).trans (if_pos rfl)
  | opened ha hr =>
    cases ha
    obtain ⟨-, -, rfl⟩ := call?_eq_some_iff.1 hs
    have hlog : .accepted (.ofChannel id .openRequest) ∈ σ.store.holdHandle.openChannel.2.log := hr
    show σ.store.holdHandle.openChannel.2.store.connection.registry.get? id = _
    obtain ⟨e', h, -⟩ | ⟨id', r, n, -, hr, hn, h⟩ := σ.store.holdHandle.openChannel_cases
    · rw [h] at hlog
      cases hlog
    · rw [h] at hlog ⊢
      have hid : id = id' := by
        obtain ⟨octets, -, -, ⟨-, rfl⟩ | ⟨-, rfl⟩⟩ := send_cases hn
        · simp only [Next.andThen, List.mem_cons, List.not_mem_nil, or_false, reduceCtorEq] at hlog
          exact congrArg Frame.channel (Event.accepted.inj hlog)
        · exact congrArg Frame.channel (Event.accepted.inj (List.mem_singleton.1 hlog))
      subst hid
      obtain ⟨-, -, hentries⟩ := Registry.register_eq_ok hr
      rw [show (n.andThen [.handOver _]).store.connection.registry = r from (send_isApart hn).registry]
      exact (Registry.get?_of_insert hentries id).trans (if_pos rfl)

/-- An endpoint of user code is told of a frame when the frame goes to it. -/
theorem framesTo_notes (hσ : σ.Reachable) (hs : σ.next? a = some τ) (n : Nat) :
    framesTo n (σ.notes a).reverse = (Moment.arrival? n ⟨σ, a, τ⟩).toList := by
  have none_of : ∀ {es : List Event}, (∀ f, .started (.endpointFrame n f) ∉ es) →
      framesTo n es = [] := by
    intro es hes
    refine List.filterMap_eq_nil_iff.2 fun ev hev => ?_
    split
    · rename_i k f
      exact if_neg fun hk : k = n => hes f (hk ▸ hev)
    · rfl
  unfold Moment.arrival?
  dsimp only
  cases hr : σ.routes? with
  | none =>
    refine none_of fun f hf => ?_
    obtain ⟨e, f', hr', -⟩ := routes?_of_isDelivery hσ hs (List.mem_reverse.1 hf) rfl
    rw [hr] at hr'
    cases hr'
  | some r =>
    obtain ⟨e, f⟩ := r
    by_cases he : e = .custom n
    · subst he
      rw [(delivers_of_routes? hσ hr hs).2, Option.bind_some, if_pos rfl]
      show framesTo n [.started (.endpointFrame n f), .received f] = [f]
      simp [framesTo]
    · rw [Option.bind_some, if_neg he]
      refine none_of fun f' hf' => ?_
      obtain ⟨e', f'', hr', hcb⟩ := routes?_of_isDelivery hσ hs (List.mem_reverse.1 hf') rfl
      rw [hr] at hr'
      cases hr'
      exact he (Option.some.inj hcb).symm

end Step

/-! ## Along a run -/

/-- An id stays with its endpoint all along a run, unless some step of it takes it away. -/
theorem Trail.isBound_or_takesAway {σ₀ σ : Session} {ms : List Moment} (h : Trail σ₀ ms σ)
    (h₀ : σ₀.Reachable) {id : UInt16} {e : EndpointRef} (hb : σ₀.IsBound id e) :
    σ.IsBound id e ∨ ∃ m ∈ ms, m.before.IsBound id e ∧ m.TakesAway id e := by
  refine h.induction h₀ (P := fun ms σ => σ.IsBound id e ∨
    ∃ m ∈ ms, m.before.IsBound id e ∧ m.TakesAway id e) (.inl hb) ?_
  intro ms σ a τ hσ ih hs
  rcases ih with hbound | ⟨m, hm, hlost⟩
  · exact (Session.isBound_or_takesAway hσ hs hbound).imp_right
      fun hlost => ⟨_, List.mem_cons_self, hbound, hlost⟩
  · exact .inr ⟨m, List.mem_cons_of_mem _ hm, hlost⟩

theorem framesTo_connect (o : Options) (n : Nat) : framesTo n (connect o).log = [] := by
  refine List.filterMap_eq_nil_iff.2 fun ev hev => ?_
  split
  · rename_i k f
    have hlog : Event.started (.endpointFrame k f) ∈ ((Store.new o).offer .greeting).log := by
      have hev' : _ ∈ ((Store.new o).offer .greeting).log.reverse ++ [] := hev
      rwa [List.append_nil, List.mem_reverse] at hev'
    cases (offer_isApart _ _).quiet _ hlog
  · rfl

/-- An id that was given out belongs to its endpoint until the endpoint gives it back while it goes by
it, a limit turns it away, or the connection is closed or destroyed; nobody else's attempt to give it
back has any effect. A frame for a channel is delivered to the endpoint that has its id, if that still
exists, once and to nobody else, and is passed over otherwise. -/
theorem ids_kept_and_frames_routed {o : Options} {ms : List Moment} {σ : Session}
    (h : Trail (connect o) ms σ) :
    (∀ later m earlier id e, ms = later ++ m :: earlier → m.GivesOut id e →
      σ.IsBound id e ∨ ∃ m' ∈ later, m'.before.IsBound id e ∧ m'.TakesAway id e) ∧
    (∀ m ∈ ms, ∀ e, m.Unregisters e → ¬ m.before.IsBound (m.before.store.idOf e) e →
      m.after.store.connection.registry = m.before.store.connection.registry) ∧
    (∀ m ∈ ms, ∀ f, m.before.takes? = some f → f.channel ≠ 0 → f.body ≠ .heartbeat →
      m.before.store.connection.state ≠ .closing →
      (∃ e, m.before.IsBound f.channel e ∧ m.before.store.isLive e = true ∧ m.Delivers e f) ∨
        (∀ e, m.before.IsBound f.channel e → m.before.store.isLive e = false) ∧ m.Skips f) ∧
    (∀ m ∈ ms, ∀ cb, .started cb ∈ m.noted → cb.isDelivery = true →
      ∃ e f, m.before.routes? = some (e, f) ∧ cb.endpoint? = some e) ∧
    ∀ n, framesTo n σ.log = ms.filterMap (Moment.arrival? n) := by
  have h₀ : (connect o).Reachable := ⟨o, .refl⟩
  have hm := h.moment h₀
  refine ⟨?_, ?_, ?_, ?_, fun n => ?_⟩
  · rintro later m earlier id e rfl hg
    obtain ⟨hr, hs⟩ := hm m (List.mem_append_right _ List.mem_cons_self)
    exact h.split.2.isBound_or_takesAway (hr.step (.next hs)) (isBound_of_givesOut hs hg)
  · intro m hmem e hu hb
    obtain ⟨hr, hs⟩ := hm m hmem
    rw [registry_of_unregisters hr hs hu, Registry.release_of_ne fun hc => hb hc.2]
  · intro m hmem f hf hz hh hc
    obtain ⟨hr, hs⟩ := hm m hmem
    have hn : ¬ (f.body = .heartbeat ∨ m.before.store.connection.state = .closing) :=
      not_or.2 ⟨hh, hc⟩
    cases ha : m.before.store.addressee? f with
    | some e =>
      obtain ⟨hb, hl⟩ := addressee?_eq_some_iff.1 ha
      exact .inl ⟨e, hb, hl, (delivers_of_routes? hr (routes?_eq_some_iff.2 ⟨hf, hz, hn, ha⟩) hs).1⟩
    | none =>
      refine .inr ⟨fun e hb => ?_, skips_of_routes? hr hf hz (.inr ha) hs⟩
      rw [Bool.eq_false_iff]
      intro hl
      rw [addressee?_eq_some_iff.2 ⟨hb, hl⟩] at ha
      cases ha
  · intro m hmem cb hcb hd
    obtain ⟨hr, hs⟩ := hm m hmem
    exact routes?_of_isDelivery hr hs hcb hd
  · refine h.induction h₀ (P := fun ms σ => framesTo n σ.log = ms.filterMap (Moment.arrival? n))
      (framesTo_connect o n) ?_
    intro ms σ a τ hσ ih hs
    have hsplit : framesTo n τ.log = framesTo n (σ.notes a).reverse ++ framesTo n σ.log := by
      rw [log_of_next? hs]
      exact List.filterMap_append
    rw [hsplit, framesTo_notes hσ hs, ih, List.filterMap_cons]
    cases Moment.arrival? n ⟨σ, a, τ⟩ <;> rfl

/-- The endpoint that user code takes out of the registry. -/
def Moment.unregistered? (m : Moment) : Option Nat :=
  match m.act with
  | some (.call (.unregister n)) => some n
  | _ => none

theorem Moment.unregisters_of_unregistered? {m : Moment} {n : Nat} (h : m.unregistered? = some n) :
    m.Unregisters (.custom n) := by
  unfold unregistered? at h
  split at h
  · rename_i ha
    cases h
    exact .called n ha
  · cases h

/-- An endpoint is registered and goes by its id; another one that goes by the same id is taken out in
vain, and then a frame comes. -/
def impersonate : List (Option Act) :=
  establish ++ [some (.call (.newEndpoint 0)), none, some (.call (.newEndpoint 1)), none,
    some (.call (.register 0)), none, some (.call (.setEndpointId 0 1)), none,
    some (.call (.unregister 1)), none,
    some (.call (.parse (Frame.ofChannel 1 (.flow true)).toWire.octets)), none]

theorem ids_kept_and_frames_routed_impersonated : ∃ (ms : List Moment) (σ : Session),
    Trail (connect .standard) ms σ ∧ σ.IsBound 1 (.custom 0) ∧
      (∃ m ∈ ms, m.Unregisters (.custom 1) ∧ m.before.store.idOf (.custom 1) = 1 ∧
        m.before.IsBound 1 (.custom 0) ∧
        m.after.store.connection.registry = m.before.store.connection.registry) ∧
      framesTo 0 σ.log = [.ofChannel 1 (.flow true)] := by
  obtain ⟨ms, σ, h, he⟩ := exists_trail_of_record impersonate (connect .standard)
    (fun ms σ => (σ.store.connection.registry.get? 1, ms.filterMap (Moment.arrival? 0),
      ms.any fun m => m.unregistered? == some 1 &&
        m.before.store.idOf (.custom 1) == 1 &&
        m.before.store.connection.registry.get? 1 == some (.custom 0)))
    (a := (some (.custom 0), [.ofChannel 1 (.flow true)], true)) (by decide +kernel)
  obtain ⟨hb, he⟩ := Prod.mk.inj he
  obtain ⟨harrivals, hany⟩ := Prod.mk.inj he
  obtain ⟨-, hforeign, -, -, hframes⟩ := ids_kept_and_frames_routed h
  obtain ⟨m, hm, htest⟩ := List.any_eq_true.1 hany
  simp only [Bool.and_eq_true, beq_iff_eq] at htest
  obtain ⟨⟨hact, hid⟩, hbound⟩ := htest
  have hu : m.Unregisters (.custom 1) := Moment.unregisters_of_unregistered? hact
  refine ⟨ms, σ, h, hb, ⟨m, hm, hu, hid, hbound, hforeign m hm _ hu ?_⟩, (hframes 0).trans harrivals⟩
  rw [hid, IsBound, hbound]
  simp

end Session

end AmqpSession
