/-
A client and a server that keeps to the rules, run against each other in any order. Peace lasts until
the client is told that a channel is open that it closed before it was told (`Course.peaceful_iff`).
-/
import AmqpSession.Proofs.Agreement
import AmqpSession.Proofs.Effort
import AmqpSession.Proofs.Exchange

namespace AmqpSession

open Wire Session

/-! ## Peace -/

namespace Exchange

/-- Nothing went wrong so far, and nothing will unless the client is told late that a channel is open. -/
structure IsAtPeace (e : Exchange) : Prop where
  tasks : e.session.tasks = []
  quiet : NoError e.session.log
  read_le : e.read ≤ (handedOver e.session.log).length
  onTrack : OnTrack e.session.store e.opened e.flight e.unread

variable {e e' : Exchange} {a : Act} {σ τ : Session}

theorem unread_append (h : e.read ≤ (handedOver e.session.log).length) (s : Store) (es : List Event) :
    unread { e with session := ⟨s, [], es ++ e.session.log⟩ } = e.unread ++ handedOver es := by
  show (handedOver (es ++ e.session.log)).drop e.read = _
  rw [handedOver_append, List.drop_append_of_le_length h]
  rfl

theorem Fresh.unanswered (h : e.Fresh) : e.Unanswered := by
  have hgone : ∀ c, e.session.store.channel c = .gone := fun c => by
    unfold Store.channel
    rw [h.channels]
    rfl
  have hunread : e.unread = [] := by
    unfold unread
    rw [h.read, List.drop_length]
  exact
    { tasks := h.tasks
      rests :=
        { connected := h.connected
          alive := h.alive
          owned := h.owned
          queue := h.queue
          held := fun c => by rw [hgone c]; rfl
          named := fun {id _} hg => by
            rw [h.registry id] at hg
            cases hg
          known := fun {c} ho => by
            rw [hgone c] at ho
            exact absurd rfl ho }
      limit := h.limit
      quiet := h.quiet
      read_le := Nat.le_of_eq h.read
      opened := h.opened
      flight := h.flight
      requests := fun f hf => by
        rw [hunread] at hf
        cases hf
      asked := fun {id _} hst => by
        rw [Store.stateOn_of_get?_none (h.registry id)] at hst
        cases hst }

theorem Unanswered.isAtPeace (h : e.Unanswered) : e.IsAtPeace := by
  refine ⟨h.tasks, h.quiet, h.read_le, ?_⟩
  rw [h.opened, h.flight]
  exact
    { rests := h.rests
      limit := h.limit
      servers := nofun
      requests := h.requests
      nonzero := nofun
      stage := fun id => by
        cases hst : e.session.store.stateOn id with
        | none => exact .nobody ..
        | some state => exact (h.asked hst).stage List.not_mem_nil }

theorem of_not_lingers {id : UInt16} (h : e.lingers id = false) :
    id ∉ e.opened ∧ bodiesOn id e.flight = [] ∧ requestsOn id e.unread = [] := by
  unfold lingers at h
  rw [Bool.or_eq_false_iff, Bool.or_eq_false_iff] at h
  obtain ⟨⟨hopened, hflight⟩, hunread⟩ := h
  refine ⟨fun hm => ?_, bodiesOn_eq_nil fun f hf hx => ?_, requestsOn_eq_nil fun f hf hr hx => ?_⟩
  · rw [List.contains_iff_mem.2 hm] at hopened
    cases hopened
  · exact absurd (beq_iff_eq.2 hx) (List.any_eq_false.1 hflight f hf)
  · refine absurd ?_ (List.any_eq_false.1 hunread f hf)
    rw [Bool.and_eq_true, beq_iff_eq]
    exact ⟨hx, hr⟩

theorem isLate_deliver_iff {arrived : List Frame} :
    e.isLate (.deliver arrived) = true ↔
      ∃ g ∈ arrived, g.body = openOkBody ∧ e.session.store.stateOn g.channel = some .closing := by
  unfold isLate
  simp only [List.any_eq_true, Bool.and_eq_true, beq_iff_eq]

theorem stateOn_of_not_isLate {arrived : List Frame} (h : e.isLate (.deliver arrived) = false) :
    ∀ g ∈ arrived, g.body = openOkBody → e.session.store.stateOn g.channel ≠ some .closing := by
  intro g hg hb hst
  rw [isLate_deliver_iff.2 ⟨g, hg, hb, hst⟩] at h
  cases h

theorem IsAtPeace.settles_call (h : e.IsAtPeace) {c : Session.Call} (hc : c.isClients = true)
    (hσ : e.session.call? c = some σ) :
    ∃ id state s' es, ClientMove e.session.store c (handedOver es) id state ∧
      e.session.store.Turns s' id state ∧ NoError es ∧ σ.Settles ⟨s', [], es ++ e.session.log⟩ := by
  obtain ⟨-, hl, rfl⟩ := call?_eq_some_iff.1 hσ
  obtain ⟨fs, s', id, state, hm, hturns, hleads⟩ := c.run_comesToRest h.onTrack.rests hc hl
  obtain ⟨es, rfl, hq, hsettles⟩ := hleads.settles e.session.log
  rw [h.tasks]
  exact ⟨id, state, s', es, hm, hturns, hq, hsettles⟩

theorem IsAtPeace.settles_deliver (h : e.IsAtPeace) {arrived rest : List Frame}
    (hf : e.flight = arrived ++ rest) (hσ : e.session.call? (.parse (octetsOf arrived)) = some σ)
    (hnot : ∀ g ∈ arrived, g.body = openOkBody → e.session.store.stateOn g.channel ≠ some .closing) :
    ∃ s' es, OnTrack s' e.opened rest (e.unread ++ handedOver es) ∧
      e.session.store.Receives s' arrived ∧ NoError es ∧ σ.Settles ⟨s', [], es ++ e.session.log⟩ := by
  obtain ⟨-, -, rfl⟩ := call?_eq_some_iff.1 hσ
  have hon := h.onTrack.holdHandle
  rw [hf] at hon
  obtain ⟨fs, s', processed, hon', hreceives, hheld, hleads⟩ := hon.deliver hnot 0 []
  have hone : s'.connection.held ≠ 0 := hheld ▸ Nat.succ_ne_zero _
  have hall : (Next.follow e.session.store.holdHandle [.parse (octetsOf arrived) 0]).Leads [] (fs ++ [])
      s'.loseHandle [] := .follow (hleads.trans (.parse_end hon'.rests.owned hone processed))
  obtain ⟨es, hes, hq, hsettles⟩ := hall.settles e.session.log
  rw [List.append_nil] at hes
  rw [h.tasks]
  exact ⟨s'.loseHandle, es, hes ▸ hon'.loseHandle, ⟨hreceives.retired, hreceives.confirmed⟩, hq,
    hsettles⟩

/-- The late confirmation ends the peace. -/
theorem IsAtPeace.reports_deliver (h : e.IsAtPeace) {arrived rest : List Frame}
    (hf : e.flight = arrived ++ rest) (hσ : e.session.call? (.parse (octetsOf arrived)) = some σ)
    (hlate : ∃ g ∈ arrived, g.body = openOkBody ∧ e.session.store.stateOn g.channel = some .closing)
    (hτ : σ.Settles τ) : ¬ NoError τ.log := by
  obtain ⟨-, -, rfl⟩ := call?_eq_some_iff.1 hσ
  have hon := h.onTrack.holdHandle
  rw [hf] at hon
  rw [h.tasks] at hτ
  obtain ⟨fs, s', es', text, rest', hleads⟩ := hon.deliver_late hlate 0 []
  obtain ⟨es, -, -, hpasses⟩ := hleads
  have hsettles := hτ.of_passes (hpasses e.session.log)
  exact fun hq => hq text (hsettles.started (.inl ⟨[.invalidateEach es'], rest', rfl⟩))

/-- What one act leaves in force, as long as nobody is told late that a channel is open. -/
structure Keeps (e e' : Exchange) (a : Act) : Prop where
  isAtPeace : e'.IsAtPeace
  retired : ∀ {c}, e.session.store.IsRetired c → e'.session.store.IsRetired c
  confirmed : ∀ {c}, c < e.session.store.channels.length → e.confirms a c = true →
    e'.session.store.IsRetired c

theorem IsAtPeace.settle (h : e.IsAtPeace) {s : Store} {es : List Event} {flight : List Frame}
    (hq : NoError es) (ha : OnTrack s e.opened flight (e.unread ++ handedOver es)) :
    IsAtPeace { e with session := ⟨s, [], es ++ e.session.log⟩, flight := flight } where
  tasks := rfl
  quiet := noError_append.2 ⟨hq, h.quiet⟩
  read_le := by
    show e.read ≤ (handedOver (es ++ e.session.log)).length
    rw [handedOver_append, List.length_append]
    exact Nat.le_add_right_of_le h.read_le
  onTrack := by
    have hunread := e.unread_append h.read_le s es
    show OnTrack s e.opened flight (unread { e with session := ⟨s, [], es ++ e.session.log⟩ })
    rw [hunread]
    exact ha

/-- A channel that is named by the id under which it was opened, or by none. -/
theorem IsAtPeace.cases_channel (h : e.IsAtPeace) {c : Nat} (hc : c < e.session.store.channels.length) :
    e.session.store.connection.registry.get? (e.session.store.channel c).id = some (.channel c) ∨
      e.session.store.IsRetired c := by
  by_cases hr : e.session.store.IsRetired c
  · exact .inr hr
  · have hnamed : ∃ id, e.session.store.connection.registry.get? id = some (.channel c) :=
      Classical.byContradiction fun hno => hr ⟨hc, fun id hg => hno ⟨id, hg⟩⟩
    obtain ⟨id, hg⟩ := hnamed
    rw [(h.onTrack.rests.isNamed hg).id_eq]
    exact .inl hg

theorem IsAtPeace.keeps (h : e.IsAtPeace) (hs : Step e a e') (hr : e.reuses a = false)
    (hl : e.isLate a = false) : e.Keeps e' a := by
  cases hs with
  | @call c _ _ hb hτ =>
    cases hb with
    | call hc hσ =>
      obtain ⟨id, state, s', es, hm, hturns, hq, hsettles⟩ := h.settles_call hc hσ
      -- there is only one end, so the work ended at rest
      cases hτ.unique hsettles
      have hnew : ∀ r, c = .openChannel →
          e.session.store.connection.registry.register (.channel e.session.store.channels.length) =
            .ok (id, r) → e.lingers id = false := by
        rintro r rfl hreg
        rw [reuses, hreg] at hr
        exact hr
      have hon := h.onTrack.move hm hturns fun r hc hreg => of_not_lingers (hnew r hc hreg)
      exact ⟨h.settle hq hon, hturns.retired, fun _ hc => nomatch hc⟩
  | @read f rest hf =>
    have hread : e.read < (handedOver e.session.log).length := by
      refine Nat.lt_of_not_le fun hle => ?_
      rw [unread, List.drop_eq_nil_of_le hle] at hf
      cases hf
    have hrest : (handedOver e.session.log).drop (e.read + 1) = rest := by
      rw [← List.tail_drop]
      exact congrArg List.tail hf
    have hon := h.onTrack
    rw [hf] at hon
    refine ⟨⟨h.tasks, h.quiet, hread, ?_⟩, id, fun _ hc => nomatch hc⟩
    show OnTrack _ _ _ ((handedOver e.session.log).drop (e.read + 1))
    rw [hrest]
    exact hon.read
  | push ho hb hf =>
    exact ⟨⟨h.tasks, h.quiet, h.read_le, h.onTrack.push ho hb hf⟩, id, fun _ hc => nomatch hc⟩
  | deliver hb hf hτ =>
    cases hb with
    | deliver _ hσ =>
      obtain ⟨s', es, hon, hreceives, hq, hsettles⟩ :=
        h.settles_deliver hf hσ (stateOn_of_not_isLate hl)
      cases hτ.unique hsettles
      refine ⟨h.settle hq hon, hreceives.retired, fun {c} hc hconfirms => ?_⟩
      -- the confirmation finds the channel under its id, or the id was given back before
      rcases h.cases_channel hc with hg | hretired
      · exact hreceives.confirmed (List.contains_iff_mem.1 hconfirms) hg
      · exact hreceives.retired hretired

/-- A late confirmation is reported as an error. -/
theorem IsAtPeace.error_of_isLate (h : e.IsAtPeace) (hs : Step e a e') (hl : e.isLate a = true) :
    ¬ NoError e'.session.log := by
  cases hs with
  | deliver hb hf hτ =>
    cases hb with
    | deliver _ hσ => exact h.reports_deliver hf hσ (isLate_deliver_iff.1 hl) hτ
  | _ => cases hl

theorem Step.suffix (hs : Step e a e') : e.session.log <:+ e'.session.log := by
  have hcall : ∀ {c : Session.Call} {σ τ : Session}, e.session.call? c = some σ → σ.Settles τ →
      e.session.log <:+ τ.log := by
    intro c σ τ hσ hτ
    obtain ⟨-, -, rfl⟩ := call?_eq_some_iff.1 hσ
    exact (List.suffix_append _ _).trans hτ.1.suffix
  cases hs with
  | call hb hτ =>
    cases hb with
    | call _ hσ => exact hcall hσ hτ
  | deliver hb _ hτ =>
    cases hb with
    | deliver _ hσ => exact hcall hσ hτ
  | read | push => exact List.suffix_refl _

/-! ## Runs -/

namespace Course

variable {e₀ : Exchange} {acts : List (Exchange × Act)}

/-- Peace lasts until the client is told late that a channel is open. -/
theorem isAtPeace (hc : Course e₀ acts e) (h₀ : e₀.IsAtPeace)
    (hr : ∀ p ∈ acts, p.1.reuses p.2 = false) (hl : ∀ p ∈ acts, p.1.isLate p.2 = false) :
    e.IsAtPeace := by
  induction hc with
  | nil => exact h₀
  | cons _ hs ih =>
    have he := ih (fun p hp => hr p (List.mem_cons_of_mem _ hp))
      fun p hp => hl p (List.mem_cons_of_mem _ hp)
    exact (he.keeps hs (hr _ List.mem_cons_self) (hl _ List.mem_cons_self)).isAtPeace

/-- It does not last longer. -/
theorem error_of_isLate (hc : Course e₀ acts e) (h₀ : e₀.IsAtPeace)
    (hr : ∀ p ∈ acts, p.1.reuses p.2 = false) (hl : ∃ p ∈ acts, p.1.isLate p.2 = true) :
    ¬ NoError e.session.log := by
  induction hc with
  | nil =>
    obtain ⟨p, hp, -⟩ := hl
    cases hp
  | @cons acts e e' a hc hs ih =>
    have hr' := fun p hp => hr p (List.mem_cons_of_mem _ hp)
    by_cases hbefore : ∃ p ∈ acts, p.1.isLate p.2 = true
    · -- the error is on record already, and stays there
      exact fun hq => ih hr' hbefore fun text ht => hq text (hs.suffix.subset ht)
    · have hno : ∀ p ∈ acts, p.1.isLate p.2 = false := fun p hp =>
        Bool.eq_false_iff.2 fun h => hbefore ⟨p, hp, h⟩
      obtain ⟨p, hp, hlate⟩ := hl
      rcases List.mem_cons.1 hp with rfl | hp
      · exact (hc.isAtPeace h₀ hr' hno).error_of_isLate hs hlate
      · exact absurd hlate (Bool.eq_false_iff.1 (hno p hp))

/-- A channel that the server confirmed to be closed has no id any more. -/
theorem isRetired (hc : Course e₀ acts e) (h₀ : e₀.IsAtPeace)
    (hr : ∀ p ∈ acts, p.1.reuses p.2 = false) (hl : ∀ p ∈ acts, p.1.isLate p.2 = false)
    {p : Exchange × Act} (hp : p ∈ acts) {c : Nat} (hlt : c < p.1.session.store.channels.length)
    (hconfirms : p.1.confirms p.2 c = true) : e.session.store.IsRetired c := by
  induction hc with
  | nil => cases hp
  | cons hc hs ih =>
    have hr' := fun p hp => hr p (List.mem_cons_of_mem _ hp)
    have hl' := fun p hp => hl p (List.mem_cons_of_mem _ hp)
    have he := hc.isAtPeace h₀ hr' hl'
    have hkeeps := he.keeps hs (hr _ List.mem_cons_self) (hl _ List.mem_cons_self)
    rcases List.mem_cons.1 hp with rfl | hp
    · exact hkeeps.confirmed hlt hconfirms
    · exact hkeeps.retired (ih hr' hl' hp)

end Course

/-- A connection to a server that keeps to the rules stays established and reports no error, exactly if
no opening is confirmed to a channel that was closed in the meantime. Channels may have been opened before
the connection was established. A channel that the server confirmed to be closed has no id and, if user
code still holds it, is closed; and whatever the client does comes to an end. Left aside are runs in which
an id comes round before its last use has ended on both sides. -/
theorem Course.peaceful_iff {e₀ : Exchange} {acts : List (Exchange × Act)} (hc : Course e₀ acts e)
    (h₀ : e₀.Unanswered) (hr : ∀ p ∈ acts, p.1.reuses p.2 = false) :
    (e.Peaceful ↔ ∀ p ∈ acts, p.1.isLate p.2 = false) ∧
      (e.Peaceful →
        (∀ p ∈ acts, ∀ c, c < p.1.session.store.channels.length → p.1.confirms p.2 c = true →
          (∀ id, e.session.store.connection.registry.get? id ≠ some (.channel c)) ∧
            (e.session.store.isLive (.channel c) = true →
              (e.session.store.channel c).state = .closed)) ∧
        ∀ a σ, e.Begins a σ → e.isLate a = false → ∃ τ, σ.Settles τ) := by
  have hlate : e.Peaceful → ∀ p ∈ acts, p.1.isLate p.2 = false := fun hp p hm =>
    Bool.eq_false_iff.2 fun hl => hc.error_of_isLate h₀.isAtPeace hr ⟨p, hm, hl⟩ hp.2
  refine ⟨⟨hlate, fun hl => ?_⟩, fun hp => ⟨fun p hm c hlt hconfirms => ?_,
    fun _ σ _ _ => exists_settles σ⟩⟩
  · have he := hc.isAtPeace h₀.isAtPeace hr hl
    exact ⟨he.onTrack.rests.connected, he.quiet⟩
  · have he := hc.isAtPeace h₀.isAtPeace hr (hlate hp)
    have hretired := hc.isRetired h₀.isAtPeace hr (hlate hp) hm hlt hconfirms
    exact ⟨hretired.2, he.onTrack.rests.state_of_isRetired hretired⟩

/-! ## Runs as data -/

/-- An act, if it is possible and its work is done after so many steps. -/
def act? (e : Exchange) (steps : Nat) : Act → Option Exchange
  | .call c => do
    let σ ← e.session.call? c
    let τ := σ.coast steps
    if c.isClients && τ.tasks.isEmpty then some { e with session := τ } else none
  | .read =>
    match e.unread with
    | f :: _ => some { e with
        read := e.read + 1
        opened := openedAfter f e.opened
        flight := e.flight ++ answersTo f }
    | [] => none
  | .push f =>
    match f.toWire.result with
    | .ok octets =>
      if e.opened.contains f.channel && f.body.isPushable &&
          !Frame.exceeds octets.length e.session.store.connection.maxFrameSize then
        some { e with flight := e.flight ++ [f] }
      else none
    | .error _ => none
  | .deliver arrived => do
    let σ ← e.session.call? (.parse (octetsOf arrived))
    let τ := σ.coast steps
    if arrived.isPrefixOf e.flight && τ.tasks.isEmpty then
      some { e with session := τ, flight := e.flight.drop arrived.length }
    else none

theorem Step.of_act? {steps : Nat} (h : e.act? steps a = some e') : Step e a e' := by
  cases a with
  | call c =>
    obtain ⟨σ, hσ, h⟩ := Option.bind_eq_some_iff.1 h
    dsimp only at h
    split at h
    · rename_i hc
      rw [Bool.and_eq_true, List.isEmpty_iff] at hc
      cases h
      exact .call (.call hc.1 hσ) (settles_coast hc.2)
    · cases h
  | read =>
    dsimp only [act?] at h
    split at h
    · rename_i hf
      cases h
      exact .read hf
    · cases h
  | push f =>
    dsimp only [act?] at h
    split at h
    · rename_i octets hw
      split at h
      · rename_i hc
        rw [Bool.and_eq_true, Bool.and_eq_true, List.contains_iff_mem, Bool.not_eq_true'] at hc
        cases h
        exact .push hc.1.1 hc.1.2 ⟨octets, hw, hc.2⟩
      · cases h
    · cases h
  | deliver arrived =>
    obtain ⟨σ, hσ, h⟩ := Option.bind_eq_some_iff.1 h
    dsimp only at h
    split at h
    · rename_i hc
      rw [Bool.and_eq_true, List.isPrefixOf_iff_prefix, List.isEmpty_iff] at hc
      have hf : e.flight = arrived ++ e.flight.drop arrived.length :=
        List.prefix_iff_eq_append.1 hc.1 |>.symm
      cases h
      exact .deliver (.deliver hf hσ) hf (settles_coast hc.2)
    · cases h

/-- A run by its acts, with where each took place, the latest first. -/
def play? (steps : Nat) (e : Exchange) : List Act → Option (List (Exchange × Act) × Exchange)
  | [] => some ([], e)
  | a :: script => do
    let e' ← e.act? steps a
    let (acts, e'') ← e'.play? steps script
    some (acts ++ [(e, a)], e'')

theorem Course.of_step {e₀ : Exchange} {acts : List (Exchange × Act)} {a : Act} (hs : Step e₀ a e)
    (hc : Course e acts e') : Course e₀ (acts ++ [(e₀, a)]) e' := by
  induction hc with
  | nil => exact .cons .nil hs
  | cons _ hs' ih => exact .cons ih hs'

theorem Course.of_play? {steps : Nat} {script : List Act} {acts : List (Exchange × Act)}
    (h : e.play? steps script = some (acts, e')) : Course e acts e' := by
  induction script generalizing e acts with
  | nil =>
    cases h
    exact .nil
  | cons a script ih =>
    obtain ⟨e₁, he₁, h⟩ := Option.bind_eq_some_iff.1 h
    obtain ⟨⟨acts₁, e₂⟩, hplay, h⟩ := Option.bind_eq_some_iff.1 h
    cases h
    exact .of_step (.of_act? he₁) (ih hplay)

theorem acts_of_play? {steps : Nat} {script : List Act} {acts : List (Exchange × Act)}
    (h : e.play? steps script = some (acts, e')) : acts.reverse.map (·.2) = script := by
  induction script generalizing e acts with
  | nil =>
    cases h
    rfl
  | cons a script ih =>
    obtain ⟨e₁, -, h⟩ := Option.bind_eq_some_iff.1 h
    obtain ⟨⟨acts₁, e₂⟩, hplay, h⟩ := Option.bind_eq_some_iff.1 h
    cases h
    rw [List.reverse_append, List.map_append, ih hplay]
    rfl

/-- A connection that was just established, with a server that has read everything. -/
def established : Exchange :=
  let σ := ((connect .standard).play establish).getD (connect .standard)
  ⟨σ, (handedOver σ.log).length, [], []⟩

theorem fresh_established : established.Fresh where
  tasks := List.isEmpty_iff.1 (by decide +kernel)
  connected := by decide +kernel
  alive := by decide +kernel
  owned := by decide +kernel
  queue := by decide +kernel
  channels := by decide +kernel
  registry id := by
    have hempty : established.session.store.connection.registry.entries.isEmpty = true := by
      decide +kernel
    exact Std.TreeMap.getElem?_of_isEmpty hempty
  limit := .inr (by decide +kernel)
  quiet := noError_of_reports (by decide +kernel)
  read := rfl
  opened := rfl
  flight := rfl

end Exchange

namespace Session

/-- Two channels are opened while the connection is negotiated, and the second is dropped at once. -/
def opensEarly : List (Option Act) :=
  greeted ++ openEarly ++ openEarly ++ [some (.call (.dropChannel 1)), none, none, none,
    some (.call (.parse serverHandshake))] ++ pass 1 ++ pass 2 ++ pass 2 ++ pass 1 ++
    [none, none, none] ++ pass 0 ++ pass 1 ++ pass 1 ++ pass 1 ++ [none, none, none, none, none]

end Session

namespace Exchange

/-- The connection is established, and the server has read nothing of what was held back until then. -/
def negotiated : Exchange := ⟨((connect .standard).play opensEarly).getD (connect .standard), 0, [], []⟩

theorem unanswered_negotiated : negotiated.Unanswered := by
  have hreachable : negotiated.session.Reachable := by
    obtain ⟨σ, hσ⟩ := Option.isSome_iff_exists.1
      (by decide +kernel : ((connect .standard).play opensEarly).isSome = true)
    have hsession : negotiated.session = σ := by
      show ((connect .standard).play opensEarly).getD (connect .standard) = σ
      rw [hσ]
      rfl
    rw [hsession]
    exact ⟨.standard, reaches_of_play hσ⟩
  have htasks : negotiated.session.tasks = [] := List.isEmpty_iff.1 (by decide +kernel)
  have hendpoints : negotiated.session.store.connection.registry.endpoints = [.channel 0] := by
    decide +kernel
  have hids : negotiated.session.store.connection.registry.ids = [1] := by decide +kernel
  exact
    { tasks := htasks
      rests := hreachable.rests htasks (by decide +kernel) (by decide +kernel) fun id k hg => by
        have hm := Registry.mem_endpoints_iff.2 ⟨id, hg⟩
        rw [hendpoints] at hm
        cases List.mem_singleton.1 hm
      limit := .inr (by decide +kernel)
      quiet := noError_of_reports (by decide +kernel)
      read_le := Nat.zero_le _
      opened := rfl
      flight := rfl
      requests := by decide +kernel
      asked := fun {id state} hst => by
        obtain ⟨c, hg, -⟩ := Store.exists_of_stateOn hst
        have hm := Registry.mem_ids_iff.2 ⟨_, hg⟩
        rw [hids] at hm
        obtain rfl := List.mem_singleton.1 hm
        have hstate : negotiated.session.store.stateOn 1 = some .opening := by decide +kernel
        have hrequests : requestsOn 1 negotiated.unread = [openBody] := by decide +kernel
        rw [hstate] at hst
        cases hst
        rw [hrequests]
        exact .opened }

/-- Data crosses the close of its channel. -/
def crossing : List Act :=
  [.call .openChannel, .read, .deliver [openAnswer 1], .push ⟨1, .content [0x2a]⟩,
    .call (.closeChannel 0), .deliver [⟨1, .content [0x2a]⟩], .read, .deliver [closeAnswer 1]]

/-- The same, where the channel was asked for during negotiation. -/
def crossingEarly : List Act :=
  [.read, .read, .read, .deliver [openAnswer 1, openAnswer 2, closeAnswer 2],
    .push ⟨1, .content [0x2a]⟩, .call (.closeChannel 0), .deliver [⟨1, .content [0x2a]⟩], .read,
    .deliver [closeAnswer 1]]

/-- Peace lasts, and the channel is closed in the end, whether it was opened on the established connection
or before. -/
theorem peaceful_iff_crossing :
    (∃ acts e, established.Fresh ∧ Course established acts e ∧
      (∀ p ∈ acts, p.1.reuses p.2 = false) ∧ e.Peaceful ∧
      (∀ id, e.session.store.connection.registry.get? id ≠ some (.channel 0)) ∧
      e.session.store.isLive (.channel 0) = true ∧ (e.session.store.channel 0).state = .closed) ∧
    ∃ acts e, negotiated.Unanswered ∧ Course negotiated acts e ∧
      (∀ p ∈ acts, p.1.reuses p.2 = false) ∧ e.Peaceful ∧
      (∀ id, e.session.store.connection.registry.get? id ≠ some (.channel 0)) ∧
      e.session.store.isLive (.channel 0) = true ∧ (e.session.store.channel 0).state = .closed := by
  have runs : ∀ {e₀ : Exchange} (script : List Act), e₀.Unanswered →
      (e₀.play? 20 script).map (fun r =>
        (r.1.all fun p => !p.1.reuses p.2, r.1.all fun p => !p.1.isLate p.2,
          r.1.any fun p => decide (0 < p.1.session.store.channels.length) && p.1.confirms p.2 0,
          r.2.session.store.isLive (.channel 0))) = some (true, true, true, true) →
      ∃ acts e, Course e₀ acts e ∧ (∀ p ∈ acts, p.1.reuses p.2 = false) ∧ e.Peaceful ∧
        (∀ id, e.session.store.connection.registry.get? id ≠ some (.channel 0)) ∧
        e.session.store.isLive (.channel 0) = true ∧ (e.session.store.channel 0).state = .closed := by
    intro e₀ script h₀ hplay
    obtain ⟨⟨acts, e⟩, hacts, he⟩ := Option.map_eq_some_iff.1 hplay
    simp only [Prod.mk.injEq, List.all_eq_true, List.any_eq_true, Bool.not_eq_true', Bool.and_eq_true,
      decide_eq_true_eq] at he
    obtain ⟨hr, hl, ⟨p, hp, hlt, hconfirms⟩, hlive⟩ := he
    have hcourse := Course.of_play? hacts
    obtain ⟨hpeace, hafter⟩ := hcourse.peaceful_iff h₀ hr
    obtain ⟨hclosed, -⟩ := hafter (hpeace.2 hl)
    obtain ⟨hid, hstate⟩ := hclosed p hp 0 hlt hconfirms
    exact ⟨acts, e, hcourse, hr, hpeace.2 hl, hid, hlive, hstate hlive⟩
  obtain ⟨acts, e, h⟩ := runs crossing fresh_established.unanswered (by decide +kernel)
  obtain ⟨acts', e', h'⟩ := runs crossingEarly unanswered_negotiated (by decide +kernel)
  exact ⟨⟨acts, e, fresh_established, h⟩, acts', e', unanswered_negotiated, h'⟩

/-- The server only answers, and still the connection ends with a report: the channel was closed before
its opening was confirmed. -/
theorem not_peaceful_of_early_close :
    ∃ acts e, established.Fresh ∧ Course established acts e ∧
      acts.reverse.map (·.2) =
        [.call .openChannel, .call (.closeChannel 0), .read, .deliver [openAnswer 1]] ∧
      .started (.error "Channel 1: unexpected method 20.11 in state Closing") ∈ e.session.log ∧
      e.session.store.connection.state = .closed := by
  have hplay : (established.play? 20
      [.call .openChannel, .call (.closeChannel 0), .read, .deliver [openAnswer 1]]).map (fun r =>
        (reports r.2.session.log, r.2.session.store.connection.state)) =
      some (["Channel 1: unexpected method 20.11 in state Closing"], .closed) := by decide +kernel
  obtain ⟨⟨acts, e⟩, hacts, he⟩ := Option.map_eq_some_iff.1 hplay
  obtain ⟨hreports, hstate⟩ := Prod.mk.inj he
  have hmem : "Channel 1: unexpected method 20.11 in state Closing" ∈ reports e.session.log := by
    rw [hreports]
    exact List.mem_singleton_self _
  exact ⟨acts, e, fresh_established, .of_play? hacts, acts_of_play? hacts, mem_reports_iff.1 hmem,
    hstate⟩

end Exchange

end AmqpSession
