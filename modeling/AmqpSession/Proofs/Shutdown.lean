/-
The close of a connection by this side, phase by phase. Until a close is due nothing of it happens
(`NotDue`). Then the endpoints are told to close one after the other (`Telling`), and the close of the
connection is accepted behind what they sent; frames that are held back go out before it (`Waiting`).
After it went out nothing goes out any more but the answer to the peer's own close (`Sent`). No callback
calls anything, so each step keeps the phase or leads to the next one (`NotDue.next?`, `Telling.next?`,
`Waiting.next?`, `Sent.next?`).
-/
import AmqpSession.Proofs.Closing
import AmqpSession.Proofs.InTurn
import AmqpSession.Proofs.Requests

namespace AmqpSession

open Wire

/-- A method of the connection itself. -/
def Wire.Body.isConnectionMethod : Body → Bool
  | .method m => m.classId == connectionClass
  | _ => false

/-! ## What goes out -/

/-- Nothing goes to the transport. -/
def NothingOut (es : List Event) : Prop :=
  (∀ f, .handed f ∉ es) ∧ ∀ octets, .started (.data octets) ∉ es

namespace NothingOut

variable {es es' : List Event}

theorem nil : NothingOut [] := ⟨by simp, by simp⟩

theorem append (h : NothingOut es) (h' : NothingOut es') : NothingOut (es ++ es') :=
  ⟨fun f hm => (List.mem_append.1 hm).elim (h.1 f) (h'.1 f),
    fun octets hm => (List.mem_append.1 hm).elim (h.2 octets) (h'.2 octets)⟩

theorem reverse (h : NothingOut es) : NothingOut es.reverse :=
  ⟨fun f hm => h.1 f (List.mem_reverse.1 hm), fun octets hm => h.2 octets (List.mem_reverse.1 hm)⟩

end NothingOut

/-- The peer's own close is answered, and nothing else goes out. -/
def AnswersOnly (es : List Event) : Prop :=
  ∃ later reason earlier, es = later ++ .started (.data Session.closeOkOctets) ::
    .received (.ofConnection (.close reason)) :: earlier ∧ NothingOut later ∧ NothingOut earlier

theorem AnswersOnly.append {es es' : List Event} (h : AnswersOnly es) (h' : NothingOut es') :
    AnswersOnly (es' ++ es) := by
  obtain ⟨later, reason, earlier, rfl, hl, he⟩ := h
  exact ⟨es' ++ later, reason, earlier, (List.append_assoc ..).symm, h'.append hl, he⟩

/-- What is kept was accepted. -/
theorem accepted_of_mem_kept {f : Frame} {log : List Event} (h : f ∈ kept log) : .accepted f ∈ log := by
  induction log with
  | nil => cases h
  | cons e log ih =>
    cases e with
    | accepted g =>
      rw [kept] at h
      split at h
      · exact List.mem_cons_of_mem _ (ih h)
      · rcases List.mem_append.1 h with h | h
        · exact List.mem_cons_of_mem _ (ih h)
        · rw [List.mem_singleton.1 h]
          exact List.mem_cons_self
    | discarded g =>
      rw [kept, eraseLast] at h
      exact List.mem_cons_of_mem _ (ih (List.mem_reverse.1 (List.mem_of_mem_erase (List.mem_reverse.1 h))))
    | _ => exact List.mem_cons_of_mem _ (ih h)

namespace Connection

variable {t : Option Task} {k k' : Connection} {es : List Event}

/-- Only the end of negotiation establishes a connection. -/
theorem Moves.connected (h : Moves t k es k') (hs : k'.state = .connected) : k.state = .connected := by
  induction h with
  | refl => exact hs
  | tail _ hm ih =>
    refine ih ?_
    cases hm with
    | answerOffer | awaitCloseOk | shut | destroyed => cases hs
    | _ => exact hs

/-- Where frames cannot be sent and none is held back, none is handed over. -/
theorem Moves.handed_notMem (h : Moves t k es k') (ho : ¬ k.isOpen) (hq : k.queue = []) :
    k'.queue = [] ∧ ∀ f, .handed f ∉ es := by
  induction h with
  | refl => exact ⟨hq, by simp⟩
  | @tail k' k'' es es' hprev hm ih =>
    obtain ⟨hq', hes⟩ := ih
    have ho' : ¬ k'.isOpen := fun h => ho (hprev.isOpen h)
    have hlast : k''.queue = [] ∧ ∀ f, .handed f ∉ es' := by
      cases hm with
      | pass f octets hw hopen | enqueue f octets hw hopen => exact absurd hopen ho'
      | dequeue f rest ht hf => rw [hq'] at hf; cases hf
      | discard id => simp [hq']
      | note e he => exact ⟨hq', fun f hf => by rw [← List.mem_singleton.1 hf] at he; cases he⟩
      | _ => exact ⟨hq', by simp⟩
    exact ⟨hlast.1, fun f hf => (List.mem_append.1 hf).elim (hes f) (hlast.2 f)⟩

end Connection

namespace Store

theorem exists_toWire_connectionClose : ∃ octets, connectionClose.toWire.result = .ok octets :=
  Frame.exists_toWire 0 (by decide) (by decide)

theorem receive_close (s : Store) (reason : Close) (p : Parsing) :
    s.receive (.ofConnection (.close reason)) p =
      ⟨s, [.user (.data Session.closeOkOctets), .closedByPeer reason, .handled none p none],
        [.received (.ofConnection (.close reason)), .started (.data Session.closeOkOctets)], none⟩ := rfl

end Store

namespace Session

open Store

variable {σ τ : Session} {a : Option Act} {K : List Frame}

/-! ## Steps -/

/-- User code calls only where no work is left, so no callback calls anything. -/
def Moment.CallsAtRest (m : Moment) : Prop := ∀ call, m.act = some (.call call) → m.before.tasks = []

instance (m : Moment) : Decidable m.CallsAtRest :=
  decidable_of_iff ((match m.act with
    | some (.call _) => m.before.tasks.isEmpty
    | _ => true) = true) <| by
    unfold Moment.CallsAtRest
    split
    · rename_i call ha
      rw [ha, List.isEmpty_iff]
      exact ⟨fun h _ _ => h, fun h => h call rfl⟩
    · rename_i hno
      exact ⟨fun _ call ha => absurd ha (hno call), fun _ => rfl⟩

/-- What user code sends in the step. -/
def Moment.sent? (m : Moment) : Option Body :=
  match m.act with
  | some (.call call) => call.sent?
  | _ => none

/-- A passive step: no callback calls anything, and user code sends no method of the connection. -/
structure Moment.IsPassive (m : Moment) : Prop where
  rest : m.CallsAtRest
  body : ∀ body, m.sent? = some body → body.isConnectionMethod = false

theorem Moment.IsPassive.of_not_call (ha : ∀ c, a ≠ some (.call c)) : Moment.IsPassive ⟨σ, a, τ⟩ := by
  refine ⟨fun c hc => absurd hc (ha c), fun body hbody => ?_⟩
  unfold Moment.sent? at hbody
  split at hbody
  · rename_i c hc
    exact absurd hc (ha c)
  · cases hbody

/-- A callback that waits returns. -/
theorem next?_of_user (hs : σ.next? a = some τ) (hp : Moment.IsPassive ⟨σ, a, τ⟩) {cb : Callback}
    {rest : List Task} (ht : σ.tasks = .user cb :: rest) :
    ∃ r, τ = { σ with tasks := answerWith cb r rest } := by
  obtain ⟨t, rest', n, -, ht', hn, -⟩ | ⟨call, rfl, -⟩ | ⟨r, cb', rest', -, ht', rfl⟩ := next?_cases hs
  · rw [ht] at ht'
    cases ht'
    cases hn
  · have h := hp.rest call rfl
    rw [ht] at h
    cases h
  · rw [ht] at ht'
    cases ht'
    exact ⟨r, rfl⟩

theorem answerWith_of_isFixed (cb : Callback) (r : Reply) {t : Task} (ht : t.isFixed = true)
    (rest : List Task) : answerWith cb r (t :: rest) = t :: rest := by
  unfold answerWith
  split
  · cases t <;> first | rfl | cases ht
  · cases t <;> first | rfl | cases ht
  · rfl

/-- What a passive step comes to for the close, where none is under way. -/
theorem next?_ending (hσ : σ.Reachable) (hs : σ.next? a = some τ) (hp : Moment.IsPassive ⟨σ, a, τ⟩)
    (hc : ∀ t ∈ σ.tasks, t.isClosing = false) :
    ∃ t n rest rest', σ.tasks = t.toList ++ rest ∧ (t = none → rest = []) ∧ τ.store = n.store ∧
      τ.tasks = n.tasks ++ rest' ∧ rest'.map Task.plain = rest.map Task.plain ∧
      τ.log = n.log.reverse ++ σ.log ∧ Ending σ.store t n := by
  obtain ⟨t, rest, n, rfl, ht, hn, rfl⟩ | ⟨call, rfl, -, -, rfl⟩ | ⟨r, cb, rest, rfl, ht, rfl⟩ :=
    next?_cases hs
  · have hmem : t ∈ σ.tasks := by rw [ht]; exact List.mem_cons_self
    refine ⟨some t, n, rest, below n rest, ht, by simp, rfl, rfl, map_plain_below n rest, rfl,
      Task.run_ending (hσ.isProper t hmem) (hc t hmem) ?_ hn⟩
    rintro rfl
    rw [hσ.held_eq, ht]
    simp [Task.handles]
  · refine ⟨none, call.run σ.store, σ.tasks, _, rfl, fun _ => hp.rest call rfl, rfl, rfl,
      map_plain_below _ σ.tasks, rfl, Call.run_ending σ.store fun body hbody he => ?_⟩
    have h := hp.body body hbody
    rw [he] at h
    cases h
  · exact ⟨some (.user cb), .only σ.store, rest, _, ht, by simp, rfl, rfl, map_plain_answerWith cb r rest,
      rfl, .of_isOrdinary (.only rfl) (.refl _)⟩

/-! ## A handle for every buffer -/

/-- Part of the work on a buffer. -/
def IsBuffers (t : Task) : Prop := t.isReading = true ∨ t = .announce ∨ t = .flush

theorem isBuffers_of_plain {t t' : Task} (he : t'.plain = t.plain) (h : IsBuffers t) : IsBuffers t' := by
  rcases h with h | rfl | rfl
  · exact .inl (by rw [← t'.isReading_plain, he, t.isReading_plain, h])
  · exact .inr (.inl (Task.eq_of_plain_eq he rfl))
  · exact .inr (.inr (Task.eq_of_plain_eq he rfl))

theorem not_isBuffers_of_isCommon {t : Task} (h : t.isCommon = true) : ¬ IsBuffers t := by
  rintro (hr | rfl | rfl)
  · cases t <;> first | cases h; done | cases hr
  · cases h
  · cases h

/-- Work on a buffer is left by such work only. -/
theorem isBuffers_of_run {t t' : Task} {s : Store} {n : Next} (hn : t.run s = some n) (ht : t' ∈ n.tasks)
    (h : IsBuffers t') : IsBuffers t := by
  by_cases hparse : ∃ buffer processed, t = .parse buffer processed
  · obtain ⟨buffer, processed, rfl⟩ := hparse
    exact .inl rfl
  · have hparse' : ∀ buffer processed, t ≠ .parse buffer processed := fun b p h => hparse ⟨b, p, h⟩
    rcases Task.run_tasks hparse' hn t' ht with hcommon | hl
    · exact absurd h (not_isBuffers_of_isCommon hcommon)
    · rcases h with h | rfl | rfl
      · exact .inl ((hl.serves hparse').1 h)
      all_goals
        unfold Task.LeadsTo at hl
        split at hl <;>
          grind [Connection.Reports, Connection.TearsDown, Connection.Closes, IsBuffers]

/-- User code has a handle of its own as long as one of its buffers is worked on. -/
def HoldsOn (σ : Session) : Prop := ∀ t ∈ σ.tasks, IsBuffers t → σ.store.connection.owned ≠ 0

theorem HoldsOn.next? (h : σ.HoldsOn) (hσ : σ.Reachable) (hs : σ.next? a = some τ)
    (hp : Moment.IsPassive ⟨σ, a, τ⟩) : τ.HoldsOn := by
  obtain ⟨t, rest, n, rfl, ht, hn, rfl⟩ | ⟨call, rfl, -, hl, rfl⟩ | ⟨r, cb, rest, rfl, ht, rfl⟩ :=
    next?_cases hs
  · intro t' ht' hb
    have howned : σ.store.connection.owned ≠ 0 := by
      rw [proceed_tasks] at ht'
      rcases List.mem_append.1 ht' with ht' | ht'
      · exact h t (by rw [ht]; exact List.mem_cons_self) (isBuffers_of_run hn ht' hb)
      · obtain ⟨t₀, ht₀, he⟩ := exists_mem_of_map_plain_eq (map_plain_below n rest) ht'
        exact h t₀ (by rw [ht]; exact List.mem_cons_of_mem t ht₀) (isBuffers_of_plain he hb)
    have hle := owned_le_of_tick hσ.isProper hs
    omega
  · have hrest : σ.tasks = [] := hp.rest call rfl
    intro t' ht' hb
    rw [proceed_tasks] at ht'
    rcases List.mem_append.1 ht' with ht' | ht'
    · by_cases hparse : ∃ buffer, call = .parse buffer
      · -- the call has a handle, and no work has one
        obtain ⟨buffer, rfl⟩ := hparse
        have hhandles : σ.store.handles ≠ 0 := by simpa [Call.isLegal] using hl
        have hheld := hσ.held_eq
        rw [hrest] at hheld
        intro howned
        refine hhandles ?_
        unfold Store.handles
        rw [hheld]
        exact Nat.add_eq_zero_iff.2 ⟨howned, rfl⟩
      · have hother := Call.run_isOther σ.store (fun buffer h => hparse ⟨buffer, h⟩) t' ht'
        rcases hb with hb | rfl | rfl
        · rw [hother.1] at hb
          cases hb
        all_goals
          rcases call.run_leadsTo σ.store _ ht' with hc | hc
          · cases hc
          · grind [Connection.CallLeadsTo, Connection.TearsDown, Connection.Closes]
    · have hbelow := map_plain_below (call.run σ.store) σ.tasks
      rw [hrest] at hbelow ht'
      rw [List.map_eq_nil_iff.1 hbelow] at ht'
      cases ht'
  · intro t' ht' hb
    obtain ⟨t₀, ht₀, he⟩ := exists_mem_of_map_plain_eq (map_plain_answerWith cb r rest) ht'
    exact h t₀ (by rw [ht]; exact List.mem_cons_of_mem _ ht₀) (isBuffers_of_plain he hb)

/-! ## The phases -/

/-- The close of the connection is due. -/
def MustClose (σ : Session) : Prop :=
  σ.store.connection.closeRequested = true ∧ σ.store.connection.state = .connected

/-- No close was ever due. -/
structure NotDue (σ : Session) : Prop where
  due : ¬ σ.MustClose
  unsent : .accepted connectionClose ∉ σ.log
  calm : ∀ t ∈ σ.tasks, t.isClosing = false

/-- The endpoints that are left to be told to close, below what is left of telling one. Once all are told
the frames `K` are kept. -/
inductive Front (K : List Frame) (σ : Session) : List Task → Prop where
  | told (hk : kept σ.log = K) : Front K σ []
  | left (above : List Task) (es : List EndpointRef) (ha : ∀ t ∈ above, σ.store.Between t)
      (hd : Distinct es) (hk : kept σ.log ++ es.filterMap σ.store.closeOf? = K) :
      Front K σ (above ++ [.closeEach es])

/-- What waits below the close of the connection. Frames are held back only where they are about to go
out. -/
structure Behind (σ : Session) (below : List Task) : Prop where
  calm : ∀ t ∈ below, t.isClosing = false
  handles : handlesOf below ≠ 0
  announce : σ.store.connection.queue ≠ [] → below.head? = some .announce

/-- The endpoints are told to close, and then the connection is closed behind the frames `K`. -/
structure Telling (K : List Frame) (σ : Session) : Prop where
  connected : σ.store.connection.state = .connected
  work : ∃ front below, σ.tasks = front ++ .sendClose :: below ∧ Front K σ front ∧ Behind σ below

/-- What is left to do until the frames that are held back go out. -/
inductive Releases : ConnectionState → List Task → Prop where
  | accepted : Releases .connected [.awaitCloseOk, .announce]
  | announcing : Releases .closing [.announce]
  | busy (cb : Callback) : Releases .closing [.user cb, .flush]
  | flushing : Releases .closing [.flush]

/-- The close is held back behind other frames. -/
structure Waiting (K : List Frame) (σ : Session) : Prop where
  kept : kept σ.log = K ++ [connectionClose]
  queue : ∃ q, σ.store.connection.queue = q ++ [connectionClose]
  work : ∃ front below, σ.tasks = front ++ below ∧ Releases σ.store.connection.state front ∧
    ∀ t ∈ below, t.isClosing = false

/-- Nothing can be sent any more, and no close is left to be carried out. -/
structure IsOver (σ : Session) : Prop where
  shut : ¬ σ.store.connection.isOpen
  drained : σ.store.connection.queue = []
  calm : ∀ t ∈ σ.tasks, t.isClosing = false

/-- What followed the close of the connection, the latest first. -/
inductive Aftermath (σ : Session) (later : List Event) : Prop where
  | awaiting (above below : List Task) (hc : σ.store.connection.state = .connected)
      (hq : σ.store.connection.queue = []) (ha : above = [] ∨ ∃ cb, above = [.user cb])
      (ht : σ.tasks = above ++ .awaitCloseOk :: below) (hb : ∀ t ∈ below, t.isClosing = false)
      (hl : NothingOut later)
  | silent (h : σ.IsOver) (hl : NothingOut later)
  /-- The answer to the peer's own close goes out. -/
  | answering (h : σ.IsOver) (above below : List Task) (reason : Close)
      (ha : above = [] ∨ ∃ cb, above = [.user cb]) (ht : σ.tasks = above ++ .closedByPeer reason :: below)
      (hl : AnswersOnly later)
  | answered (h : σ.IsOver) (hc : σ.store.connection.state = .closed) (hl : AnswersOnly later)

/-- The close went out behind the frames `K`. -/
def Sent (K : List Frame) (σ : Session) : Prop :=
  ∃ later earlier, σ.log = later ++ .started (.data connectionClose.toWire.octets) ::
    .handed connectionClose :: earlier ∧ handedOver earlier = K ∧ Aftermath σ later

/-! ## No close is due -/

theorem NotDue.next? (h : σ.NotDue) (hh : σ.HoldsOn) (hσ : σ.Reachable) (hs : σ.next? a = some τ)
    (hp : Moment.IsPassive ⟨σ, a, τ⟩) :
    τ.NotDue ∨ (τ.MustClose ∧ τ.Telling (kept σ.log ++ σ.store.closes)) := by
  obtain ⟨t, n, rest, rest', htasks, hidle, hstore, htasks', hplain, hlog, he⟩ :=
    next?_ending hσ hs hp h.calm
  have hrest : ∀ t ∈ rest', t.isClosing = false := Task.eq_false_of_map_plain Task.isClosing_plain hplain
    fun t ht => h.calm t (by rw [htasks]; exact List.mem_append_right _ ht)
  have calm : (∀ t ∈ n.tasks, t.isClosing = false) → ∀ t ∈ τ.tasks, t.isClosing = false := by
    intro hn t ht
    rw [htasks'] at ht
    exact (List.mem_append.1 ht).elim (hn t) (hrest t)
  have unsent : .accepted connectionClose ∉ n.log → .accepted connectionClose ∉ τ.log := by
    intro hn ha
    rw [hlog] at ha
    exact (List.mem_append.1 ha).elim (fun ha => hn (List.mem_reverse.1 ha)) h.unsent
  cases he with
  | ordinary b hn hm hb =>
    refine .inl ⟨fun hdue => ?_, unsent hn.sent, calm hn.calm⟩
    rw [MustClose, hstore, hn.asked] at hdue
    have hc := hm.connected hdue.2
    exact h.due ⟨hb hdue.1 hc, hc⟩
  | connects hst hn =>
    refine .inl ⟨fun hdue => ?_, unsent hn.sent, calm hn.calm⟩
    rw [MustClose, hstore, hn.asked] at hdue
    cases hdue.1
  | answers reason p ha hst hn =>
    rw [receive_close] at hn
    subst hn
    refine .inl ⟨fun hdue => h.due ?_, unsent (by simp), calm (by simp [Task.isClosing])⟩
    rwa [MustClose, hstore] at hdue
  | begins last hn hl hhandles hq =>
    have hkept : kept τ.log = kept σ.log := by
      rw [hlog]
      rcases hn.log with h | ⟨f, h⟩ <;> rw [h] <;> rfl
    refine .inr ⟨by rw [MustClose, hstore]; exact ⟨hn.requested, hn.connected⟩,
      by rw [hstore]; exact hn.connected, [.closeEach σ.store.heldForClose], last ++ rest', ?_, ?_, ?_⟩
    · rw [htasks', hn.tasks]
      rfl
    · refine .left [] _ (by simp) hσ.distinct ?_
      rw [hkept, hstore, funext hn.closeOf?, hσ.closes_eq]
    · refine ⟨fun t ht => (List.mem_append.1 ht).elim (hl t) (hrest t), ?_, fun hne => ?_⟩
      · rw [handlesOf_append]
        omega
      · rw [hstore, hn.queue] at hne
        rcases hq with ⟨hc, hq⟩ | hq
        · -- nothing is held back where a close is asked for
          refine absurd ?_ hne
          rcases hq with rfl | howned
          · exact hσ.queue_eq_nil (by rw [htasks, hidle rfl]; rfl) hc
          · by_contra hne
            rcases hσ.willFlush ⟨hc, hne⟩ with hw | hw
            · exact hh _ hw (.inr (.inl rfl)) howned
            · exact hh _ hw (.inr (.inr rfl)) howned
        · rw [List.head?_append, hq]
          rfl

/-! ## The endpoints are told -/

/-- A step on the way from one endpoint to the next. -/
theorem Behind.tells {below : List Task} {f : Option Frame} {n : Next} (h : σ.Behind below)
    (hn : n.Tells σ.store f) (hstore : τ.store = n.store) : τ.Behind below where
  calm := h.calm
  handles := h.handles
  announce hq := h.announce fun h => hq (by rw [hstore]; exact hn.queue h)

/-- What is left of telling an endpoint is done. -/
theorem Telling.between (hσ : σ.Reachable) (hs : σ.next? a = some τ) (hp : Moment.IsPassive ⟨σ, a, τ⟩)
    (hc : σ.store.connection.state = .connected) {t : Task} {above : List Task} {es : List EndpointRef}
    {below : List Task} (ht : σ.tasks = t :: (above ++ .closeEach es :: .sendClose :: below))
    (ha : ∀ t' ∈ t :: above, σ.store.Between t') (hd : Distinct es)
    (hk : kept σ.log ++ es.filterMap σ.store.closeOf? = K) (hb : σ.Behind below) : τ.Telling K := by
  obtain ⟨htop, habove⟩ := List.forall_mem_cons.1 ha
  have htasks : ∀ new : List Task, new ++ (above ++ .closeEach es :: .sendClose :: below) =
      ((new ++ above) ++ [.closeEach es]) ++ .sendClose :: below := by simp
  by_cases hu : ∃ cb, t = .user cb
  · obtain ⟨cb, rfl⟩ := hu
    obtain ⟨r, rfl⟩ := next?_of_user hs hp ht
    refine ⟨hc, above ++ [.closeEach es], below, ?_, .left above es ?_ hd ?_, ⟨hb.1, hb.2, hb.3⟩⟩
    case refine_2 => exact habove
    case refine_3 => exact hk
    show answerWith cb r _ = _
    rw [← List.nil_append above, ← htasks, List.nil_append]
    cases above with
    | nil => exact answerWith_of_isFixed cb r rfl _
    | cons t' above => exact answerWith_of_isFixed cb r (habove t' List.mem_cons_self).isFixed _
  · obtain ⟨-, n, hn, rfl⟩ := next?_eq_proceed hs ht fun cb h => hu ⟨cb, h⟩
    have hhandles : t = .releaseHandle → σ.store.handles ≠ 1 := by
      rintro rfl
      -- the work below has a handle as well
      have hheld := hσ.held_eq
      have hbelow := hb.handles
      rw [ht, handlesOf_cons, handlesOf_append, handlesOf_cons, handlesOf_cons] at hheld
      have hone : Task.handles .releaseHandle = 1 := rfl
      unfold Store.handles
      omega
    obtain ⟨hn', hclose⟩ := htop.run hhandles hn
    refine ⟨hn'.state.trans hc, (n.tasks ++ above) ++ [.closeEach es], below, ?_, ?_, hb.tells hn' rfl⟩
    · rw [proceed_tasks_of_fault_none hn'.fault, htasks]
    · refine .left _ es ?_ hd ?_
      · intro t' ht'
        exact (List.mem_append.1 ht').elim (hn'.tasks t') fun h => (habove t' h).congr hclose
      · show kept (n.log.reverse ++ σ.log) ++ es.filterMap n.store.closeOf? = K
        rw [hn'.kept, funext hclose, ← hk]
        simp

/-- The next endpoint is told. -/
theorem Telling.tell (hσ : σ.Reachable) (hs : σ.next? a = some τ)
    (hc : σ.store.connection.state = .connected) {es : List EndpointRef} {below : List Task}
    (ht : σ.tasks = .closeEach es :: .sendClose :: below) (hd : Distinct es)
    (hk : kept σ.log ++ es.filterMap σ.store.closeOf? = K) (hb : σ.Behind below) : τ.Telling K := by
  obtain ⟨-, n, hn, rfl⟩ := next?_eq_proceed hs ht (by simp)
  cases es with
  | nil =>
    cases hn
    refine ⟨hc, [], below, rfl, .told ?_, ⟨hb.1, hb.2, hb.3⟩⟩
    rw [← hk]
    exact (List.append_nil _).symm
  | cons e es =>
    have ha := hσ.alive_of_connected hc
    cases hn
    rw [if_pos ha]
    obtain ⟨hn, hclose⟩ := closeEndpoint_tells hc ha (fun c => (hσ.tracks c).attached.2) e
    have htold : (σ.store.closeEndpoint e).store.Between (.release e) := (hclose e).trans (if_pos rfl)
    have hothers : es.filterMap (σ.store.closeEndpoint e).store.closeOf? =
        es.filterMap σ.store.closeOf? := by
      refine List.filterMap_congr fun e' he' => ?_
      rw [hclose]
      split
      · rename_i h
        subst h
        cases e' with
        | custom n => rfl
        | channel c => exact absurd rfl ((List.pairwise_cons.1 hd).1 _ he' c rfl)
      · rfl
    refine ⟨hn.state.trans hc, ((σ.store.closeEndpoint e).tasks ++ [.release e]) ++ [.closeEach es], below, ?_,
      .left _ es ?_ (List.pairwise_cons.1 hd).2 ?_, hb.tells hn rfl⟩
    · rw [proceed_tasks_of_fault_none (n := (σ.store.closeEndpoint e).andThen _) hn.fault]
      simp [Next.andThen]
    · intro t ht
      rcases List.mem_append.1 ht with ht | ht
      · exact hn.tasks t ht
      · rw [List.mem_singleton.1 ht]
        exact htold
    · show kept ((σ.store.closeEndpoint e).log.reverse ++ σ.log) ++
        es.filterMap (σ.store.closeEndpoint e).store.closeOf? = K
      rw [hn.kept, hothers, ← hk, List.append_assoc, List.filterMap_cons]
      cases σ.store.closeOf? e <;> rfl

/-- All are told, and the close of the connection is accepted. -/
theorem Telling.close (hσ : σ.Reachable) (hs : σ.next? a = some τ)
    (hc : σ.store.connection.state = .connected) {below : List Task} (ht : σ.tasks = .sendClose :: below)
    (hk : kept σ.log = K) (hb : σ.Behind below) : τ.Waiting K ∨ τ.Sent K := by
  obtain ⟨-, n, hn, rfl⟩ := next?_eq_proceed hs ht (by simp)
  have ha := hσ.alive_of_connected hc
  obtain ⟨octets, hw⟩ := exists_toWire_connectionClose
  obtain ⟨n', hn'⟩ := exists_send (isOpen_of_connected hc) hw
  have hoffer : σ.store.offer connectionClose = n' := by rw [offer, hn']
  cases hn
  rw [if_pos ha, hoffer]
  obtain ⟨octets', hw', -, ⟨hnow, rfl⟩ | ⟨hlater, rfl⟩⟩ := send_cases hn'
  · right
    -- nothing is held back, so the close goes out at once
    have hq : σ.store.connection.queue = [] := (hnow.resolve_right Bool.false_ne_true).2
    have hbalance := hσ.delivers.balance
    rw [hq, List.append_nil] at hbalance
    refine ⟨[], .accepted connectionClose :: σ.log, ?_, hbalance.trans hk,
      .awaiting [.user (.data octets')] below hc hq (.inr ⟨_, rfl⟩) rfl hb.calm .nil⟩
    rw [Draft.octets_of_result hw']
    rfl
  · left
    have hq : σ.store.connection.queue ≠ [] := fun hq => hlater (.inl ⟨hc, hq⟩)
    obtain ⟨below', rfl⟩ := List.head?_eq_some_iff.1 (hb.announce hq)
    refine ⟨?_, ⟨σ.store.connection.queue, rfl⟩, [.awaitCloseOk, .announce], below', rfl, ?_,
      (List.forall_mem_cons.1 hb.calm).2⟩
    · show kept (.accepted connectionClose :: σ.log) = _
      rw [← hk]
      rfl
    · show Releases σ.store.connection.state _
      rw [hc]
      exact .accepted

theorem Telling.next? (h : σ.Telling K) (hσ : σ.Reachable) (hs : σ.next? a = some τ)
    (hp : Moment.IsPassive ⟨σ, a, τ⟩) : τ.Telling K ∨ τ.Waiting K ∨ τ.Sent K := by
  obtain ⟨front, below, ht, hfront, hb⟩ := h.work
  cases hfront with
  | told hk => exact .inr (Telling.close hσ hs h.connected ht hk hb)
  | left above es ha hd hk =>
    left
    rw [List.append_assoc, List.singleton_append] at ht
    cases above with
    | nil => exact Telling.tell hσ hs h.connected ht hd hk hb
    | cons t above => exact Telling.between hσ hs hp h.connected ht ha hd hk hb

/-! ## What was held back goes out -/

theorem Waiting.next? (h : σ.Waiting K) (hσ : σ.Reachable) (hs : σ.next? a = some τ)
    (hp : Moment.IsPassive ⟨σ, a, τ⟩) : τ.Waiting K ∨ τ.Sent K := by
  obtain ⟨q, hq⟩ := h.queue
  obtain ⟨front, below, ht, hf, hb⟩ := h.work
  have ha : σ.store.connection.alive = true := by
    cases ha : σ.store.connection.alive with
    | true => rfl
    | false =>
      rw [hσ.state_of_not_alive ha] at hf
      cases hf
  generalize hst : σ.store.connection.state = state at hf
  cases hf with
  | accepted =>
    obtain ⟨-, n, hn, rfl⟩ := next?_eq_proceed hs ht (by simp)
    cases hn
    rw [if_pos ha]
    exact .inl ⟨h.kept, ⟨q, hq⟩, [.announce], below, rfl, .announcing, hb⟩
  | announcing =>
    obtain ⟨-, n, hn, rfl⟩ := next?_eq_proceed hs ht (by simp)
    cases hn
    rw [if_pos ha]
    refine .inl ⟨h.kept, ⟨q, hq⟩, [.user .connected, .flush], below, rfl, ?_, hb⟩
    show Releases σ.store.connection.state _
    rw [hst]
    exact .busy .connected
  | busy cb =>
    obtain ⟨r, rfl⟩ := next?_of_user hs hp ht
    refine .inl ⟨h.kept, ⟨q, hq⟩, [.flush], below, answerWith_of_isFixed cb r rfl _, ?_, hb⟩
    show Releases σ.store.connection.state _
    rw [hst]
    exact .flushing
  | flushing =>
    obtain ⟨-, n, hn, rfl⟩ := next?_eq_proceed hs ht (by simp)
    cases q with
    | nil =>
      right
      obtain rfl := Option.some.inj (hn.symm.trans (run_flush_cons hq ha))
      have hbalance := hσ.delivers.balance
      rw [hq, h.kept] at hbalance
      refine ⟨[], σ.log, rfl, List.append_cancel_right hbalance, .silent ⟨?_, rfl, ?_⟩ .nil⟩
      · show ¬ (σ.store.connection.state ≠ .closing ∧ _)
        rw [hst]
        exact fun h => h.1 rfl
      · exact List.forall_mem_cons.2 ⟨rfl, List.forall_mem_cons.2 ⟨rfl, hb⟩⟩
    | cons f q =>
      left
      obtain rfl := Option.some.inj (hn.symm.trans (run_flush_cons hq ha))
      refine ⟨h.kept, ⟨q, rfl⟩, [.user (.data f.toWire.octets), .flush], below, rfl, ?_, hb⟩
      show Releases σ.store.connection.state _
      rw [hst]
      exact .busy _

/-! ## After the close -/

/-- Where nothing can be sent, only the peer's own close is answered, and only on a connection that is not
closed. -/
theorem IsOver.next? (h : σ.IsOver) (hσ : σ.Reachable) (hs : σ.next? a = some τ)
    (hp : Moment.IsPassive ⟨σ, a, τ⟩) : τ.IsOver ∧ ∃ es, τ.log = es ++ σ.log ∧ (NothingOut es ∨
      σ.store.connection.state ≠ .closed ∧ ∃ reason below,
        es = [.started (.data closeOkOctets), .received (.ofConnection (.close reason))] ∧
        τ.tasks = .user (.data closeOkOctets) :: .closedByPeer reason :: below) := by
  obtain ⟨t, n, rest, rest', htasks, -, hstore, htasks', hplain, hlog, he⟩ := next?_ending hσ hs hp h.calm
  have hrest : ∀ t ∈ rest', t.isClosing = false := Task.eq_false_of_map_plain Task.isClosing_plain hplain
    fun t ht => h.calm t (by rw [htasks]; exact List.mem_append_right _ ht)
  have hshut : ¬ τ.store.connection.isOpen := fun ho => h.shut (Step.isOpen (.next hs) hσ ho)
  have isOver : τ.store.connection.queue = [] → (∀ t ∈ n.tasks, t.isClosing = false) → τ.IsOver :=
    fun hq hn => ⟨hshut, hq, fun t ht => (List.mem_append.1 (htasks' ▸ ht)).elim (hn t) (hrest t)⟩
  cases he with
  | ordinary b hn hm =>
    obtain ⟨hq, hhanded⟩ := hm.handed_notMem h.shut h.drained
    have hout : NothingOut n.log := ⟨hhanded, fun octets hmem =>
      (hn.out octets hmem).elim fun f hf => hhanded f hf⟩
    exact ⟨isOver (by rw [hstore, hq]) hn.calm, _, hlog, .inl hout.reverse⟩
  | begins last hn => exact absurd hn.isOpen h.shut
  | connects hst =>
    refine absurd ?_ h.shut
    rw [Connection.isOpen, hst]
    exact ⟨by decide, by decide⟩
  | answers reason p ha hst hn =>
    rw [receive_close] at hn
    subst hn
    exact ⟨isOver (by rw [hstore, h.drained]) (by simp [Task.isClosing]), _, hlog,
      .inr ⟨hst, reason, .handled none p none :: rest', rfl, htasks'⟩⟩

/-- A connection that is closed stays so. -/
theorem IsOver.closed (h : σ.IsOver) (hσ : σ.Reachable) (hs : σ.next? a = some τ)
    (hc : σ.store.connection.state = .closed) : τ.store.connection.state = .closed :=
  (Ended.step ⟨hc, h.calm⟩ hσ.isProper (.next hs)).closed

theorem Aftermath.next? {later : List Event} (h : σ.Aftermath later) (hσ : σ.Reachable)
    (hs : σ.next? a = some τ) (hp : Moment.IsPassive ⟨σ, a, τ⟩) :
    ∃ es, τ.log = es ++ σ.log ∧ τ.Aftermath (es ++ later) := by
  cases h with
  | awaiting above below hc hq ha ht hb hl =>
    refine ⟨[], ?_⟩
    rcases ha with rfl | ⟨cb, rfl⟩
    · obtain ⟨-, n, hn, rfl⟩ := next?_eq_proceed hs ht (by simp)
      cases hn
      rw [if_pos (hσ.alive_of_connected hc)]
      exact ⟨rfl, .silent ⟨fun ho => ho.1 rfl, hq, hb⟩ hl⟩
    · obtain ⟨r, rfl⟩ := next?_of_user hs hp ht
      exact ⟨rfl, .awaiting [] below hc hq (.inl rfl) (answerWith_of_isFixed cb r rfl _) hb hl⟩
  | silent h hl =>
    obtain ⟨hover, es, hlog, hes | ⟨-, reason, below, rfl, ht⟩⟩ := h.next? hσ hs hp
    · exact ⟨es, hlog, .silent hover (hes.append hl)⟩
    · exact ⟨_, hlog, .answering hover [.user (.data closeOkOctets)] below reason (.inr ⟨_, rfl⟩) ht
        ⟨[], reason, later, rfl, .nil, hl⟩⟩
  | answering h above below reason ha ht hl =>
    have hover := (h.next? hσ hs hp).1
    refine ⟨[], ?_⟩
    rcases ha with rfl | ⟨cb, rfl⟩
    · obtain ⟨-, n, hn, rfl⟩ := next?_eq_proceed hs ht (by simp)
      cases hn
      cases ha : σ.store.connection.alive with
      | true =>
        rw [ha] at hover
        refine ⟨rfl, .answered hover ?_ hl⟩
        show σ.store.shut.1.connection.state = .closed
        rw [connection_shut]
      | false =>
        rw [ha] at hover
        exact ⟨rfl, .answered hover (hσ.state_of_not_alive ha) hl⟩
    · obtain ⟨r, rfl⟩ := next?_of_user hs hp ht
      exact ⟨rfl, .answering hover [] below reason (.inl rfl) (answerWith_of_isFixed cb r rfl _) hl⟩
  | answered h hc hl =>
    have hclosed := h.closed hσ hs hc
    obtain ⟨hover, es, hlog, hes | ⟨hne, -⟩⟩ := h.next? hσ hs hp
    · exact ⟨es, hlog, .answered hover hclosed (hl.append hes)⟩
    · exact absurd hc hne

theorem Sent.next? (h : σ.Sent K) (hσ : σ.Reachable) (hs : σ.next? a = some τ)
    (hp : Moment.IsPassive ⟨σ, a, τ⟩) : τ.Sent K := by
  obtain ⟨later, earlier, hlog, hK, hafter⟩ := h
  obtain ⟨es, hes, hafter⟩ := hafter.next? hσ hs hp
  exact ⟨es ++ later, earlier, by rw [hes, hlog, List.append_assoc], hK, hafter⟩

end Session

end AmqpSession
