/-
Frames on their way out. Every accepted frame goes to the transport once and in the order of
acceptance, unless it is still held back or was discarded with its channel; and nothing is held back
once the connection is established and all work is done. Frames of negotiation overtake the queue
and are left out.
-/
import AmqpSession.Proofs.Step
import Mathlib.Data.List.Perm.Basic

namespace AmqpSession

open Wire

/-! ## What the log tells -/

/-- Without the last such frame. -/
def eraseLast (frames : List Frame) (f : Frame) : List Frame := (frames.reverse.erase f).reverse

/-- The frames that went to the transport, the first one first. -/
def handedOver : List Event → List Frame
  | [] => []
  | .handed f :: log => if f.isPartOfHandshake then handedOver log else handedOver log ++ [f]
  | _ :: log => handedOver log

/-- The accepted frames, the first one first, without those that were discarded. Held back are the
last ones that were accepted, so what is discarded is missing from the end. -/
def kept : List Event → List Frame
  | [] => []
  | .accepted f :: log => if f.isPartOfHandshake then kept log else kept log ++ [f]
  | .discarded f :: log => eraseLast (kept log) f
  | _ :: log => kept log

theorem handedOver_note {t : Option Task} {e : Event} (he : e.isNoteOf t = true) (log : List Event) :
    handedOver (e :: log) = handedOver log := by
  cases e with
  | handed => cases he
  | _ => rfl

theorem kept_note {t : Option Task} {e : Event} (he : e.isNoteOf t = true) (log : List Event) :
    kept (e :: log) = kept log := by
  cases e with
  | accepted | discarded => cases he
  | _ => rfl

theorem handedOver_discarded (fs : List Frame) (log : List Event) :
    handedOver ((fs.map .discarded).reverse ++ log) = handedOver log := by
  induction fs generalizing log with
  | nil => rfl
  | cons f fs ih =>
    rw [List.map_cons, List.reverse_cons, List.append_assoc, List.singleton_append, ih]
    rfl

theorem kept_discarded (fs : List Frame) (log : List Event) :
    kept ((fs.map .discarded).reverse ++ log) = fs.foldl eraseLast (kept log) := by
  induction fs generalizing log with
  | nil => rfl
  | cons f fs ih =>
    rw [List.map_cons, List.reverse_cons, List.append_assoc, List.singleton_append, ih]
    rfl

/-! ## Discarding from the end -/

theorem foldl_eraseLast (fs l : List Frame) : fs.foldl eraseLast l = (l.reverse.diff fs).reverse := by
  induction fs generalizing l with
  | nil => simp
  | cons f fs ih =>
    rw [List.foldl_cons, ih, List.diff_cons, eraseLast, List.reverse_reverse]

theorem diff_filter_append (p : Frame → Bool) (r before : List Frame) :
    (r ++ before).diff (r.filter p) = r.filter (!p ·) ++ before := by
  induction r with
  | nil => simp
  | cons f r ih =>
    by_cases hp : p f = true
    · rw [List.filter_cons_of_pos hp, List.filter_cons_of_neg (by simpa using hp), List.diff_cons,
        List.cons_append, List.erase_cons_head, ih]
    · rw [List.filter_cons_of_neg hp, List.filter_cons_of_pos (by simpa using hp), List.cons_append,
        List.cons_diff_of_not_mem (fun hm => hp (List.mem_filter.1 hm).2), ih]
      rfl

/-- Of equal frames all or none are discarded, so it does not matter which ones are named. -/
theorem eraseLast_filter (p : Frame → Bool) (before queue : List Frame) :
    (queue.filter p).foldl eraseLast (before ++ queue) = before ++ queue.filter (!p ·) := by
  -- they may as well be named in the order in which they are taken from the end
  have hp : (queue.filter p).Perm (queue.reverse.filter p) :=
    (List.reverse_perm queue).symm.filter p
  rw [foldl_eraseLast, List.reverse_append, hp.diff_left, diff_filter_append, List.reverse_append,
    List.reverse_reverse, List.filter_reverse, List.reverse_reverse]

/-! ## Whole frames -/

theorem Wire.Draft.octets_of_result {d : Draft} {octets : Bytes} (h : d.result = .ok octets) :
    d.octets = octets := by
  unfold result at h
  split at h <;> cases h
  rfl

theorem Wire.Draft.append_octet {d : Draft} {b : UInt8} {octets : Bytes}
    (h : (d ++ Draft.octet b).result = .ok octets) :
    ∃ payload, d.result = .ok payload ∧ octets = payload ++ [b] := by
  obtain ⟨written, fault⟩ := d
  cases fault with
  | none => exact ⟨written, rfl, (Except.ok.inj h).symm⟩
  | some fault => cases h

/-- All but negotiation ends with the frame end octet. -/
theorem Wire.Frame.toWire_eq_ok {f : Frame} {octets : Bytes} (hf : f.isPartOfHandshake = false)
    (h : f.toWire.result = .ok octets) :
    ∃ payload, f.encode.result = .ok payload ∧ octets = payload ++ [frameEnd] := by
  have ht : f.needsTerminator = true := by
    obtain ⟨channel, body⟩ := f
    cases body with
    | protocolHeader => cases hf
    | _ => rfl
  rw [toWire, if_pos ht] at h
  exact Draft.append_octet h

/-- Octets go out for a frame or to confirm the peer's close, and a frame goes out in one piece. -/
structure GoesOutWhole (log : List Event) : Prop where
  octets : ∀ later f earlier, log = later ++ .handed f :: earlier →
    ∃ octets rest, f.toWire.result = .ok octets ∧ later = rest ++ [.started (.data octets)]
  frame : ∀ later octets earlier, log = later ++ .started (.data octets) :: earlier →
    (∃ f rest, earlier = .handed f :: rest ∧ f.toWire.result = .ok octets) ∨
      octets = (Frame.ofConnection .closeOk).toWire.octets

namespace GoesOutWhole

variable {log : List Event}

theorem nil : GoesOutWhole [] where
  octets later f earlier h := by simp at h
  frame later octets earlier h := by simp at h

/-- Nothing goes out at this point. -/
theorem cons {e : Event} (h : GoesOutWhole log) (hh : ∀ f, e ≠ .handed f)
    (hd : ∀ octets, e = .started (.data octets) →
      octets = (Frame.ofConnection .closeOk).toWire.octets) : GoesOutWhole (e :: log) where
  octets later f earlier hl := by
    rcases List.cons_eq_append_iff.1 hl with ⟨-, he⟩ | ⟨later', rfl, he⟩
    · cases he; exact absurd rfl (hh f)
    · obtain ⟨octets, rest, hw, rfl⟩ := h.octets later' f earlier he
      exact ⟨octets, e :: rest, hw, rfl⟩
  frame later octets earlier hl := by
    rcases List.cons_eq_append_iff.1 hl with ⟨-, he⟩ | ⟨later', -, he⟩
    · cases he; exact .inr (hd octets rfl)
    · exact h.frame later' octets earlier he

theorem note {e : Event} {t : Option Task} (h : GoesOutWhole log) (he : e.isNoteOf t = true) :
    GoesOutWhole (e :: log) :=
  h.cons (by rintro f rfl; cases he) (by rintro octets rfl; cases he)

theorem handed {f : Frame} {octets : Bytes} (h : GoesOutWhole log)
    (hw : f.toWire.result = .ok octets) :
    GoesOutWhole (.started (.data octets) :: .handed f :: log) where
  octets later g earlier hl := by
    rcases List.cons_eq_append_iff.1 hl with ⟨-, he⟩ | ⟨later₁, rfl, hl₁⟩
    · cases he
    · rcases List.cons_eq_append_iff.1 hl₁ with ⟨rfl, he⟩ | ⟨later₂, rfl, hl₂⟩
      · cases he; exact ⟨octets, [], hw, rfl⟩
      · obtain ⟨octets', rest, hw', rfl⟩ := h.octets later₂ g earlier hl₂
        exact ⟨octets', _ :: _ :: rest, hw', rfl⟩
  frame later octets' earlier hl := by
    rcases List.cons_eq_append_iff.1 hl with ⟨-, he⟩ | ⟨later₁, -, hl₁⟩
    · cases he; exact .inl ⟨f, log, rfl, hw⟩
    · rcases List.cons_eq_append_iff.1 hl₁ with ⟨-, he⟩ | ⟨later₂, -, hl₂⟩
      · cases he
      · exact h.frame later₂ octets' earlier hl₂

theorem discarded (h : GoesOutWhole log) (fs : List Frame) :
    GoesOutWhole ((fs.map .discarded).reverse ++ log) := by
  induction fs generalizing log with
  | nil => exact h
  | cons f fs ih =>
    rw [List.map_cons, List.reverse_cons, List.append_assoc]
    exact ih (h.cons (by simp) (by simp))

end GoesOutWhole

/-! ## The balance of frames -/

/-- What was accepted went out or is still held back, each frame in one piece. -/
structure Delivers (k : Connection) (log : List Event) : Prop where
  balance : handedOver log ++ k.queue = kept log
  ordinary : ∀ f ∈ k.queue, f.isPartOfHandshake = false
  encodes : ∀ f ∈ k.queue, ∃ octets, f.toWire.result = .ok octets
  whole : GoesOutWhole log

theorem Delivers.move {t : Option Task} {k k' : Connection} {es log : List Event}
    (h : Delivers k log) (hm : Connection.Move t k es k') : Delivers k' (es.reverse ++ log) := by
  cases hm with
  | note e he =>
    refine ⟨?_, h.ordinary, h.encodes, h.whole.note he⟩
    show handedOver (e :: log) ++ _ = kept (e :: log)
    rw [handedOver_note he, kept_note he, h.balance]
  | pass f octets hw ho hd =>
    refine ⟨?_, h.ordinary, h.encodes, (h.whole.cons (e := .accepted f) (by simp) (by simp)).handed hw⟩
    show handedOver (.handed f :: .accepted f :: log) ++ _ = kept (.accepted f :: log)
    rw [handedOver, kept]
    by_cases hf : f.isPartOfHandshake = true
    · rw [if_pos hf, if_pos hf]; exact h.balance
    · -- an ordinary frame passes only when nothing is held back
      have hq : k.queue = [] := (hd.resolve_right hf).2
      have hb := h.balance
      rw [hq, List.append_nil] at hb ⊢
      rw [if_neg hf, if_neg hf, ← hb]
      rfl
  | enqueue f octets hw ho hd =>
    have hf : ¬ f.isPartOfHandshake = true := fun hf => hd (.inr hf)
    refine ⟨?_, ?_, ?_, h.whole.cons (by simp) (by simp)⟩
    · show handedOver log ++ (k.queue ++ [f]) = kept (.accepted f :: log)
      rw [kept, if_neg hf, ← h.balance, List.append_assoc]
    · intro g hg
      rcases List.mem_append.1 hg with hg | hg
      · exact h.ordinary g hg
      · rw [List.mem_singleton.1 hg]
        exact Bool.not_eq_true _ ▸ hf
    · intro g hg
      rcases List.mem_append.1 hg with hg | hg
      · exact h.encodes g hg
      · rw [List.mem_singleton.1 hg]
        exact ⟨octets, hw⟩
  | confirm =>
    exact ⟨h.balance, h.ordinary, h.encodes, h.whole.cons (by simp) (by simp)⟩
  | dequeue f rest ht hq ha =>
    have hf : f ∈ k.queue := by rw [hq]; exact List.mem_cons_self
    have hrest : ∀ g ∈ rest, g ∈ k.queue := fun g hg => by rw [hq]; exact List.mem_cons_of_mem _ hg
    have hp : f.isPartOfHandshake = false := h.ordinary f hf
    obtain ⟨octets, hw⟩ := h.encodes f hf
    refine ⟨?_, fun g hg => h.ordinary g (hrest g hg), fun g hg => h.encodes g (hrest g hg), ?_⟩
    · show handedOver (.handed f :: log) ++ rest = kept log
      rw [handedOver, hp, ← h.balance, hq]
      simp
    · rw [Draft.octets_of_result hw]
      exact h.whole.handed hw
  | discard id e rest limits ht ha =>
    refine ⟨?_, fun g hg => h.ordinary g (List.mem_of_mem_filter hg),
      fun g hg => h.encodes g (List.mem_of_mem_filter hg), h.whole.discarded _⟩
    rw [handedOver_discarded, kept_discarded, ← h.balance, eraseLast_filter]
    rfl
  | _ => exact ⟨h.balance, h.ordinary, h.encodes, h.whole⟩

theorem Session.Reachable.delivers {σ : Session} (h : σ.Reachable) :
    Delivers σ.store.connection σ.log := by
  refine h.connection_induction (P := Delivers) ?_ (fun t k es k' log hk hm => hk.move hm) ?_
  · intro o
    exact ⟨rfl, by simp [Connection.new], by simp [Connection.new], .nil⟩
  · intro k log f hk hs
    refine ⟨?_, hk.ordinary, hk.encodes, hk.whole.note (t := none) rfl⟩
    exact hk.balance

/-! ## What is held back goes out -/

/-- Frames are held back although they could go out. -/
def Connection.hasBacklog (k : Connection) : Prop := k.state = .connected ∧ k.queue ≠ []

/-- No change makes a backlog. -/
theorem Connection.Move.hasBacklog {t : Option Task} {k k' : Connection} {es : List Event}
    (h : Connection.Move t k es k') (hk : k'.hasBacklog) : k.hasBacklog := by
  obtain ⟨hs, hq⟩ := hk
  cases h with
  | enqueue f octets hw ho hd => exact ⟨hs, fun hq' => hd (.inl ⟨hs, hq'⟩)⟩
  | dequeue f rest ht hq' ha => exact ⟨hs, by rw [hq']; exact List.cons_ne_nil f rest⟩
  | discard id e rest limits ht ha => exact ⟨hs, fun hq' => hq (by simp [hq'])⟩
  | answerOffer | awaitCloseOk | shut | destroyed => cases hs
  | _ => exact ⟨hs, hq⟩

theorem Connection.Moves.hasBacklog {t : Option Task} {k k' : Connection} {es : List Event}
    (h : Connection.Moves t k es k') (hk : k'.hasBacklog) : k.hasBacklog := by
  induction h with
  | refl => exact hk
  | tail _ hm ih => exact ih (hm.hasBacklog hk)

namespace Session

/-- A backlog is about to go out. -/
def WillFlush (σ : Session) : Prop :=
  σ.store.connection.hasBacklog → .announce ∈ σ.tasks ∨ .flush ∈ σ.tasks

theorem WillFlush.announce {σ τ : Session} {rest : List Task} (hσ : σ.Reachable)
    (ht : σ.tasks = .announce :: rest) (h : Step σ τ) : τ.WillFlush := by
  obtain ⟨n, hn, rfl⟩ := h.eq_proceed ht (by simp)
  cases hn
  intro hk
  by_cases ha : σ.store.connection.alive = true
  · right
    simp [proceed, ha, Next.start]
  · have hs := hσ.state_of_not_alive (Bool.not_eq_true _ ▸ ha)
    simp only [proceed, ha, Next.only] at hk
    exact absurd hk.1 (by simp [hs])

theorem WillFlush.flush {σ τ : Session} {rest : List Task} (hσ : σ.Reachable)
    (ht : σ.tasks = .flush :: rest) (h : Step σ τ) : τ.WillFlush := by
  obtain ⟨n, hn, rfl⟩ := h.eq_proceed ht (by simp)
  cases hn
  intro hk
  cases hq : σ.store.connection.queue with
  | nil =>
    simp only [proceed, hq, Next.only] at hk
    exact absurd hq hk.2
  | cons f queue =>
    by_cases ha : σ.store.connection.alive = true
    · right
      simp [proceed, ha]
    · have hs := hσ.state_of_not_alive (Bool.not_eq_true _ ▸ ha)
      simp only [proceed, hq, ha, Next.only] at hk
      exact absurd hk.1 (by simp [hs])

theorem WillFlush.step {σ τ : Session} (hσ : σ.Reachable) (hw : σ.WillFlush) (h : Step σ τ) :
    τ.WillFlush := by
  rcases h.cases hσ.isProper with ⟨es, old, new, rest, rest', w⟩ | hc
  · by_cases ha : old = [.announce]
    · exact .announce hσ (by rw [w.before, ha]; rfl) h
    by_cases hf : old = [.flush]
    · exact .flush hσ (by rw [w.before, hf]; rfl) h
    intro hk
    -- what ran is neither of the two, so they are where they were
    have stays : ∀ t, t = .announce ∨ t = .flush → t ∈ σ.tasks → t ∈ τ.tasks := by
      intro t ht hm
      have hrest : t ∈ rest := by
        rw [w.before] at hm
        refine (List.mem_append.1 hm).resolve_left fun ho => ?_
        rcases w.one with ⟨rfl, -⟩ | ⟨t₀, rfl⟩
        · cases ho
        · rw [List.mem_singleton.1 ho] at ht
          exact ht.elim (fun h => ha (by rw [h])) fun h => hf (by rw [h])
      have hm' := mem_of_map_plain_eq w.kept.symm (by rcases ht with rfl | rfl <;> rfl) hrest
      rw [w.after]
      exact List.mem_append_right _ hm'
    exact (hw (w.moves.hasBacklog hk)).imp (stays _ (.inl rfl)) (stays _ (.inr rfl))
  · intro _
    obtain ⟨t, rest, rest', p, -, -, hτ | ⟨es, hτ⟩⟩ := hc.tasks <;> simp [hτ]

theorem Reachable.willFlush {σ : Session} (h : σ.Reachable) : σ.WillFlush := by
  refine h.induction ?_ fun σ τ hσ hw hs => hw.step hσ hs
  intro o hk
  have hb := (connect_works o).1.hasBacklog hk
  cases hb.1

/-- With all work done nothing is held back on an established connection. -/
theorem Reachable.queue_eq_nil {σ : Session} (h : σ.Reachable) (ht : σ.tasks = [])
    (hs : σ.store.connection.state = .connected) : σ.store.connection.queue = [] := by
  by_contra hq
  have hw := h.willFlush ⟨hs, hq⟩
  rw [ht] at hw
  simp at hw

/-! ## Discarded and refused frames -/

/-- The frames that were discarded, in the order of the notes. -/
def discards (es : List Event) : List Frame :=
  es.filterMap fun
    | .discarded f => some f
    | _ => none

theorem discards_append (es es' : List Event) : discards (es ++ es') = discards es ++ discards es' :=
  List.filterMap_append

theorem discards_map_discarded (fs : List Frame) : discards (fs.map .discarded) = fs := by
  rw [discards, List.filterMap_map]
  exact List.filterMap_some

/-- Only turning a channel away discards frames. -/
theorem discards_eq_nil {t : Option Task} {k k' : Connection} {es : List Event}
    (h : Connection.Moves t k es k')
    (ht : ∀ id e rest limits, t ≠ some (.evict ((id, e) :: rest) limits)) : discards es = [] := by
  induction h with
  | refl => rfl
  | tail _ hm ih =>
    rw [discards_append, ih, List.nil_append]
    cases hm with
    | discard id e rest limits he => exact absurd he (ht id e rest limits)
    | note e he => cases e <;> first | rfl | cases he
    | _ => rfl

theorem evictNext_discards {s : Store} (id : UInt16) (e : EndpointRef)
    (rest : List (UInt16 × EndpointRef)) (limits : Tune) :
    discards (s.evictNext ((id, e) :: rest) limits).log =
      s.connection.queue.filter (·.channel == id) := by
  have hd : discards (s.discard id).2 = s.connection.queue.filter (·.channel == id) :=
    discards_map_discarded _
  match s.evictNext ((id, e) :: rest) limits, s.evictsNext ((id, e) :: rest) limits with
  | _, .rejected _ _ _ =>
    refine (discards_append _ _).trans ?_
    rw [hd]
    cases e <;> exact List.append_nil _
  | _, .gone _ _ _ => exact (discards_append _ _).trans (by rw [hd]; exact List.append_nil _)

/-- A step discards nothing, or all that is held back for the channel that it turns away. -/
theorem Step.discards {σ τ : Session} (hσ : σ.Reachable) (h : Step σ τ) :
    ∃ es, τ.log = es.reverse ++ σ.log ∧ (discards es = [] ∨
      ∃ id e rest limits, σ.tasks.head? = some (.evict ((id, e) :: rest) limits) ∧
        discards es = σ.store.connection.queue.filter (·.channel == id)) := by
  by_cases ht : ∃ id e rest limits, σ.tasks.head? = some (.evict ((id, e) :: rest) limits)
  · obtain ⟨id, e, rest, limits, ht⟩ := ht
    obtain ⟨tasks, hσt⟩ := List.head?_eq_some_iff.1 ht
    obtain ⟨n, hn, rfl⟩ := h.eq_proceed hσt (by simp)
    cases hn
    refine ⟨_, rfl, ?_⟩
    split
    · exact .inr ⟨id, e, rest, limits, ht, evictNext_discards id e rest limits⟩
    · exact .inl rfl
  · rcases h.cases hσ.isProper with ⟨es, old, new, rest, rest', w⟩ | hc
    · exact ⟨es, w.log, .inl (discards_eq_nil w.moves
        fun id e rest limits he => ht ⟨id, e, rest, limits, he⟩)⟩
    · obtain ⟨f, hf⟩ := hc.log
      exact ⟨[.received f], hf, .inl rfl⟩

/-- A refused frame leaves no trace but the answer; any other is noted before all else. -/
theorem call?_send {σ τ : Session} {f : Frame} (h : σ.call? (.send f) = some τ) :
    (∃ e, τ = { σ with tasks := .answer (.sent (.error e)) :: σ.tasks }) ∨
      ∃ new later, τ.tasks = new ++ .releaseHandle :: .answer (.sent (.ok ())) :: σ.tasks ∧
        τ.log = later ++ .accepted f :: σ.log ∧ ∀ g, .accepted g ∉ later := by
  obtain ⟨-, -, rfl⟩ := call?_eq_some_iff.1 h
  show (∃ e, proceed (tryOnConnection σ.store .sent (·.send f)) σ.log σ.tasks = _) ∨ _
  simp only [Call.run, tryOnConnection]
  split
  · rename_i n hn
    right
    obtain ⟨octets, -, -, ⟨-, rfl⟩ | ⟨-, rfl⟩⟩ := Store.send_cases hn
    · exact ⟨[.user (.data octets)], [.started (.data octets), .handed f], rfl, rfl, by simp⟩
    · exact ⟨[], [], rfl, rfl, by simp⟩
  · rename_i e he
    exact .inl ⟨e, rfl⟩

/-! ## Delivery -/

/-- Throughout every run:
what went to the transport, then what is held back, is what was accepted and not discarded;
a frame goes out as its encoding with the frame end octet, at once with its note, and nothing else
goes out but the answer to the peer's close;
nothing is held back on an established connection once all work is done;
only the frames held back for a channel that is turned away are discarded;
and a call that refuses a frame changes nothing. -/
theorem delivered_once_in_order {σ : Session} (h : σ.Reachable) :
    handedOver σ.log ++ σ.store.connection.queue = kept σ.log ∧
    (∀ later f earlier, σ.log = later ++ .handed f :: earlier → f.isPartOfHandshake = false →
      ∃ payload rest, f.encode.result = .ok payload ∧
        later = rest ++ [.started (.data (payload ++ [frameEnd]))]) ∧
    (∀ later octets earlier, σ.log = later ++ .started (.data octets) :: earlier →
      (∃ f rest, earlier = .handed f :: rest ∧ f.toWire.result = .ok octets) ∨
        octets = (Frame.ofConnection .closeOk).toWire.octets) ∧
    (σ.tasks = [] → σ.store.connection.state = .connected → σ.store.connection.queue = []) ∧
    (∀ τ, Step σ τ → ∃ es, τ.log = es.reverse ++ σ.log ∧ (discards es = [] ∨
      ∃ id e rest limits, σ.tasks.head? = some (.evict ((id, e) :: rest) limits) ∧
        discards es = σ.store.connection.queue.filter (·.channel == id))) ∧
    (∀ τ f, σ.call? (.send f) = some τ →
      (∃ e, τ = { σ with tasks := .answer (.sent (.error e)) :: σ.tasks }) ∨
        ∃ new later, τ.tasks = new ++ .releaseHandle :: .answer (.sent (.ok ())) :: σ.tasks ∧
          τ.log = later ++ .accepted f :: σ.log ∧ ∀ g, .accepted g ∉ later) := by
  have hd := h.delivers
  refine ⟨hd.balance, ?_, hd.whole.frame, h.queue_eq_nil, fun τ hs => hs.discards h,
    fun τ f hc => call?_send hc⟩
  intro later f earlier hl hf
  obtain ⟨octets, rest, hw, rfl⟩ := hd.whole.octets later f earlier hl
  obtain ⟨payload, hp, rfl⟩ := f.toWire_eq_ok hf hw
  exact ⟨payload, rest, hp, rfl⟩

/-- A heartbeat that is sent before the server answered is held back. -/
theorem delivered_once_in_order_greeted :
    ∃ σ : Session, σ.Reachable ∧ σ.store.connection.queue = [.heartbeat] ∧
      handedOver σ.log ++ [.heartbeat] = kept σ.log := by
  obtain ⟨σ, hσ, hq⟩ := exists_reaches_of_play
    (greeted ++ [some (.call (.send .heartbeat))]) (connect .standard)
    (·.store.connection.queue) (a := [.heartbeat]) (by decide +kernel)
  refine ⟨σ, ⟨.standard, hσ⟩, hq, ?_⟩
  rw [← hq]
  exact (delivered_once_in_order ⟨.standard, hσ⟩).1

end Session

end AmqpSession
