/-
How a call to parse ends, whatever else is under way. Handles that other work holds, and frames that
are held back, are a load on the connection (`Store.laden`) that the handling of a frame neither sees
nor touches: it does the same with every load (`Parsed`), so it makes no difference whether the other
work goes before or after it.
-/
import AmqpSession.Proofs.Quiet
import AmqpSession.Proofs.Rest
import AmqpSession.Proofs.Reception
import AmqpSession.Proofs.Fragments
import AmqpSession.Proofs.Stakes

namespace AmqpSession

open Wire

/-! ## Load -/

namespace Store

/-- So many more handles, and other frames held back. -/
def laden (a : Nat) (q : List Frame → List Frame) (s : Store) : Store :=
  s.mapConnection fun k => { k with held := k.held + a, queue := q k.queue }

variable (a : Nat) (q : List Frame → List Frame) (s : Store)

theorem laden_hold (e : EndpointRef) : (s.laden a q).hold e = (s.hold e).laden a q := by
  cases e <;> rfl

theorem laden_lose (e : EndpointRef) : (s.laden a q).lose e = (s.lose e).laden a q := by
  cases e <;> rfl

theorem isLive_laden (e : EndpointRef) : (s.laden a q).isLive e = s.isLive e := by
  cases e <;> rfl

theorem foldl_hold_laden (es : List EndpointRef) :
    es.foldl hold (s.laden a q) = (es.foldl hold s).laden a q := by
  induction es generalizing s with
  | nil => rfl
  | cons e es ih => rw [List.foldl_cons, laden_hold, ih, List.foldl_cons]

theorem holdRegistered_laden :
    (s.laden a q).holdRegistered = (s.holdRegistered.1.laden a q, s.holdRegistered.2) := by
  have hlive : (s.laden a q).isLive = s.isLive := funext fun e => isLive_laden a q s e
  unfold holdRegistered
  rw [hlive]
  exact Prod.ext (foldl_hold_laden a q s _) rfl

theorem shut_laden : (s.laden a q).shut = (s.shut.1.laden a q, s.shut.2) := by
  have h := holdRegistered_laden a q (s.setState .closed)
  show (fun r : Store × List EndpointRef => (r.1.mapRegistry .clear, r.2))
    ((s.setState .closed).laden a q).holdRegistered = _
  rw [h]
  rfl

/-- A handle that is let go of is not part of the load. -/
theorem loseHandle_laden (h : s.connection.held ≠ 0) :
    (s.laden a q).loseHandle = s.loseHandle.laden a q := by
  have hheld : s.connection.held + a - 1 = s.connection.held - 1 + a := by omega
  show ({ s with connection := { s.connection with
    held := s.connection.held + a - 1, queue := q s.connection.queue } } : Store) = _
  rw [hheld]
  rfl

/-- A channel that was cut off stays so. -/
theorem reaches_lose_detach (c : Nat) : ((s.detach c).lose (.channel c)).reaches c = false := by
  have hch : ((s.detach c).lose (.channel c)).channel c =
      { (s.channel c).cut with held := (s.channel c).held - 1 } := by
    show ((s.mapChannel c _).mapChannel c _).channel c = _
    rw [mapChannel_mapChannel]
    rcases Nat.lt_or_ge c s.channels.length with hlt | hle
    · exact s.channel_mapChannel hlt _
    · rw [channel_of_length_le _ (by rwa [length_mapChannel]), s.channel_of_length_le hle]
      rfl
  rw [reaches, hch]
  rfl

/-- Nothing follows when an endpoint is let go of that stays, or that was cut off. -/
theorem whenLost_eq_only {e : EndpointRef}
    (he : ∀ c, e = .channel c → s.isLive e = true ∨ s.reaches c = false) : s.whenLost e = .only s := by
  cases e with
  | custom n => rfl
  | channel c =>
    unfold whenLost
    dsimp only
    split
    · rfl
    · rename_i hl
      have hr := (he c rfl).resolve_left hl
      exact if_neg (by rw [hr]; exact Bool.false_ne_true)

/-- Only frames that are held back were touched, and ids. -/
def Steady (s s' : Store) : Prop :=
  ∃ l r, s'.connection = { s.connection with queue := l, registry := r }

variable {s} {s' s'' : Store}

theorem Steady.of_eq (h : s'.connection = s.connection) : s.Steady s' := ⟨_, _, h⟩

theorem Steady.trans (h : s.Steady s') (h' : s'.Steady s'') : s.Steady s'' := by
  obtain ⟨l, r, h⟩ := h
  obtain ⟨l', r', h'⟩ := h'
  exact ⟨l', r', by rw [h', h]⟩

theorem Steady.alive (h : s.Steady s') : s'.connection.alive = s.connection.alive := by
  obtain ⟨l, r, h⟩ := h
  rw [h]

theorem Steady.state (h : s.Steady s') : s'.connection.state = s.connection.state := by
  obtain ⟨l, r, h⟩ := h
  rw [h]

theorem Steady.options (h : s.Steady s') : s'.connection.options = s.connection.options := by
  obtain ⟨l, r, h⟩ := h
  rw [h]

/-- Work holds a handle, and it is not the last. -/
def HasSpare (s : Store) : Prop := s.connection.held ≠ 0 ∧ s.handles ≠ 1

theorem HasSpare.of_eq (h : s.HasSpare) (ho : s'.connection.owned = s.connection.owned)
    (hh : s'.connection.held = s.connection.held) : s'.HasSpare := by
  unfold HasSpare handles at h ⊢
  rwa [ho, hh]

theorem hasSpare_holdHandle (h : s.handles ≠ 0) : s.holdHandle.HasSpare := by
  unfold handles at h
  refine ⟨Nat.succ_ne_zero _, ?_⟩
  show s.connection.owned + (s.connection.held + 1) ≠ 1
  omega

theorem HasSpare.handles_ne_zero (h : s.HasSpare) : s.handles ≠ 0 := by
  have := h.1
  unfold handles
  omega

theorem HasSpare.loseHandle (h : s.HasSpare) : s.loseHandle.handles ≠ 0 := by
  obtain ⟨hheld, hh⟩ := h
  show s.connection.owned + (s.connection.held - 1) ≠ 0
  unfold handles at hh
  omega

theorem Steady.handles (h : s.Steady s') : s'.handles = s.handles := by
  obtain ⟨l, r, h⟩ := h
  unfold Store.handles
  rw [h]

theorem Steady.hasSpare (h : s.Steady s') (hs : s.HasSpare) : s'.HasSpare := by
  obtain ⟨l, r, h⟩ := h
  exact hs.of_eq (by rw [h]) (by rw [h])

end Store

/-- What is done, with so many more handles and other frames held back. -/
def Next.laden (n : Next) (a : Nat) (q : List Frame → List Frame) : Next :=
  { n with store := n.store.laden a q }

/-! ## To the end of a call -/

/-- The work comes to the end of a call to parse, and with every load that `Q` allows it does the same.
The state at the end is one of `P`. If all is fine, then all octets are consumed and no error is
reported. -/
def Parsed (Q : (List Frame → List Frame) → Prop) (P : Store → Prop) (size : Nat) (fine : Prop)
    (work : List Task) (s : Store) : Prop :=
  ∃ n es s', (∀ a q, Q q → Yields work (s.laden a q) (.answered (.consumed n) :: es) (s'.laden a q)) ∧
    P s' ∧ (fine → n = size ∧ reports es = [])

namespace Parsed

variable {Q : (List Frame → List Frame) → Prop} {P : Store → Prop} {size : Nat} {fine : Prop}
  {t : Task} {work rest : List Task} {s s' : Store} {n : Next}

theorem task (hrun : ∀ a q, Q q → t.run (s.laden a q) = some (n.laden a q)) (hf : n.fault = none)
    (hr : fine → reports n.log = []) (h : Parsed Q P size fine (n.tasks ++ rest) n.store) :
    Parsed Q P size fine (t :: rest) s := by
  obtain ⟨m, es, s', hy, hp, hfine⟩ := h
  refine ⟨m, es ++ n.log.reverse, s', fun a q hq => ?_, hp, fun hfi => ?_⟩
  · exact .task (n := n.laden a q) (hrun a q hq) hf (hy a q hq)
  · obtain ⟨hm, hes⟩ := hfine hfi
    refine ⟨hm, ?_⟩
    rw [reports_append, hes, reports, List.filterMap_reverse]
    exact List.reverse_eq_nil_iff.2 (hr hfi)

theorem fault {e : Option EndpointRef} {p : Parsing} {f : Option Violation} {v : Violation}
    (hrun : ∀ a q, Q q → t.run (s.laden a q) = some (n.laden a q)) (hf : n.fault = some v)
    (hfine : ¬ fine)
    (h : Parsed Q P size fine (n.tasks ++ .handled e p (some v) :: rest) n.store) :
    Parsed Q P size fine (t :: .handled e p f :: rest) s := by
  obtain ⟨m, es, s', hy, hp, -⟩ := h
  refine ⟨m, es ++ n.log.reverse, s', fun a q hq => ?_, hp, fun hfi => absurd hfi hfine⟩
  exact .fault (n := n.laden a q) (hrun a q hq) hf (hy a q hq)

theorem user {cb : Callback} (h : Parsed Q P size fine rest s) :
    Parsed Q P size fine (.user cb :: rest) s := by
  obtain ⟨m, es, s', hy, hp, hfine⟩ := h
  exact ⟨m, es, s', fun a q hq => .user (hy a q hq), hp, hfine⟩

theorem only (s' : Store) (hrun : ∀ a q, Q q → t.run (s.laden a q) = some (.only (s'.laden a q)))
    (h : Parsed Q P size fine rest s') : Parsed Q P size fine (t :: rest) s :=
  .task (n := .only s') hrun rfl (fun _ => rfl) h

theorem follow (s' : Store) (tasks : List Task)
    (hrun : ∀ a q, Q q → t.run (s.laden a q) = some (.follow (s'.laden a q) tasks))
    (h : Parsed Q P size fine (tasks ++ rest) s') : Parsed Q P size fine (t :: rest) s :=
  .task (n := .follow s' tasks) hrun rfl (fun _ => rfl) h

/-- User code gets to know something that is no error. -/
theorem start (s' : Store) (cb : Callback) (tasks : List Task) (hcb : ∀ text, cb ≠ .error text)
    (hrun : ∀ a q, Q q → t.run (s.laden a q) = some (.start (s'.laden a q) cb tasks))
    (h : Parsed Q P size fine (tasks ++ rest) s') : Parsed Q P size fine (t :: rest) s := by
  refine .task (n := .start s' cb tasks) hrun rfl (fun _ => ?_) h.user
  cases cb with
  | error text => exact absurd rfl (hcb text)
  | _ => rfl

theorem releaseHandle (hs : s.HasSpare) (h : Parsed Q P size fine rest s.loseHandle) :
    Parsed Q P size fine (.releaseHandle :: rest) s := by
  obtain ⟨hh, h2⟩ := hs
  refine .only s.loseHandle (fun a q _ => ?_) h
  have hne : (s.laden a q).handles ≠ 1 := by
    show s.connection.owned + (s.connection.held + a) ≠ 1
    unfold Store.handles at h2
    omega
  show some (s.laden a q).releaseHandle = _
  rw [Store.releaseHandle, if_neg hne, Store.loseHandle_laden a q s hh]

/-- The call lets go of its handle, which is not the last, and answers. -/
theorem endOfParse {m : Nat} (hs : s.HasSpare) (hp : P s.loseHandle) (hm : fine → m = size) :
    Parsed Q P size fine (Store.endOfParse m) s := by
  refine .releaseHandle hs ⟨m, [], s.loseHandle, fun a q _ => ?_, hp, fun hfi => ⟨hm hfi, rfl⟩⟩
  exact .answer (.done _)

/-- The frame was the last of the buffer. -/
theorem handled {p : Parsing} (hb : p.buffer.length ≤ p.size) (hs : s.HasSpare) (hp : P s.loseHandle)
    (hm : fine → p.processed + p.size = size) : Parsed Q P size fine [.handled none p none] s := by
  refine .follow s _ (fun a q _ => rfl) ?_
  rw [List.drop_eq_nil_of_le hb]
  exact .follow s _ (fun a q _ => rfl) (.endOfParse hs hp hm)

/-! ### Loops -/

/-- An endpoint that is let go of leaves nothing to do. -/
theorem lost {e : EndpointRef} (he : ∀ c, e = .channel c → (s.lose e).isLive e = true ∨
      (s.lose e).reaches c = false) (h : Parsed Q P size fine rest (s.lose e)) :
    Parsed Q P size fine (.release e :: rest) s := by
  refine .only (s.lose e) (fun a q _ => ?_) h
  show some (((s.laden a q).lose e).whenLost e) = _
  rw [Store.laden_lose]
  refine congrArg some (Store.whenLost_eq_only _ fun c hc => ?_)
  rw [Store.isLive_laden]
  exact he c hc

theorem invalidateEach (h : ∀ s', s'.connection = s.connection → Parsed Q P size fine rest s')
    (es : List EndpointRef) : Parsed Q P size fine (.invalidateEach es :: rest) s := by
  induction es generalizing s with
  | nil => exact .only s (fun a q _ => rfl) (h s rfl)
  | cons e es ih =>
    cases e with
    | custom n =>
      refine .start s _ [.release (.custom n), .invalidateEach es] (by simp)
        (fun a q _ => rfl) ?_
      exact .lost (by simp) (ih h)
    | channel c =>
      refine .follow (s.detach c) [.release (.channel c), .invalidateEach es]
        (fun a q _ => rfl) (.lost (fun d hd => ?_) (ih h))
      cases hd
      exact .inr (s.reaches_lose_detach c)

/-- A violation is reported, and the call ends without counting its frame. -/
theorem refused {p : Parsing} {v : Violation} (ha : s.connection.alive = true) (hs : s.HasSpare)
    (hfine : ¬ fine) (hp : ∀ s' : Store, s'.HasSpare → s'.connection.alive = s.connection.alive →
      s'.connection.queue = s.connection.queue → P s'.loseHandle) :
    Parsed Q P size fine [.handled none p (some v)] s := by
  refine .follow s.shut.1
    ([.invalidateEach s.shut.2, .notify (.error v.message)] ++ Store.endOfParse p.processed)
    (fun a q _ => ?_) (.invalidateEach (fun s' hs' => ?_) _)
  · show some ((s.laden a q).report v p.processed) = _
    unfold Store.report
    rw [if_pos (show (s.laden a q).connection.alive = true from ha), Store.shut_laden]
  · rw [Store.connection_shut] at hs'
    have hspare : s'.HasSpare := hs.of_eq (by rw [hs']) (by rw [hs'])
    refine .task (n := .start s' (.error v.message) []) (fun a q _ => rfl) rfl
      (fun hfi => absurd hfi hfine) (.user (.endOfParse hspare ?_ fun hfi => absurd hfi hfine))
    exact hp s' hspare (by rw [hs']) (by rw [hs'])

end Parsed

/-! ## Sending under load -/

/-- A frame on its way out, or none. -/
structure Next.Sends (s : Store) (n : Next) : Prop where
  store : ∃ l, n.store = s.mapConnection ({ · with queue := l })
  tasks : n.tasks = [] ∨ ∃ cb, n.tasks = [.user cb]
  fault : n.fault = none
  log : reports n.log = []

namespace Store

variable {s : Store} {f : Frame} {n : Next}

theorem send_sends (h : s.send f = .ok n) : n.Sends s := by
  obtain ⟨octets, -, -, ⟨-, rfl⟩ | ⟨-, rfl⟩⟩ := send_cases h
  · exact ⟨⟨_, rfl⟩, .inr ⟨_, rfl⟩, rfl, rfl⟩
  · exact ⟨⟨_, rfl⟩, .inl rfl, rfl, rfl⟩

theorem only_sends (s : Store) : (Next.only s).Sends s := ⟨⟨_, rfl⟩, .inl rfl, rfl, rfl⟩

theorem offer_sends (s : Store) (f : Frame) : (s.offer f).Sends s :=
  match s.offer f, s.offers f with
  | _, .sent h => send_sends h
  | _, .unsent _ => only_sends s

theorem DropsChannel.sends {c : Nat} (h : s.DropsChannel c n) : n = .only s ∨
    ∃ m : Next, m.Sends s.holdHandle ∧ n = m.andThen [.unregister (.channel c), .releaseHandle] := by
  cases h with
  | aside => exact .inl rfl
  | unsent => exact .inr ⟨_, only_sends _, rfl⟩
  | sent _ _ h => exact .inr ⟨_, send_sends h, rfl⟩

variable (a : Nat) (s) (f)

theorem holdHandle_laden : (s.laden a id).holdHandle = s.holdHandle.laden a id := by
  show ({ s with connection := { s.connection with held := s.connection.held + a + 1 } } : Store) =
    { s with connection := { s.connection with held := s.connection.held + 1 + a } }
  rw [Nat.add_right_comm]

theorem send_laden : (s.laden a id).send f = (s.send f).map (·.laden a id) := by
  unfold send
  rw [show (s.laden a id).connection.state = s.connection.state from rfl]
  split
  · rfl
  · cases f.toWire.result with
    | error fault => rfl
    | ok octets =>
      dsimp only
      rw [show (s.laden a id).sendsAtOnce f = s.sendsAtOnce f from rfl]
      split <;> rfl

theorem offer_laden : (s.laden a id).offer f = (s.offer f).laden a id := by
  unfold offer
  rw [send_laden]
  cases s.send f <;> rfl

theorem reply_laden (tasks : List Task) :
    (s.laden a id).reply f tasks = (s.reply f tasks).laden a id := by
  unfold reply
  rw [send_laden]
  cases s.send f <;> rfl

theorem closeChannel_laden (c : Nat) :
    ((s.laden a id).closeChannel c).2 = (s.closeChannel c).2.laden a id := by
  have hsend : ((s.laden a id).setChannelState c .closing).holdHandle.send
      (((s.laden a id).setChannelState c .closing).channelClose c) =
        ((s.setChannelState c .closing).holdHandle.send
          ((s.setChannelState c .closing).channelClose c)).map (·.laden a id) := by
    rw [← send_laden, ← holdHandle_laden]
    rfl
  unfold closeChannel
  rw [show (s.laden a id).channel c = s.channel c from rfl,
    show (s.laden a id).reaches c = s.reaches c from rfl]
  cases (s.channel c).state with
  | closing | closed => rfl
  | «opening» | «open» =>
    dsimp only
    split
    · rw [hsend]
      cases (s.setChannelState c .closing).holdHandle.send _ <;> rfl
    · rfl

theorem evictNext_laden (surplus : List (UInt16 × EndpointRef)) (limits : Tune) :
    (s.laden a id).evictNext surplus limits = (s.evictNext surplus limits).laden a id := by
  cases surplus with
  | nil => exact reply_laden s _ a _
  | cons entry surplus =>
    obtain ⟨x, e⟩ := entry
    unfold evictNext
    dsimp only
    rw [show (s.laden a id).discard x = ((s.discard x).1.laden a id, (s.discard x).2) from rfl,
      isLive_laden, laden_hold]
    split
    · cases e <;> rfl
    · rfl

theorem dropChannel_laden (c : Nat) : (s.laden a id).dropChannel c = (s.dropChannel c).laden a id := by
  unfold dropChannel
  rw [show (s.laden a id).reaches c = s.reaches c from rfl]
  split
  · dsimp only
    rw [holdHandle_laden, show (s.holdHandle.laden a id).channel c = s.holdHandle.channel c from rfl]
    cases (s.holdHandle.channel c).state with
    | closing | closed => rfl
    | «opening» | «open» =>
      dsimp only
      rw [offer_laden]
      rfl
  · rfl

theorem whenLost_laden (e : EndpointRef) : (s.laden a id).whenLost e = (s.whenLost e).laden a id := by
  cases e with
  | custom n => rfl
  | channel c =>
    unfold whenLost
    dsimp only
    rw [isLive_laden, dropChannel_laden]
    split <;> rfl

theorem closeEndpoint_laden (e : EndpointRef) :
    (s.laden a id).closeEndpoint e = (s.closeEndpoint e).laden a id := by
  cases e with
  | custom n => rfl
  | channel c => exact s.closeChannel_laden a c

/-! ### What is held back -/

variable {s} {f} {l : List Frame}

theorem run_flush_nil (hl : s.connection.queue = []) : Task.run .flush s = some (.only s) := by
  simp only [Task.run, hl]

theorem run_flush_cons (hl : s.connection.queue = f :: l) (ha : s.connection.alive = true) :
    Task.run .flush s = some ⟨s.mapConnection ({ · with queue := l }),
      [.user (.data f.toWire.octets), .flush], [.handed f, .started (.data f.toWire.octets)], none⟩ := by
  simp only [Task.run, hl, if_pos ha]

theorem run_flush_of_not_alive (ha : s.connection.alive = false) :
    Task.run .flush s = some (.only s) := by
  cases hl : s.connection.queue with
  | nil => exact run_flush_nil hl
  | cons f l =>
    simp only [Task.run, hl, ha, Bool.false_eq_true, if_false]

end Store

/-! ## Work that sends -/

namespace Parsed

variable {P : Store → Prop} {size : Nat} {fine : Prop} {rest : List Task} {s s₁ : Store} {n : Next}

/-- A frame goes out, or is held back as well. -/
theorem sends (hn : n.Sends s) (h : ∀ s', s.Steady s' → Parsed (· = id) P size fine rest s') :
    Parsed (· = id) P size fine (n.tasks ++ rest) n.store := by
  obtain ⟨l, hl⟩ := hn.store
  have hrest : Parsed (· = id) P size fine rest n.store := by
    rw [hl]
    exact h _ ⟨l, _, rfl⟩
  rcases hn.tasks with ht | ⟨cb, ht⟩
  · rwa [ht]
  · rw [ht]
    exact .user hrest

/-- The connection is held while a frame goes out. -/
theorem sendsWithHandle (hn : n.Sends s.holdHandle) (hs : s.handles ≠ 0)
    (h : ∀ s', s.Steady s' → Parsed (· = id) P size fine rest s') :
    Parsed (· = id) P size fine (n.tasks ++ .releaseHandle :: rest) n.store := by
  refine .sends hn fun s' hs' => .releaseHandle (hs'.hasSpare (s.hasSpare_holdHandle hs)) (h _ ?_)
  obtain ⟨l, r, hc⟩ := hs'
  exact ⟨l, r, by rw [Store.loseHandle, Store.mapConnection, hc]; rfl⟩

/-- An endpoint is let go of. A channel that nobody else holds takes its leave. -/
theorem release (hs : s.handles ≠ 0) (e : EndpointRef)
    (h : ∀ s', s.Steady s' → Parsed (· = id) P size fine rest s') :
    Parsed (· = id) P size fine (.release e :: rest) s := by
  have hlose : s.Steady (s.lose e) := .of_eq (s.connection_lose e)
  have hhandles : (s.lose e).handles ≠ 0 := by
    rw [Store.handles, s.connection_lose]
    exact hs
  have hrun : ∀ a q, q = id →
      Task.run (.release e) (s.laden a q) = some (((s.lose e).whenLost e).laden a q) := by
    rintro a q rfl
    show some (((s.laden a id).lose e).whenLost e) = _
    rw [Store.laden_lose, Store.whenLost_laden]
  have hends := (s.lose e).loses e
  generalize (s.lose e).whenLost e = n at hrun hends
  cases hends with
  | aside => exact .only _ hrun (h _ hlose)
  | @last c _ _ hn =>
    obtain rfl | ⟨m, hm, rfl⟩ := hn.sends
    · exact .only _ hrun (h _ hlose)
    refine .task hrun hm.fault (fun _ => hm.log) ?_
    rw [Next.andThen, List.append_assoc]
    refine .sends hm fun s' hs' => .only (s'.unregister (.channel c)) (fun a q _ => rfl)
      (.releaseHandle ?_ (h _ ?_))
    · exact (hs'.hasSpare (Store.hasSpare_holdHandle hhandles)).of_eq rfl rfl
    · obtain ⟨l, r, hc⟩ := hs'
      refine hlose.trans ⟨l, r.release (s'.idOf (.channel c)) (.channel c), ?_⟩
      rw [Store.loseHandle, Store.mapConnection, Store.connection_unregister, hc]
      rfl

/-- Every endpoint is told to close. -/
theorem closeEach (ha : s.connection.alive = true) (hs : s.handles ≠ 0)
    (h : ∀ s', s.Steady s' → Parsed (· = id) P size fine rest s') (es : List EndpointRef) :
    Parsed (· = id) P size fine (.closeEach es :: rest) s := by
  induction es generalizing s with
  | nil => exact .only s (fun a q _ => rfl) (h s (.of_eq rfl))
  | cons e es ih =>
    -- one endpoint was told; it is let go of, and the others are next
    have hnext : ∀ s', s.Steady s' →
        Parsed (· = id) P size fine ([.release e, .closeEach es] ++ rest) s' := by
      intro s' hs'
      refine .release (hs'.handles.trans_ne hs) e fun s'' hs'' => ?_
      have hsteady := hs'.trans hs''
      exact ih (hsteady.alive.trans ha) (hsteady.handles.trans_ne hs) fun t ht => h t (hsteady.trans ht)
    have hrun : ∀ a q, q = id → Task.run (.closeEach (e :: es)) (s.laden a q) =
        some (((s.closeEndpoint e).andThen [.release e, .closeEach es]).laden a q) := by
      rintro a q rfl
      show some (if (s.laden a id).connection.alive then _ else _) = _
      rw [if_pos (show (s.laden a id).connection.alive = true from ha), Store.closeEndpoint_laden]
      rfl
    cases e with
    | custom n =>
      exact .start s (.endpointClose n) [.release (.custom n), .closeEach es] (by simp) hrun
        (hnext s (.of_eq rfl))
    | channel c =>
      rw [show s.closeEndpoint (.channel c) = (s.closeChannel c).2 from rfl] at hrun
      match (s.closeChannel c).2, s.closesChannel c, hrun with
      | _, .aside _, hrun => exact .follow s _ hrun (hnext s (.of_eq rfl))
      | _, .unsent _ _, hrun =>
        exact .follow (s.setChannelState c .closing) _ hrun (hnext _ (.of_eq rfl))
      | _, .sent _ _ hsend, hrun =>
        have hn := Store.send_sends hsend
        refine .task hrun hn.fault (fun _ => hn.log) ?_
        simp only [Next.andThen, List.append_assoc]
        exact .sendsWithHandle (s := s.setChannelState c .closing) hn hs fun s' hs' => hnext s' hs'

/-- What was held back goes out. -/
theorem flush (ha : s.connection.alive = true)
    (h : ∀ s', s.Steady s' → Parsed (· = id) P size fine rest s') :
    Parsed (· = id) P size fine (.flush :: rest) s := by
  generalize hl : s.connection.queue = l
  induction l generalizing s with
  | nil =>
    refine .only s ?_ (h s (.of_eq rfl))
    rintro a q rfl
    exact Store.run_flush_nil hl
  | cons f l ih =>
    let t : Store := s.mapConnection ({ · with queue := l })
    have ht : s.Steady t := ⟨l, _, rfl⟩
    refine .task (n := ⟨t, [.user (.data f.toWire.octets), .flush],
      [.handed f, .started (.data f.toWire.octets)], none⟩) ?_ rfl (fun _ => rfl)
      (.user (ih (s := t) ha (fun s' hs' => h s' (ht.trans hs')) rfl))
    rintro a q rfl
    exact Store.run_flush_cons (s := s.laden a id) hl ha

/-- Channels over the limit are turned away. -/
theorem evict {limits : Tune} (ha : s.connection.alive = true)
    (h : ∀ s', s.Steady s' → Parsed (· = id) P size fine (.evict [] limits :: rest) s')
    (surplus : List (UInt16 × EndpointRef)) :
    Parsed (· = id) P size fine (.evict surplus limits :: rest) s := by
  -- one channel after the other; each is told, and a handle of the connection stays
  induction surplus generalizing s with
  | nil => exact h s (.of_eq rfl)
  | cons entry surplus ih =>
    obtain ⟨x, e⟩ := entry
    have ht : s.Steady (s.discard x).1 := ⟨_, _, rfl⟩
    have hnext : ∀ s', s.Steady s' → Parsed (· = id) P size fine (.evict surplus limits :: rest) s' :=
      fun s' hs' => ih (hs'.alive.trans ha) fun s'' hs'' => h s'' (hs'.trans hs'')
    have hreports (n : Next) (hn : reports n.log = []) :
        reports (n.noting (s.discard x).2).log = [] := by
      show reports ((s.connection.queue.filter _).map .discarded ++ n.log) = []
      rw [reports_append, hn, List.append_nil, reports, List.filterMap_map]
      exact List.filterMap_eq_nil_iff.2 fun f _ => rfl
    have hrun : ∀ a q, q = id → Task.run (.evict ((x, e) :: surplus) limits) (s.laden a q) =
        some ((s.evictNext ((x, e) :: surplus) limits).laden a q) := by
      rintro a q rfl
      rw [← Store.evictNext_laden]
      exact congrArg some (if_pos ha)
    match e, s.evictNext ((x, e) :: surplus) limits, s.evictsNext ((x, e) :: surplus) limits, hrun with
    | .custom n, _, .rejected _ _ _, hrun =>
      exact .task hrun rfl (fun _ => hreports _ rfl) (.user (.lost (by simp) (hnext _ ht)))
    | .channel c, _, .rejected _ _ _, hrun =>
      refine .task hrun rfl (fun _ => hreports _ rfl) (.user ?_)
      refine .start _ (.channelClosed c) [] (by simp) (fun a q _ => congrArg some (if_pos ha))
        (.lost (fun d hd => ?_) (hnext _ ht))
      cases hd
      exact .inr (Store.reaches_lose_detach _ c)
    | _, _, .gone _ _ _, hrun => exact .task hrun rfl (fun _ => hreports _ rfl) (hnext _ ht)

end Parsed

end AmqpSession
