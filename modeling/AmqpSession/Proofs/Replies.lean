/-
A reply that is given to `parse` while its request goes out, and the same reply given when the
operation that made the request has returned. User code only returns otherwise. The two orders agree
if the reply is handled the same with what the rest of the operation does to the load
(`repliesAgree_of_parsed`), or if each order is known step by step (`repliesAgree_of_yields`). They
agree for the requests of negotiation and for those that were held back until its end.
-/
import AmqpSession.Proofs.Agreement
import AmqpSession.Proofs.Answers
import AmqpSession.Proofs.Delivery

namespace AmqpSession

open Wire

/-! ## Requests and replies -/

/-- The reply that a request asks for. -/
inductive Wire.Frame.IsReply : Frame → Frame → Prop where
  | tune (mine : StartOk) (limits : Tune) :
      IsReply (.ofConnection (.startOk mine)) (.ofConnection (.tune limits))
  | openOk (host : String) : IsReply (.ofConnection (.openRequest host)) (.ofConnection .openOk)
  | opened (id : UInt16) : IsReply (openRequest id) (openAnswer id)
  | closed (id : UInt16) (reason : Close) : IsReply (.ofChannel id (.close reason)) (closeAnswer id)
  | closeOk (reason : Close) :
      IsReply (.ofConnection (.close reason)) (.ofConnection .closeOk)

theorem Wire.Frame.IsReply.isConfirmation {f g : Frame} (h : f.IsReply g)
    (hf : f.isPartOfHandshake = false) : g.isConfirmation := by
  cases h with
  | tune | openOk => cases hf
  | opened id => exact .inr ⟨id, .inl rfl⟩
  | closed id => exact .inr ⟨id, .inr rfl⟩
  | closeOk => exact .inl rfl

theorem Wire.Frame.IsReply.of_closeRequest {id : UInt16} {g : Frame}
    (h : (closeRequest id).IsReply g) : g = closeAnswer id := by
  cases h
  rfl

/-- The last of an operation, and what it does to the state. -/
inductive IsLast : List Task → (Store → Store) → Prop where
  | answer (o : Outcome) : IsLast [.answer o] id
  | handled {p : Parsing} (hp : p.buffer.length ≤ p.size) :
      IsLast [.handled none p none] Store.loseHandle

namespace Session

/-- User code has its turn with the octets of a frame. -/
def Hands (τ : Session) (f : Frame) : Prop :=
  ∃ octets rest es, τ.tasks = .user (.data octets) :: rest ∧
    τ.log = .started (.data octets) :: .handed f :: es

theorem Hands.isIdle {τ : Session} {f : Frame} (h : τ.Hands f) : τ.isIdle = true := by
  obtain ⟨octets, rest, -, htasks, -⟩ := h
  unfold Session.isIdle
  rw [htasks]

theorem Hands.eq {s : Store} {tasks : List Task} {octets : Bytes} {es : List Event} {f g : Frame}
    (h : Hands ⟨s, tasks, .started (.data octets) :: .handed g :: es⟩ f) : f = g := by
  obtain ⟨octets', rest, es', -, hlog⟩ := h
  cases hlog
  rfl

/-- A step of an operation above `base` that may hand out a request. Nothing else arrived behind the
frame that the operation handles, if it handles one. A channel that asks for something is not about to
be cut off. -/
inductive Asks (base : List Task) (ρ τ : Session) : Prop where
  /-- The offer of the peer is taken up. -/
  | login {buffer : Bytes} {processed : Nat} {offer : Start}
      (ht : ρ.tasks = .parse buffer processed :: base)
      (hd : Frame.decode buffer ρ.store.connection.maxFrameSize =
        .ok (some ⟨.ofConnection (.start offer), buffer.length⟩)) (h : ρ.tick = some τ)
  /-- The limits were agreed on. -/
  | host {p : Parsing} (hp : p.buffer.length ≤ p.size)
      (ht : ρ.tasks = .requestHost :: .handled none p none :: base)
      (hs : ρ.store.connection.state = .negotiatingTuning) (h : ρ.tick = some τ)
  /-- A request that was held back goes out. -/
  | heldBack {p : Parsing} (hp : p.buffer.length ≤ p.size)
      (ht : ρ.tasks = .flush :: .handled none p none :: base) (h : ρ.tick = some τ)
  | opens (hb : base = ρ.tasks) (h : ρ.call? .openChannel = some τ)
  | closes {c : Nat} (hb : base = ρ.tasks) (h : ρ.call? (.closeChannel c) = some τ)
      (hc : (stakes c ρ.tasks).outcast = 0)
  /-- User code lets go of its last handle of a channel. -/
  | leaves {c : Nat} (hb : base = ρ.tasks) (h : ρ.call? (.dropChannel c) = some τ)
      (hc : (stakes c ρ.tasks).outcast = 0)
  /-- An operation on a channel ends after user code let go of it. -/
  | lost {c : Nat} {last : List Task} {fin : Store → Store} (hl : IsLast last fin)
      (ht : ρ.tasks = .release (.channel c) :: last ++ base) (h : ρ.tick = some τ)
      (hc : (stakes c ρ.tasks).outcast = 0)

theorem Asks.step {base : List Task} {ρ τ : Session} (h : Asks base ρ τ) : Step ρ τ := by
  cases h with
  | login _ _ h | host _ _ _ h | heldBack _ _ h | lost _ _ h => exact .tick h
  | opens _ h | closes _ h | leaves _ h => exact .call _ h

/-- A request goes out in an operation above `base`, and `reply` is the octets of the reply to it. When
the operation has returned nothing runs, and the connection is not dropped. -/
structure Replied (base : List Task) (τ : Session) (f g : Frame) (reply : Bytes) : Prop where
  reachable : τ.Reachable
  hands : τ.Hands f
  isReply : f.IsReply g
  decodes : Frame.decode reply τ.store.connection.maxFrameSize = .ok (some ⟨g, reply.length⟩)
  idle : ∀ υ : Session, υ.tasks = base → υ.isIdle = true
  kept : τ.store.connection.owned + handlesOf base ≠ 0

/-- The rest of the operation holds the connection, so that it may let go of it. -/
theorem Replied.hasSpare {base : List Task} {τ : Session} {f g : Frame} {reply : Bytes} {cb : Callback}
    (h : Replied base τ f g reply) (above : List Task) (hτ : τ.tasks = .user cb :: (above ++ base))
    (hw : handlesOf above ≠ 0) : τ.store.HasSpare := by
  have hheld := h.reachable.held_eq
  have hk := h.kept
  rw [hτ, handlesOf_cons, handlesOf_append, show (Task.user cb).handles = 0 from rfl] at hheld
  unfold Store.HasSpare Store.handles
  omega

/-- The reply is given to `parse` where user code has its turn, and then the operation goes on to its
end. -/
def RepliesWithin (base : List Task) (τ : Session) (reply : Bytes) (n : Nat) (υ : Session) : Prop :=
  ∃ ρ, Parses quiet τ reply n ρ ∧ Ends quiet base ρ υ

/-- The operation goes on to its end, and then the reply is given to `parse`. -/
def RepliesAfter (base : List Task) (τ : Session) (reply : Bytes) (n : Nat) (υ : Session) : Prop :=
  ∃ ρ, Ends quiet base τ ρ ∧ Parses quiet ρ reply n υ

/-- Either way the same is left, and user code got to know the same. If all is fine, then the reply is
accepted. -/
def RepliesAgree (base : List Task) (τ : Session) (reply : Bytes) (fine : Prop) : Prop :=
  ∃ n α β, RepliesWithin base τ reply n α ∧ RepliesAfter base τ reply n β ∧ α.store = β.store ∧
    (callbacks α.log).Perm (callbacks β.log) ∧
    (fine → n = reply.length ∧ reports α.log = reports τ.log)

end Session

/-! ## What is left of an operation -/

namespace Yields

variable {rest : List Task} {s s' s'' : Store} {es : List Event}

theorem handled {p : Parsing} (hp : p.buffer.length ≤ p.size) (hh : s.handles ≠ 1) :
    Yields [.handled none p none] s [.answered (.consumed (p.processed + p.size))] s.loseHandle := by
  refine .follow s rfl ?_
  rw [List.drop_eq_nil_of_le hp]
  exact .follow s rfl (.releaseHandle hh (.answer (.done _)))

end Yields

/-- What happens when frames that were held back go out, the latest first. -/
def flushed (l : List Frame) : List Event :=
  (l.flatMap fun f => [.handed f, .started (.data f.toWire.octets)]).reverse

theorem reports_flushed (l : List Frame) : reports (flushed l) = [] := by
  rw [flushed, reports, List.filterMap_reverse, List.reverse_eq_nil_iff, List.filterMap_flatMap]
  exact List.flatMap_eq_nil_iff.2 fun f _ => rfl

namespace Yields

variable {rest : List Task} {s s' s'' : Store} {es : List Event}

/-- What is held back goes out, as long as user code only returns. -/
theorem flush (ha : s.connection.alive = true)
    (h : Yields rest (s.laden 0 fun _ => []) es s') :
    Yields (.flush :: rest) s (es ++ flushed s.connection.queue) s' := by
  generalize hl : s.connection.queue = l
  induction l generalizing s with
  | nil =>
    have hs : s.laden 0 (fun _ => []) = s := by
      show ({ s with connection := { s.connection with queue := [] } } : Store) = s
      rw [← hl]
    rw [hs] at h
    rw [show flushed [] = [] from rfl, List.append_nil]
    exact .only s (Store.run_flush_nil hl) h
  | cons f l ih =>
    let t : Store := s.mapConnection ({ · with queue := l })
    have hes : flushed (f :: l) = flushed l ++ [.started (.data f.toWire.octets), .handed f] := by
      rw [flushed, List.flatMap_cons, List.reverse_append]
      rfl
    rw [hes, ← List.append_assoc]
    exact .task (Store.run_flush_cons hl ha) rfl (.user (ih (s := t) ha h rfl))

end Yields

theorem IsLast.yields {last : List Task} {fin : Store → Store} (h : IsLast last fin) {s : Store}
    (hheld : handlesOf last ≤ s.connection.held) (hh : (fin s).handles ≠ 0) :
    ∃ es, callbacks es = [] ∧ reports es = [] ∧ Yields last s es (fin s) := by
  cases h with
  | answer o => exact ⟨_, rfl, rfl, .answer (.done s)⟩
  | handled hp =>
    refine ⟨_, rfl, rfl, .handled hp ?_⟩
    replace hh : s.connection.owned + (s.connection.held - 1) ≠ 0 := hh
    replace hheld : 1 ≤ s.connection.held := hheld
    unfold Store.handles
    omega

namespace Session

variable {base above : List Task} {ρ τ : Session} {reply : Bytes} {fine : Prop}

/-! ## Both ways -/

/-- The call to parse and the rest of the operation come to the same in either order. -/
theorem repliesAgree_of_yields {cb : Callback} {s₁ s₂ s' : Store} {es es' es₁ es₂ : List Event} {n : Nat}
    (hτ : τ.tasks = .user cb :: (above ++ base))
    (hbase : ∀ υ : Session, υ.tasks = base → υ.isIdle = true)
    (hh : τ.store.handles ≠ 0) (hh₂ : s₂.handles ≠ 0)
    (hin : Yields [.parse reply 0] τ.store.holdHandle (.answered (.consumed n) :: es) s₁)
    (hrest : Yields above s₁ es₁ s') (hfirst : Yields above τ.store es₂ s₂)
    (hafter : Yields [.parse reply 0] s₂.holdHandle (.answered (.consumed n) :: es') s')
    (hcb : (callbacks es₁ ++ callbacks es).Perm (callbacks es' ++ callbacks es₂))
    (hfine : fine → n = reply.length ∧ reports es₁ = [] ∧ reports es = []) :
    RepliesAgree base τ reply fine := by
  obtain ⟨s, tasks, log⟩ := τ
  replace hτ : tasks = .user cb :: (above ++ base) := hτ
  subst hτ
  have hresume : ∀ {s t : Store} {es : List Event} (log : List Event), Yields above s es t →
      Ends quiet base ⟨s, .user cb :: (above ++ base), log⟩ ⟨t, base, es ++ log⟩ :=
    fun log h => (Yields.user h).ends base log
  refine ⟨n, ⟨s', base, es₁ ++ (es ++ log)⟩, ⟨s', base, es' ++ (es₂ ++ log)⟩,
    ⟨_, hin.parses rfl hh, hresume _ hrest⟩,
    ⟨⟨s₂, base, es₂ ++ log⟩, hresume _ hfirst, hafter.parses (hbase _ rfl) hh₂⟩, rfl, ?_, fun hfi => ?_⟩
  · simp only [callbacks_append, ← List.append_assoc]
    exact hcb.append_right _
  · obtain ⟨hn, hr₁, hr⟩ := hfine hfi
    refine ⟨hn, ?_⟩
    show reports (es₁ ++ (es ++ log)) = reports log
    rw [reports_append, reports_append, hr₁, hr]
    rfl

theorem RepliesAgree.mono {fine' : Prop} (h : RepliesAgree base τ reply fine) (himp : fine' → fine) :
    RepliesAgree base τ reply fine' := by
  obtain ⟨n, α, β, hin, hafter, hstore, hcb, hfine⟩ := h
  exact ⟨n, α, β, hin, hafter, hstore, hcb, hfine ∘ himp⟩

/-- The reply is handled the same whatever the rest of the operation does to the load. -/
theorem repliesAgree_of_parsed {P : Store → Prop} {Q : (List Frame → List Frame) → Prop}
    {q : List Frame → List Frame} {cb : Callback} {es : List Event}
    (hp : Parsed Q P reply.length fine [.parse reply 0] τ.store) (hid : Q id) (hq : Q q)
    (hτ : τ.tasks = .user cb :: (above ++ base))
    (hbase : ∀ υ : Session, υ.tasks = base → υ.isIdle = true) (hs : τ.store.HasSpare)
    (hfirst : Yields above τ.store es (τ.store.loseHandle.laden 0 q))
    (hrest : ∀ s', P s' → Yields above (s'.laden 1 id) es (s'.laden 0 q)) (hr : reports es = []) :
    RepliesAgree base τ reply fine := by
  obtain ⟨n, es', s', hy, hp, hfine⟩ := hp
  have hhandles : (τ.store.loseHandle.laden 0 q).handles ≠ 0 := hs.loseHandle
  refine repliesAgree_of_yields hτ hbase hs.handles_ne_zero hhandles (hy 1 id hid) (hrest s' hp)
    hfirst ?_ List.perm_append_comm fun hfi => ?_
  · -- the call to parse holds what the rest of the operation has let go of
    have hheld : (τ.store.loseHandle.laden 0 q).holdHandle = τ.store.laden 0 q := by
      have hcount : τ.store.connection.held - 1 + 0 + 1 = τ.store.connection.held + 0 := by
        have := hs.1
        omega
      show ({ τ.store with connection := { τ.store.connection with
        held := τ.store.connection.held - 1 + 0 + 1, queue := q τ.store.connection.queue } } : Store) = _
      rw [hcount]
      rfl
    rw [hheld]
    exact hy 0 q hq
  · obtain ⟨hn, hes⟩ := hfine hfi
    exact ⟨hn, hr, hes⟩

/-! ## Negotiation -/

/-- The rest of the operation only ends the handling of a frame. -/
theorem repliesAgree_of_handled {p : Parsing} {cb : Callback} (hp : p.buffer.length ≤ p.size)
    (h : Parsed (· = id) (fun s' => s'.handles ≠ 0) reply.length fine [.parse reply 0] τ.store)
    (hτ : τ.tasks = .user cb :: ([.handled none p none] ++ base))
    (hbase : ∀ υ : Session, υ.tasks = base → υ.isIdle = true) (hs : τ.store.HasSpare) :
    RepliesAgree base τ reply fine := by
  refine repliesAgree_of_parsed h rfl rfl hτ hbase hs (.handled hp hs.2) (fun s' hs' => ?_) rfl
  have hh : (s'.laden 1 id).handles ≠ 1 := by
    show s'.connection.owned + (s'.connection.held + 1) ≠ 1
    unfold Store.handles at hs'
    omega
  have hlose : (s'.laden 1 id).loseHandle = s'.laden 0 id := s'.loseHandle_holdHandle
  rw [← hlose]
  exact .handled hp hh

end Session

namespace Store

variable {s : Store}

/-- A frame of the handshake goes out at once, or it cannot be sent. -/
theorem reply_of_handshake {f : Frame} (hf : f.isPartOfHandshake = true) (s : Store)
    (tasks : List Task) : (∃ v, s.reply f tasks = .refuse s v) ∨
      ∃ octets, s.reply f tasks = (Next.sent s f octets).andThen tasks := by
  match s.reply f tasks, s.replies f tasks with
  | _, .sent h =>
    obtain ⟨octets, -, -, ⟨-, rfl⟩ | ⟨hlater, -⟩⟩ := send_cases h
    -- only frames that are not part of the handshake are held back
    · exact .inr ⟨octets, rfl⟩
    · exact absurd (.inr hf) hlater
  | _, .unsent _ => exact .inl ⟨_, rfl⟩

/-- An offer is refused, or it is answered when the limits are awaited already. -/
theorem receiveStart_cases (s : Store) (offer : Start) : (∃ s' v, s.receiveStart offer = .refuse s' v) ∨
    ∃ octets, s.receiveStart offer =
      .sent (s.setState .negotiatingTuning) (.ofConnection (.startOk s.startOk)) octets := by
  unfold receiveStart
  split
  · exact .inl ⟨_, _, rfl⟩
  · split
    · exact .inl ⟨_, _, rfl⟩
    · obtain ⟨v, h⟩ | ⟨octets, h⟩ := reply_of_handshake (f := .ofConnection (.startOk s.startOk)) rfl
        (s.setState .negotiatingTuning) []
      · exact .inl ⟨_, v, h⟩
      · exact .inr ⟨octets, h⟩

theorem parse_of_not_live (h : ¬ (s.connection.alive = true ∧ s.connection.state ≠ .closed))
    (buffer : Bytes) (processed : Nat) :
    s.parse buffer processed = .follow s (endOfParse processed) := by
  cases ha : s.connection.alive with
  | false => simp [parse, ha]
  | true => exact parse_of_closed (by_contra fun hs => h ⟨ha, hs⟩) buffer processed

end Store

namespace Session

variable {base above : List Task} {ρ τ : Session} {reply : Bytes} {fine : Prop} {f g : Frame}

/-- When start-ok goes out, the limits are awaited already. -/
theorem Replied.login {buffer : Bytes} {processed : Nat} {offer : Start} (h : Replied base τ f g reply)
    (ht : ρ.tasks = .parse buffer processed :: base)
    (hd : Frame.decode buffer ρ.store.connection.maxFrameSize =
      .ok (some ⟨.ofConnection (.start offer), buffer.length⟩)) (hρ : ρ.tick = some τ) :
    RepliesAgree base τ reply (τ.store.connection.options.virtualHost.utf8ByteSize ≤ 255) := by
  obtain ⟨n, hn, rfl⟩ := tick_cons ht hρ
  cases hn
  by_cases hlive : ρ.store.connection.alive = true ∧ ρ.store.connection.state ≠ .closed
  · obtain ⟨ha, hs⟩ := hlive
    have hparse : ρ.store.parse buffer processed =
        (if ρ.store.connection.state = .negotiatingProtocol then ρ.store.receiveStart offer
          else ρ.store.unexpected (.start offer)).within (.ofConnection (.start offer)) none
            ⟨buffer, processed, buffer.length⟩ := by
      rw [Store.parse_of_live ha hs, hd]
      exact Store.receive_zero _ rfl _
    rw [hparse] at h ⊢
    by_cases hst : ρ.store.connection.state = .negotiatingProtocol
    · rw [if_pos hst] at h ⊢
      obtain ⟨s', v, hstart⟩ | ⟨octets, hstart⟩ := ρ.store.receiveStart_cases offer
      · rw [hstart] at h
        cases h.hands.isIdle
      · rw [hstart] at h ⊢
        cases h.hands.eq
        cases h.isReply
        have hspare := h.hasSpare [.handled none ⟨buffer, processed, buffer.length⟩ none] rfl
          Nat.one_ne_zero
        exact repliesAgree_of_handled (Nat.le_refl _) (.tune ha rfl hspare h.decodes) rfl h.idle hspare
    · rw [if_neg hst] at h
      cases h.hands.isIdle
  · rw [Store.parse_of_not_live hlive] at h
    cases h.hands.isIdle

/-- When the host is asked for, its confirmation is awaited. -/
theorem Replied.host {p : Parsing} (h : Replied base τ f g reply) (hp : p.buffer.length ≤ p.size)
    (ht : ρ.tasks = .requestHost :: .handled none p none :: base)
    (hs : ρ.store.connection.state = .negotiatingTuning) (hρ : ρ.tick = some τ) :
    RepliesAgree base τ reply True := by
  obtain ⟨n, hn, rfl⟩ := tick_cons ht hρ
  cases hn
  by_cases ha : ρ.store.connection.alive = true
  · rw [if_pos ha] at h ⊢
    obtain ⟨v, hrequest⟩ | ⟨octets, hrequest⟩ := Store.reply_of_handshake
      (f := .ofConnection (.openRequest ρ.store.connection.options.virtualHost)) rfl ρ.store []
    · rw [hrequest] at h
      cases h.hands.isIdle
    · rw [hrequest] at h ⊢
      cases h.hands.eq
      cases h.isReply
      have hspare := h.hasSpare [.handled none p none] rfl Nat.one_ne_zero
      exact repliesAgree_of_handled hp (.openOk ha hs hspare h.decodes) rfl h.idle hspare
  · rw [if_neg ha] at h
    cases h.hands.isIdle

/-- A request that was held back goes out with the others. -/
theorem Replied.heldBack {p : Parsing} (h : Replied base τ f g reply) (hρ : ρ.Reachable)
    (hp : p.buffer.length ≤ p.size) (ht : ρ.tasks = .flush :: .handled none p none :: base)
    (hτ : ρ.tick = some τ) :
    RepliesAgree base τ reply (τ.store.connection.state ≠ .closed ∧ τ.store.admits g = true) := by
  obtain ⟨n, hn, rfl⟩ := tick_cons ht hτ
  cases hl : ρ.store.connection.queue with
  | nil =>
    rw [Store.run_flush_nil hl] at hn
    cases hn
    cases h.hands.isIdle
  | cons f' l =>
    cases ha : ρ.store.connection.alive with
    | false =>
      rw [Store.run_flush_of_not_alive ha] at hn
      cases hn
      cases h.hands.isIdle
    | true =>
      rw [Store.run_flush_cons hl ha] at hn
      cases hn
      cases h.hands.eq
      have hconfirmation :=
        h.isReply.isConfirmation (hρ.delivers.ordinary f (by rw [hl]; exact List.mem_cons_self))
      let above : List Task := [.flush, .handled none p none]
      have hspare := h.hasSpare above rfl Nat.one_ne_zero
      -- the frames behind it go out before the reply or after it
      have hrest : ∀ s : Store, s.connection.alive = true → s.connection.queue = l → s.handles ≠ 1 →
          Yields above s (.answered (.consumed (p.processed + p.size)) :: flushed l)
            (s.loseHandle.laden 0 fun _ => []) := by
        intro s ha hq hh
        rw [← hq]
        exact .flush ha (.handled hp hh)
      refine repliesAgree_of_parsed (Q := fun _ => True) (.confirmation hconfirmation ha hspare h.decodes)
        trivial trivial rfl h.idle hspare (hrest _ ha rfl hspare.2) (fun s' hs' => ?_) (reports_flushed l)
      have hh : (s'.laden 1 id).handles ≠ 1 := by
        have := hs'.handles
        show s'.connection.owned + (s'.connection.held + 1) ≠ 1
        unfold Store.handles at this
        omega
      have hlose : ((s'.laden 1 id).loseHandle.laden 0 fun _ => []) = s'.laden 0 fun _ => [] :=
        congrArg (Store.laden 0 fun _ => []) s'.loseHandle_holdHandle
      rw [← hlose]
      exact hrest _ hs'.alive hs'.queue hh

end Session

end AmqpSession
