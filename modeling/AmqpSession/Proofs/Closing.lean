/-
What one piece of work comes to for the close of the connection (`Ending`). Most work has no part in it.
A close that may still be asked for is carried out at once on an established connection and put off
before; the end of negotiation carries out the one that was put off; and the peer's own close is answered.
-/
import AmqpSession.Proofs.Closes
import AmqpSession.Proofs.Demise

namespace AmqpSession

open Wire

namespace Store

/-! ## Carrying out -/

/-- The work begins by telling every endpoint to close, then sends the close of the connection, and then
goes on with the given tasks. -/
structure Begins (s : Store) (n : Next) (last : List Task) : Prop where
  tasks : n.tasks = .closeEach s.heldForClose :: .sendClose :: last
  requested : n.store.connection.closeRequested = true
  connected : n.store.connection.state = .connected
  queue : n.store.connection.queue = s.connection.queue
  closeOf? : ∀ e, n.store.closeOf? e = s.closeOf? e
  log : n.log = [] ∨ ∃ f, n.log = [.received f]
  fault : n.fault = none
  isOpen : s.connection.isOpen

theorem isOpen_of_connected {s : Store} (h : s.connection.state = .connected) : s.connection.isOpen := by
  rw [Connection.isOpen, h]
  exact ⟨by decide, by decide⟩

theorem sendClose_begins {s s' : Store} (hc : s.connection.state = .connected)
    (hs : s' = s ∨ s' = s.holdHandle) (last : List Task) :
    Begins s ((s'.mapConnection ({ · with closeRequested := true })).sendClose.andThen last) last := by
  obtain rfl | rfl := hs <;>
    exact ⟨rfl, by simp [sendClose, Next.andThen, Next.follow, mapConnection],
      by simp [sendClose, Next.andThen, Next.follow, mapConnection, hc],
      by simp [sendClose, Next.andThen, Next.follow, mapConnection], closeOf?_foldl_hold _, .inl rfl, rfl,
      isOpen_of_connected hc⟩

theorem receiveOpenOk_begins {s : Store} (hs : s.connection.state = .negotiatingTuning)
    (hr : s.connection.closeRequested = true) (p : Parsing) :
    Begins s (s.receive (.ofConnection .openOk) p) [.announce, .handled none p none] := by
  have hrecv : s.receiveOnConnection (Frame.ofConnection .openOk).body =
      (s.setState .connected).sendClose.andThen [.announce] := by
    show (if s.connection.state = .negotiatingTuning then s.receiveOpenOk else _) = _
    rw [if_pos hs, receiveOpenOk, connection_setState, if_pos hr]
  rw [receive_zero s rfl, hrecv]
  refine ⟨rfl, ?_, ?_, ?_, closeOf?_foldl_hold _, .inr ⟨_, rfl⟩, rfl, ?_⟩
  · show (s.setState .connected).holdRegistered.1.connection.closeRequested = true
    rw [connection_holdRegistered]
    exact hr
  · show (s.setState .connected).holdRegistered.1.connection.state = .connected
    rw [connection_holdRegistered]
    rfl
  · show (s.setState .connected).holdRegistered.1.connection.queue = _
    rw [connection_holdRegistered]
    rfl
  · rw [Connection.isOpen, hs]
    exact ⟨by decide, by decide⟩

/-! ## The table -/

/-- What work comes to for the close of the connection. A call runs no task. -/
inductive Ending (s : Store) (t : Option Task) (n : Next) : Prop where
  /-- No close becomes due. -/
  | ordinary (b : Bool) (hn : n.IsOrdinary b)
      (hm : Connection.Moves t s.connection n.log n.store.connection)
      (hb : b = true → s.connection.state = .connected → s.connection.closeRequested = true)
  | begins (last : List Task) (hn : Begins s n last) (hl : ∀ t ∈ last, t.isClosing = false)
      (hh : handlesOf last ≠ 0)
      (hq : (s.connection.state = .connected ∧ (t = none ∨ s.connection.owned = 0)) ∨
        last.head? = some .announce)
  /-- Negotiation ends, and no close was asked for. -/
  | connects (hs : s.connection.state = .negotiatingTuning) (hn : n.IsOrdinary false)
  | answers (reason : Close) (p : Parsing) (ha : s.connection.alive = true)
      (hs : s.connection.state ≠ .closed) (hn : n = s.receive (.ofConnection (.close reason)) p)

namespace Ending

variable {s s' : Store} {t : Option Task} {n : Next} {last : List Task}

theorem of_isOrdinary (hn : n.IsOrdinary s.connection.closeRequested)
    (hm : Connection.Moves t s.connection n.log n.store.connection) : Ending s t n :=
  .ordinary _ hn hm fun hb _ => hb

/-- A close that is asked for is carried out or put off. -/
theorem of_close (hs : s' = s ∨ s' = s.holdHandle) (hn : s'.close = .ok n)
    (hl : ∀ t ∈ last, t.isClosing = false) (hh : handlesOf last ≠ 0)
    (hq : t = none ∨ s.connection.owned = 0) : Ending s t (n.andThen last) := by
  have hmoves : Connection.Moves t s.connection n.log n.store.connection := by
    obtain rfl | rfl := hs
    · exact close_moves hn
    · exact (holdHandle_moves s).trans (close_moves hn)
  have hstate : s'.connection.state = s.connection.state := by
    obtain rfl | rfl := hs <;> rfl
  cases closesConnection hn with
  | begun _ hc =>
    have hcs : s.connection.state = .connected := hstate ▸ hc
    exact .begins last (sendClose_begins hcs hs last) hl hh (.inl ⟨hcs, hq⟩)
  | noted _ _ hc =>
    exact .ordinary true (.andThen (.only rfl) hl) hmoves fun _ hcs => absurd (hstate.trans hcs) hc

end Ending

/-- The connection is closed first, if it may be. -/
theorem destroy_ending {s s' : Store} {t : Option Task} (hs : s' = s ∨ s' = s.holdHandle)
    {last : List Task} (hl : ∀ t ∈ last, t.isClosing = false) (hh : handlesOf last ≠ 0)
    (hq : t = none ∨ s.connection.owned = 0) : Ending s t (s'.destroy.andThen last) := by
  have hmoves : Connection.Moves t s.connection s'.destroy.log s'.destroy.store.connection := by
    obtain rfl | rfl := hs
    · exact destroy_moves _
    · exact (holdHandle_moves s).trans (destroy_moves _)
  have hkeeps : s'.connection.closeRequested = s.connection.closeRequested := by
    obtain rfl | rfl := hs <;> rfl
  match s'.destroy, s'.destroys, hmoves with
  | _, .aside _, hmoves => exact .of_isOrdinary (.andThen (.only hkeeps) hl) hmoves
  | _, .closing _ (n := n) hc, _ =>
    have hcalm : ∀ t ∈ .clearRegistry :: .destroyed :: last, t.isClosing = false :=
      List.forall_mem_cons.2 ⟨rfl, List.forall_mem_cons.2 ⟨rfl, hl⟩⟩
    have hn : Ending s t (n.andThen (.clearRegistry :: .destroyed :: last)) :=
      .of_close hs hc hcalm (by rw [handlesOf_cons, handlesOf_cons]; omega) hq
    rw [Next.andThen] at hn
    dsimp only [Next.andThen]
    rwa [List.append_assoc]
  | _, .closed _ _, hmoves =>
    refine .of_isOrdinary (Next.IsOrdinary.andThen ?_ hl) hmoves
    exact .follow hkeeps (by simp [Task.isClosing])

theorem parse_ending (s : Store) (buffer : Bytes) (processed : Nat) {t : Option Task} :
    Ending s t (s.parse buffer processed) := by
  obtain ⟨hn, hm⟩ | ⟨p, hs, hn⟩ | ⟨reason, p, ha, hs, hn⟩ := parse_isOrdinary (t := t) s buffer processed
  · exact .of_isOrdinary hn hm
  · rw [hn]
    cases hr : s.connection.closeRequested with
    | true =>
      exact .begins _ (receiveOpenOk_begins hs hr p) (by simp [Task.isClosing]) (by simp [Task.handles])
        (.inr rfl)
    | false =>
      have hrecv : s.receiveOnConnection (Frame.ofConnection .openOk).body =
          .follow (s.setState .connected) [.announce] := by
        show (if s.connection.state = .negotiatingTuning then s.receiveOpenOk else _) = _
        rw [if_pos hs, receiveOpenOk, connection_setState, hr]
        rfl
      rw [receive_zero s rfl, hrecv]
      have hopened : Next.IsOrdinary false (.follow (s.setState .connected) [.announce]) :=
        .follow hr (by simp [Task.isClosing])
      exact .connects hs (hopened.within _ _ p)
  · exact .answers reason p ha hs hn

end Store

/-! ## Tasks and calls -/

open Store

theorem Task.run_ending {t : Task} {s : Store} {n : Next} (hp : t.isProper = true)
    (hc : t.isClosing = false) (hh : t = .releaseHandle → s.connection.held ≠ 0)
    (h : t.run s = some n) : Ending s (some t) n := by
  by_cases ho : t.isOrdinary = true
  · have hm := (Task.run_moves hp h).resolve_right
      (Task.not_connects (by rintro buffer processed rfl; cases ho) h)
    exact .of_isOrdinary (Task.run_isOrdinary hp ho h) hm
  · cases t with
    | parse buffer processed => cases h; exact parse_ending s buffer processed
    | releaseHandle =>
      cases h
      match s.releaseHandle, s.releasesHandle with
      | _, .last h1 =>
        refine destroy_ending (.inl rfl) (by simp [isClosing]) (by simp [handles]) (.inr ?_)
        have := hh rfl
        unfold Store.handles at h1
        omega
      | _, .other _ => exact .of_isOrdinary (.only rfl) (loseHandle_moves s)
    | sendClose => cases hc
    | _ => exact absurd rfl ho

namespace Session

theorem Call.run_ending {c : Call} (s : Store) (hb : ∀ body, c.sent? = some body →
    body ≠ connectionClose.body) : Ending s none (c.run s) := by
  by_cases hclose : c = .close
  · subst hclose
    show Ending s none (tryOnConnection s .closed Store.close)
    match tryOnConnection s .closed Store.close, tries s .closed Store.close with
    | _, .accepted hn =>
      exact .of_close (.inr rfl) hn (by simp [Task.isClosing]) (by simp [Task.handles]) (.inl rfl)
    | _, .refused _ => exact .of_isOrdinary (.follow rfl (by simp [Task.isClosing])) (.refl _)
  · by_cases hdestroy : c = .destroy
    · subst hdestroy
      exact destroy_ending (.inr rfl) (by simp [Task.isClosing]) (by simp [Task.handles]) (.inl rfl)
    · exact .of_isOrdinary (Call.run_isOrdinary s hb hclose hdestroy)
        (c.run_moves s fun _ => rfl)

end Session

end AmqpSession
