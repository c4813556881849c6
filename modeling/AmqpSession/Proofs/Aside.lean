/-
Work that has no part in the handling of a received frame (`Next.IsAside`): it finds no fault of a
frame and leaves nothing behind that may find one. This is all work but parsing, the tasks that
serve a frame (`Task.isServing`), and no call.
-/
import AmqpSession.Proofs.Step

namespace AmqpSession

open Wire

/-- Part of the handling of a frame: it may find a fault of the frame, or tells user code of one. -/
@[simp] def Task.isServing : Task → Bool
  | .handled _ _ _ | .tuned _ | .evict _ _ | .requestHost | .flowReply _ _ | .closedByPeer _ => true
  | .user (.endpointFrame _ _) | .notify (.error _) | .notifyAlive (.error _) => true
  | _ => false

/-- The work neither finds a fault nor leaves behind part of the handling of a frame. -/
structure Next.IsAside (n : Next) : Prop where
  fault : n.fault = none
  tasks : ∀ t ∈ n.tasks, t.isServing = false

namespace Next.IsAside

theorem only (s : Store) : (Next.only s).IsAside := ⟨rfl, by simp [Next.only]⟩

theorem follow (s : Store) {tasks : List Task} (h : ∀ t ∈ tasks, t.isServing = false) :
    (Next.follow s tasks).IsAside := ⟨rfl, h⟩

theorem start (s : Store) {cb : Callback} (hcb : (Task.user cb).isServing = false)
    {tasks : List Task} (h : ∀ t ∈ tasks, t.isServing = false) : (Next.start s cb tasks).IsAside :=
  ⟨rfl, List.forall_mem_cons.2 ⟨hcb, h⟩⟩

theorem andThen {n : Next} (h : n.IsAside) {tasks : List Task}
    (ht : ∀ t ∈ tasks, t.isServing = false) : (n.andThen tasks).IsAside :=
  ⟨h.fault, fun t hm => (List.mem_append.1 hm).elim (h.tasks t) (ht t)⟩

theorem ite {s : Store} {c : Prop} [Decidable c] {n : Next} (h : n.IsAside) :
    (if c then n else .only s).IsAside := by
  split
  · exact h
  · exact only s

end Next.IsAside

namespace Store

open Next (IsAside)

theorem send_isAside {s : Store} {f : Frame} {n : Next} (h : s.send f = .ok n) : n.IsAside := by
  obtain ⟨octets, -, -, ⟨-, rfl⟩ | ⟨-, rfl⟩⟩ := send_cases h
  · exact ⟨rfl, by simp⟩
  · exact ⟨rfl, by simp⟩

theorem offer_isAside (s : Store) (f : Frame) : (s.offer f).IsAside :=
  match s.offer f, s.offers f with
  | _, .sent h => send_isAside h
  | _, .unsent _ => .only s

theorem closeChannel_isAside (s : Store) (c : Nat) : (s.closeChannel c).2.IsAside :=
  match (s.closeChannel c).2, s.closesChannel c with
  | _, .aside _ => .only s
  | _, .unsent _ _ => .only _
  | _, .sent _ _ h => (send_isAside h).andThen (by simp)

theorem sendOn_isAside {s : Store} {c : Nat} {body : Body} {n : Next} (h : s.sendOn c body = .ok n) :
    n.IsAside := by
  obtain ⟨-, -, m, hm, rfl⟩ := sendOn_eq_ok h
  exact (send_isAside hm).andThen (by simp)

theorem DropsChannel.isAside {s : Store} {c : Nat} {n : Next} (h : s.DropsChannel c n) : n.IsAside := by
  cases h with
  | aside => exact .only s
  | unsent => exact .follow _ (by simp)
  | sent _ _ h => exact (send_isAside h).andThen (by simp)

theorem whenLost_isAside (s : Store) (e : EndpointRef) : (s.whenLost e).IsAside :=
  match e, s.whenLost e, s.loses e with
  | _, _, .aside _ => .only s
  | _, _, .last _ h => h.isAside

theorem openChannel_isAside (s : Store) : s.openChannel.2.IsAside := by
  obtain ⟨e, h, -⟩ | ⟨id, r, n, -, -, hn, h⟩ := s.openChannel_cases
  · rw [h]
    exact .only _
  · rw [h]
    exact (send_isAside hn).andThen (by simp)

theorem sendClose_isAside (s : Store) : s.sendClose.IsAside := .follow _ (by simp)

theorem close_isAside {s : Store} {n : Next} (h : s.close = .ok n) : n.IsAside := by
  cases closesConnection h with
  | begun => exact sendClose_isAside _
  | noted => exact .only _

theorem Destroys.isAside {s : Store} {n : Next} (h : s.Destroys n) : n.IsAside := by
  cases h with
  | aside => exact .only s
  | closing _ h => exact (close_isAside h).andThen (by simp)
  | closed => exact .follow s (by simp)

theorem destroy_isAside (s : Store) : s.destroy.IsAside := s.destroys.isAside

theorem releaseHandle_isAside (s : Store) : s.releaseHandle.IsAside :=
  match s.releaseHandle, s.releasesHandle with
  | _, .last _ => s.destroys.isAside.andThen (by simp)
  | _, .other _ => .only _

theorem transportClosed_isAside (s : Store) : s.transportClosed.IsAside :=
  match s.transportClosed, s.losesTransport with
  | _, .aside _ => .only s
  | _, .shut _ => .follow _ (by simp)

theorem endOfParse_isAside (processed : Nat) : ∀ t ∈ endOfParse processed, t.isServing = false := by
  simp [endOfParse]

/-- A violation is not found again when it is reported. -/
theorem fault_report (s : Store) (v : Violation) (processed : Nat) :
    (s.report v processed).fault = none :=
  match s.report v processed, s.reportsFault v processed with
  | _, .late _ => rfl
  | _, .shut _ => rfl

theorem rejectEndpoint_isAside (s : Store) (e : EndpointRef) : (s.rejectEndpoint e).IsAside := by
  cases e with
  | channel c => exact .start _ rfl (by simp)
  | custom n => exact .start s rfl (by simp)

theorem closeEndpoint_isAside (s : Store) (e : EndpointRef) : (s.closeEndpoint e).IsAside := by
  cases e with
  | channel c => exact closeChannel_isAside s c
  | custom n => exact .start s rfl (by simp)

theorem invalidateEndpoint_isAside (s : Store) (e : EndpointRef) :
    (s.invalidateEndpoint e).IsAside := by
  cases e with
  | channel c => exact .only _
  | custom n => exact .start s rfl (by simp)

end Store

/-! ## Tasks and calls -/

open Store Next

theorem Callback.isServing_of_isNotice {cb : Callback} (h : cb.isNotice = true) :
    (Task.user cb).isServing = false := by
  cases cb <;> first | rfl | cases h

/-- Only parsing and the tasks that serve a frame have to do with frames. -/
theorem Task.run_isAside {t : Task} {s : Store} {n : Next} (ht : t.isProper = true)
    (hs : t.isServing = false) (hp : ∀ buffer processed, t ≠ .parse buffer processed)
    (h : t.run s = some n) : n.IsAside := by
  cases t with
  | user cb => cases h
  | parse buffer processed => exact absurd rfl (hp buffer processed)
  | handled | tuned | evict | requestHost | closedByPeer | flowReply => cases hs
  | notify cb => cases h; exact .start s (cb.isServing_of_isNotice ht) (by simp)
  | notifyAlive cb => cases h; exact .ite (.start s (cb.isServing_of_isNotice ht) (by simp))
  | answer outcome => cases h; exact ⟨rfl, by simp⟩
  | releaseHandle => cases h; exact releaseHandle_isAside s
  | loseHandle => cases h; exact .only _
  | release e => cases h; exact whenLost_isAside _ e
  | unregister e => cases h; exact .only _
  | announce => cases h; exact .ite (.start s rfl (by simp))
  | flush =>
    cases h
    split
    · exact .ite ⟨rfl, by simp⟩
    · exact .only s
  | closeEach es =>
    cases es with
    | nil => cases h; exact .only s
    | cons e es =>
      cases h
      split
      · exact (closeEndpoint_isAside s e).andThen (by simp)
      · refine .follow s fun t ht => ?_
        obtain ⟨e', -, rfl⟩ := List.mem_map.1 ht
        rfl
  | sendClose => cases h; exact .ite ((offer_isAside s _).andThen (by simp))
  | awaitCloseOk => cases h; exact .ite (.only _)
  | clearRegistry => cases h; exact .follow _ (by simp)
  | invalidateEach es =>
    cases es with
    | nil => cases h; exact .only s
    | cons e es => cases h; exact (invalidateEndpoint_isAside s e).andThen (by simp)
  | destroyed => cases h; exact .only _
  | channelClosedByPeer c text => cases h; exact .start _ rfl (by simp)
  | handOver c => cases h; exact .only _
  | handOverConnection => cases h; exact .only _

namespace Session

theorem tryOnConnection_isAside {ε : Type} {s : Store} (outcome : Except ε Unit → Outcome)
    {n : Store → Except ε Next} (h : ∀ m, n s.holdHandle = .ok m → m.IsAside) :
    (tryOnConnection s outcome n).IsAside :=
  match tryOnConnection s outcome n, tries s outcome n with
  | _, .accepted hm => (h _ hm).andThen (by simp)
  | _, .refused _ => .follow s (by simp)

/-- A call starts parsing, but handles no frame yet. -/
theorem Call.run_isAside (c : Call) (s : Store) : (c.run s).IsAside := by
  have answered : ∀ {n : Next} (tasks : List Task), n.IsAside →
      (∀ t ∈ tasks, t.isServing = false) → (n.andThen tasks).IsAside := fun _ hn => hn.andThen
  cases c with
  | send f =>
    show (tryOnConnection s .sent (·.send f)).IsAside
    exact tryOnConnection_isAside _ fun m hm => send_isAside hm
  | close =>
    show (tryOnConnection s .closed Store.close).IsAside
    exact tryOnConnection_isAside _ fun m hm => close_isAside hm
  | destroy => exact answered _ (destroy_isAside _) (by simp)
  | transportClosed => exact answered _ (transportClosed_isAside _) (by simp)
  | openChannel => exact answered _ (openChannel_isAside _) (by simp)
  | sendOn c body =>
    refine answered _ ?_ (by simp)
    split
    · rename_i n h; exact sendOn_isAside h
    · exact .only _
  | closeChannel c => exact answered _ (closeChannel_isAside _ c) (by simp)
  | dropChannel c => exact answered _ (whenLost_isAside _ _) (by simp)
  | parse | register | unregister | cloneHandle | dropHandle | cloneChannel | newEndpoint
    | setEndpointId | dropEndpoint => exact .follow _ (by simp)

end Session

end AmqpSession
