/-
Work that is no part of agreeing on limits (`Next.IsTacit`): this side sends no tune-ok in it, and it
leaves nothing behind that does. All work is tacit but the handling of a tune that is accepted.
-/
import AmqpSession.Proofs.Ordinary

namespace AmqpSession

open Wire

/-- Part of agreeing on limits: user code is asked for an interval, the limits are set, and channels
over them are turned away. -/
def Task.isTalk : Task → Bool
  | .user (.negotiate _) | .tuned _ | .evict _ _ => true
  | _ => false

/-- The frame announces limits. -/
def Wire.Frame.isTuneOk (f : Frame) : Bool :=
  match f.body with
  | .method (.connection (.tuneOk _)) => true
  | _ => false

/-- A tune-ok is never held back. -/
theorem Wire.Frame.isTuneOk_of_isPartOfHandshake {f : Frame} (h : f.isPartOfHandshake = false) :
    f.isTuneOk = false := by
  obtain ⟨channel, body⟩ := f
  cases body with
  | method m =>
    cases m with
    | connection m => cases m <;> first | rfl | cases h
    | _ => rfl
  | _ => rfl

/-- Nothing is said about limits, now or later. What user code sends is not this side's `own`. -/
structure Next.IsTacit (own : Bool) (n : Next) : Prop where
  silent : own = true → ∀ f, .handed f ∈ n.log → f.isTuneOk = false
  calm : ∀ t ∈ n.tasks, t.isTalk = false

namespace Next.IsTacit

variable {own : Bool} {s : Store} {n : Next} {tasks : List Task}

theorem only (s : Store) : IsTacit own (.only s) := ⟨by simp [Next.only], by simp [Next.only]⟩

theorem follow (s : Store) (ht : ∀ t ∈ tasks, t.isTalk = false) : IsTacit own (.follow s tasks) :=
  ⟨by simp [Next.follow], ht⟩

theorem start (s : Store) {cb : Callback} (hcb : (Task.user cb).isTalk = false)
    (ht : ∀ t ∈ tasks, t.isTalk = false) : IsTacit own (.start s cb tasks) :=
  ⟨by simp [Next.start], List.forall_mem_cons.2 ⟨hcb, ht⟩⟩

theorem refuse (s : Store) (v : Violation) : IsTacit own (.refuse s v) :=
  ⟨by simp [Next.refuse], by simp [Next.refuse]⟩

theorem andThen (h : IsTacit own n) (ht : ∀ t ∈ tasks, t.isTalk = false) :
    IsTacit own (n.andThen tasks) :=
  ⟨h.silent, fun t hm => (List.mem_append.1 hm).elim (h.calm t) (ht t)⟩

theorem ite {c : Prop} [Decidable c] (h : IsTacit own n) : IsTacit own (if c then n else .only s) := by
  split
  · exact h
  · exact only s

theorem within (h : IsTacit own n) (f : Frame) (e : Option EndpointRef) (p : Parsing) :
    IsTacit own (n.within f e p) where
  silent ho g hg := h.silent ho g ((List.mem_cons.1 hg).resolve_left nofun)
  calm := (h.andThen (by simp [Task.isTalk]) : IsTacit own (n.andThen [.handled e p n.fault])).calm

end Next.IsTacit

namespace Store

open Next (IsTacit)

variable {own : Bool} {s : Store}

/-! ## Sending -/

/-- A frame that is no tune-ok, if it is this side's own. -/
def Untold (own : Bool) (f : Frame) : Prop := own = true → f.isTuneOk = false

theorem untold_ofChannel (id : UInt16) (m : ChannelMethod) : Untold own (.ofChannel id m) := fun _ => rfl

theorem send_isTacit {f : Frame} {n : Next} (hf : Untold own f) (h : s.send f = .ok n) :
    IsTacit own n := by
  obtain ⟨octets, -, -, ⟨-, rfl⟩ | ⟨-, rfl⟩⟩ := send_cases h
  · exact ⟨fun ho => by simpa using hf ho, by simp [Task.isTalk]⟩
  · exact ⟨by simp, by simp⟩

theorem offer_isTacit (s : Store) {f : Frame} (hf : Untold own f) : IsTacit own (s.offer f) :=
  match s.offer f, s.offers f with
  | _, .sent h => send_isTacit hf h
  | _, .unsent _ => .only s

theorem reply_isTacit (s : Store) {f : Frame} (hf : Untold own f) {tasks : List Task}
    (ht : ∀ t ∈ tasks, t.isTalk = false) : IsTacit own (s.reply f tasks) :=
  match s.reply f tasks, s.replies f tasks with
  | _, .sent h => (send_isTacit hf h).andThen ht
  | _, .unsent _ => .refuse s _

/-! ## Channels -/

theorem closeChannel_isTacit (s : Store) (c : Nat) : IsTacit own (s.closeChannel c).2 :=
  match (s.closeChannel c).2, s.closesChannel c with
  | _, .aside _ => .only s
  | _, .unsent _ _ => .only _
  | _, .sent _ _ h => (send_isTacit (untold_ofChannel _ _) h).andThen (by simp [Task.isTalk])

theorem sendOn_isTacit {c : Nat} {body : Body} {n : Next} (h : s.sendOn c body = .ok n) :
    IsTacit false n := by
  obtain ⟨-, -, m, hm, rfl⟩ := sendOn_eq_ok h
  exact (send_isTacit (by simp [Untold]) hm).andThen (by simp [Task.isTalk])

theorem DropsChannel.isTacit {c : Nat} {n : Next} (h : s.DropsChannel c n) : IsTacit own n := by
  cases h with
  | aside => exact .only s
  | unsent => exact .follow _ (by simp [Task.isTalk])
  | sent _ _ h => exact (send_isTacit (untold_ofChannel _ _) h).andThen (by simp [Task.isTalk])

theorem whenLost_isTacit (s : Store) (e : EndpointRef) : IsTacit own (s.whenLost e) :=
  match e, s.whenLost e, s.loses e with
  | _, _, .aside _ => .only s
  | _, _, .last _ h => h.isTacit

theorem openChannel_isTacit (s : Store) : IsTacit own s.openChannel.2 := by
  obtain ⟨e, h, -⟩ | ⟨id, r, n, -, -, hn, h⟩ := s.openChannel_cases
  · rw [h]
    exact .only _
  · rw [h]
    exact (send_isTacit (untold_ofChannel _ _) hn).andThen (by simp [Task.isTalk])

/-! ## The connection -/

theorem close_isTacit {n : Next} (h : s.close = .ok n) : IsTacit own n := by
  cases closesConnection h with
  | begun => exact .follow _ (by simp [Task.isTalk])
  | noted => exact .only _

theorem Destroys.isTacit {n : Next} (h : s.Destroys n) : IsTacit own n := by
  cases h with
  | aside => exact .only s
  | closing _ h => exact (close_isTacit h).andThen (by simp [Task.isTalk])
  | closed => exact .follow s (by simp [Task.isTalk])

theorem releaseHandle_isTacit (s : Store) : IsTacit own s.releaseHandle :=
  match s.releaseHandle, s.releasesHandle with
  | _, .last _ => s.destroys.isTacit.andThen (by simp [Task.isTalk])
  | _, .other _ => .only _

theorem transportClosed_isTacit (s : Store) : IsTacit own s.transportClosed :=
  match s.transportClosed, s.losesTransport with
  | _, .aside _ => .only s
  | _, .shut _ => .follow _ (by simp [Task.isTalk])

theorem report_isTacit (s : Store) (v : Violation) (processed : Nat) :
    IsTacit own (s.report v processed) :=
  match s.report v processed, s.reportsFault v processed with
  | _, .late _ => .follow _ (by simp [endOfParse, Task.isTalk])
  | _, .shut _ => .follow _ (by simp [endOfParse, Task.isTalk])

/-! ## Received frames -/

theorem OnConnection.isTacit {body : Body} {n : Next} (h : s.OnConnection body n)
    (hb : ∀ theirs, body = .method (.connection (.tune theirs)) →
      s.connection.state ≠ .negotiatingTuning) : IsTacit own n := by
  cases h with
  | heartbeat => exact .only s
  | fault => exact .refuse s _
  | offered => exact reply_isTacit _ (fun _ => rfl) (by simp)
  | tuned theirs hs => exact absurd hs (hb theirs rfl)
  | opened | confirmed => exact .follow _ (by simp [Task.isTalk])
  | openedToClose => exact IsTacit.andThen (.follow _ (by simp [Task.isTalk])) (by simp [Task.isTalk])
  | closed reason => exact .start s rfl (by simp [Task.isTalk])
  | blocked | unblocked => exact .start s rfl (by simp)

theorem OnChannel.isTacit {c : Nat} {body : Body} {n : Next} (h : s.OnChannel c body n) :
    IsTacit own n := by
  cases h with
  | closes reason => exact reply_isTacit s (untold_ofChannel _ _) (by simp [Task.isTalk])
  | opened | confirmed | flow | content => exact .start _ rfl (by simp [Task.isTalk])
  | passedOver => exact .only s
  | fault => exact .refuse s _

theorem receive_isTacit (s : Store) {f : Frame} (p : Parsing)
    (hf : ∀ theirs, f = .ofConnection (.tune theirs) → s.connection.state ≠ .negotiatingTuning) :
    IsTacit own (s.receive f p) := by
  obtain ⟨e, n, hn, hr⟩ := s.receive_takesIn f p
  rw [hr]
  refine IsTacit.within ?_ f e p
  cases hn with
  | connection hz h => exact h.isTacit fun theirs hb => hf theirs (by rw [Frame.ofConnection, ← hz, ← hb])
  | ignored => exact .only s
  | channel _ _ _ h => exact h.isTacit
  | custom => exact .start _ rfl (by simp)

/-! ## The end of endpoints -/

theorem closeEndpoint_isTacit (s : Store) (e : EndpointRef) : IsTacit own (s.closeEndpoint e) := by
  cases e with
  | channel c => exact closeChannel_isTacit s c
  | custom n => exact .start s rfl (by simp)

theorem invalidateEndpoint_isTacit (s : Store) (e : EndpointRef) :
    IsTacit own (s.invalidateEndpoint e) := by
  cases e with
  | channel c => exact .only _
  | custom n => exact .start s rfl (by simp)

end Store

/-! ## Tasks and calls -/

open Store Next

theorem Callback.isTalk_of_isNotice {cb : Callback} (h : cb.isNotice = true) :
    (Task.user cb).isTalk = false := by
  cases cb <;> first | rfl | cases h

/-- Work that neither handles frames nor speaks of limits itself. Nothing that may go out early is held
back. -/
theorem Task.run_isTacit {t : Task} {s : Store} {n : Next} (hp : t.isProper = true)
    (hq : ∀ f ∈ s.connection.queue, f.isPartOfHandshake = false) (ht : t.isTalk = false)
    (hparse : ∀ buffer processed, t ≠ .parse buffer processed) (h : t.run s = some n) :
    IsTacit own n := by
  cases t with
  | user cb => cases h
  | tuned | evict => cases ht
  | parse buffer processed => exact absurd rfl (hparse buffer processed)
  | notify cb => cases h; exact .start s (Callback.isTalk_of_isNotice hp) (by simp)
  | notifyAlive cb => cases h; exact .ite (.start s (Callback.isTalk_of_isNotice hp) (by simp))
  | answer outcome => cases h; exact ⟨by simp, by simp⟩
  | releaseHandle => cases h; exact releaseHandle_isTacit s
  | loseHandle => cases h; exact .only _
  | release e => cases h; exact whenLost_isTacit _ e
  | unregister e => cases h; exact .only _
  | handled e p fault =>
    cases e with
    | some e => cases h; exact .follow s (by simp [Task.isTalk])
    | none =>
      cases fault with
      | none => cases h; exact .follow s (by simp [Task.isTalk])
      | some v => cases h; exact report_isTacit s v _
  | requestHost => cases h; exact .ite (reply_isTacit s (fun _ => rfl) (by simp))
  | announce => cases h; exact .ite (.start s rfl (by simp [Task.isTalk]))
  | flush =>
    cases h
    split
    · rename_i f rest hf
      have hheld : f.isPartOfHandshake = false := hq f (by rw [hf]; exact List.mem_cons_self)
      refine .ite ⟨fun _ => ?_, by simp [Task.isTalk]⟩
      simpa using Frame.isTuneOk_of_isPartOfHandshake hheld
    · exact .only s
  | closeEach es =>
    cases es with
    | nil => cases h; exact .only s
    | cons e es =>
      cases h
      split
      · exact (closeEndpoint_isTacit s e).andThen (by simp [Task.isTalk])
      · exact .follow s (by simp [Task.isTalk])
  | sendClose => cases h; exact .ite ((offer_isTacit s fun _ => rfl).andThen (by simp [Task.isTalk]))
  | awaitCloseOk => cases h; exact .ite (.only _)
  | clearRegistry => cases h; exact .follow _ (by simp [Task.isTalk])
  | invalidateEach es =>
    cases es with
    | nil => cases h; exact .only s
    | cons e es => cases h; exact (invalidateEndpoint_isTacit s e).andThen (by simp [Task.isTalk])
  | destroyed => cases h; exact .only _
  | closedByPeer reason =>
    cases h
    refine .ite (.follow _ ?_)
    unfold afterPeersClose
    split <;> simp [Task.isTalk]
  | channelClosedByPeer c text => cases h; exact .start _ rfl (by simp [Task.isTalk])
  | flowReply c active => cases h; exact .ite (reply_isTacit s (untold_ofChannel _ _) (by simp))
  | handOver c => cases h; exact .only _
  | handOverConnection => cases h; exact .only _

namespace Session

theorem Call.run_isTacit (c : Call) (s : Store) : IsTacit false (c.run s) := by
  have tried : ∀ {ε : Type} (outcome : Except ε Unit → Outcome) {n : Store → Except ε Next},
      (∀ m, n s.holdHandle = .ok m → IsTacit false m) → IsTacit false (tryOnConnection s outcome n) := by
    intro ε outcome n hn
    match tryOnConnection s outcome n, tries s outcome n with
    | _, .accepted hm => exact (hn _ hm).andThen (by simp [Task.isTalk])
    | _, .refused _ => exact .follow s (by simp [Task.isTalk])
  cases c with
  | send f => exact tried .sent (n := (·.send f)) fun m hm => send_isTacit (by simp [Untold]) hm
  | close => exact tried _ fun m hm => close_isTacit hm
  | destroy => exact (destroys _).isTacit.andThen (by simp [Task.isTalk])
  | transportClosed => exact (transportClosed_isTacit _).andThen (by simp [Task.isTalk])
  | openChannel => exact (openChannel_isTacit _).andThen (by simp [Task.isTalk])
  | sendOn c body =>
    refine IsTacit.andThen ?_ (by simp [Task.isTalk])
    split
    · rename_i n h; exact sendOn_isTacit h
    · exact .only _
  | closeChannel c => exact (closeChannel_isTacit _ c).andThen (by simp [Task.isTalk])
  | dropChannel c => exact (whenLost_isTacit _ _).andThen (by simp [Task.isTalk])
  | parse | register | unregister | cloneHandle | dropHandle | cloneChannel | newEndpoint
    | setEndpointId | dropEndpoint => exact .follow _ (by simp [Task.isTalk])

end Session

end AmqpSession
