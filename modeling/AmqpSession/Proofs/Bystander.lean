/-
Work that passes a channel by (`Next.LeavesAlone`): its state is what it was, nobody takes hold of it
who did not before, its handler is not called, and nothing is left to do for it. This is all work but
what is about that very channel.
-/
import AmqpSession.Proofs.Agreement
import AmqpSession.Proofs.Apart
import AmqpSession.Proofs.Laden

namespace AmqpSession

open Wire

/-- The task is left from something that happened to the channel. -/
def Task.isAbout (c : Nat) : Task → Bool
  | .channelClosedByPeer d _ | .flowReply d _ | .notify (.channelClosed d)
  | .notifyAlive (.channelClosed d) => d == c
  | .evict surplus _ => decide (.channel c ∈ surplus.map Prod.snd)
  | _ => false

theorem Task.isAbout_of_isCommon {t : Task} (h : t.isCommon = true) (c : Nat) : t.isAbout c = false := by
  cases t <;> first | rfl | cases h

/-- The channel is in the state it was in, and nobody holds it who did not. -/
structure Store.PassesBy (c : Nat) (s s' : Store) : Prop where
  state : (s'.channel c).state = (s.channel c).state
  holder : (s'.channel c).HasHolder → (s.channel c).HasHolder
  length : c < s'.channels.length ↔ c < s.channels.length

/-- Work that passes a channel by: its handler is not called, and nothing that is left to do is about
it. -/
structure Next.LeavesAlone (c : Nat) (s : Store) (n : Next) : Prop extends s.PassesBy c n.store where
  silent : ∀ cb, .started cb ∈ n.log → cb.endpoint? ≠ some (.channel c)
  tasks : ∀ t ∈ n.tasks, t.isAbout c = false

namespace Store.PassesBy

variable {c d : Nat} {s s' s'' : Store}

theorem of_channels (h : s'.channels = s.channels) : PassesBy c s s' where
  state := by rw [channel_congr h]
  holder hh := by rwa [channel_congr h] at hh
  length := by rw [h]

theorem refl (c : Nat) (s : Store) : PassesBy c s s := of_channels rfl

theorem holdHandle (c : Nat) (s : Store) : PassesBy c s s.holdHandle := of_channels rfl

theorem trans (h : PassesBy c s s') (h' : PassesBy c s' s'') : PassesBy c s s'' :=
  ⟨h'.state.trans h.state, fun hh => h.holder (h'.holder hh), h'.length.trans h.length⟩

theorem mapChannel_of_ne (h : d ≠ c) (s : Store) (f : Channel → Channel) :
    PassesBy c s (s.mapChannel d f) where
  state := by rw [s.channel_mapChannel_of_ne (Ne.symm h)]
  holder hh := by rwa [s.channel_mapChannel_of_ne (Ne.symm h)] at hh
  length := by rw [s.length_mapChannel d f]

/-- Whoever holds the channel from now on held it before. -/
theorem mapChannel {f : Channel → Channel} (hs : ∀ ch, (f ch).state = ch.state)
    (hh : (f (s.channel d)).HasHolder → (s.channel d).HasHolder) :
    PassesBy c s (s.mapChannel d f) := by
  have hlen : c < (s.mapChannel d f).channels.length ↔ c < s.channels.length := by
    rw [s.length_mapChannel d f]
  by_cases hd : d = c
  · subst hd
    by_cases hlt : d < s.channels.length
    · refine ⟨?_, fun h => hh ?_, hlen⟩
      · rw [s.channel_mapChannel hlt, hs]
      · rwa [s.channel_mapChannel hlt] at h
    · have hle := Nat.le_of_not_lt hlt
      have hch : (s.mapChannel d f).channel d = s.channel d := by
        rw [s.channel_of_length_le hle, channel_of_length_le _ ((s.length_mapChannel d f).symm ▸ hle)]
      exact ⟨by rw [hch], fun h => by rwa [hch] at h, hlen⟩
  · exact mapChannel_of_ne hd s f

theorem lose (s : Store) (e : EndpointRef) : PassesBy c s (s.lose e) := by
  cases e with
  | custom n => exact of_channels rfl
  | channel d =>
    refine mapChannel (fun _ => rfl) fun h => ?_
    rw [Channel.HasHolder] at h ⊢
    dsimp only at h
    omega

theorem hold {e : EndpointRef} (h : s.isLive e = true) : PassesBy c s (s.hold e) := by
  cases e with
  | custom n => exact of_channels rfl
  | channel d => exact mapChannel (fun _ => rfl) fun _ => isLive_channel_iff.1 h

theorem foldl_hold {es : List EndpointRef} (h : .channel c ∈ es → (s.channel c).HasHolder) :
    PassesBy c s (es.foldl Store.hold s) := by
  have hlen : c < (es.foldl Store.hold s).channels.length ↔ c < s.channels.length := by
    rw [length_foldl_hold es s]
  by_cases hmem : EndpointRef.channel c ∈ es
  · have hch := channel_foldl_hold es (lt_length_of_hasHolder (h hmem))
    exact ⟨by rw [hch], fun _ => h hmem, hlen⟩
  · have hch := channel_foldl_hold_of_not_mem hmem s
    exact ⟨by rw [hch], fun hh => by rwa [hch] at hh, hlen⟩

theorem holdRegistered (c : Nat) (s : Store) : PassesBy c s s.holdRegistered.1 :=
  foldl_hold fun hmem => isLive_channel_iff.1 (List.mem_filter.1 hmem).2

theorem clearRegistry (c : Nat) (s : Store) : PassesBy c s s.clearRegistry.1 :=
  (holdRegistered c s).trans (of_channels rfl)

theorem shut (c : Nat) (s : Store) : PassesBy c s s.shut.1 :=
  (of_channels rfl : PassesBy c s (s.setState .closed)).trans (clearRegistry c _)

end Store.PassesBy

namespace Next

@[simp] theorem log_only (s : Store) : (only s).log = [] := rfl

@[simp] theorem log_follow (s : Store) (tasks : List Task) : (follow s tasks).log = [] := rfl

@[simp] theorem log_refuse (s : Store) (v : Violation) : (refuse s v).log = [] := rfl

@[simp] theorem log_andThen (n : Next) (tasks : List Task) : (n.andThen tasks).log = n.log := rfl

end Next

namespace Next.LeavesAlone

open Store (PassesBy)

variable {c : Nat} {s s' : Store} {n : Next}

theorem only (h : PassesBy c s s') : LeavesAlone c s (.only s') :=
  ⟨h, fun _ h => (nomatch h), List.forall_mem_nil _⟩

theorem follow (h : PassesBy c s s') {tasks : List Task} (ht : ∀ t ∈ tasks, t.isAbout c = false) :
    LeavesAlone c s (.follow s' tasks) := ⟨h, fun _ h => (nomatch h), ht⟩

theorem start (h : PassesBy c s s') {cb : Callback} (hcb : cb.endpoint? ≠ some (.channel c))
    {tasks : List Task} (ht : ∀ t ∈ tasks, t.isAbout c = false) :
    LeavesAlone c s (.start s' cb tasks) := by
  refine ⟨h, fun cb' hcb' => ?_, List.forall_mem_cons.2 ⟨rfl, ht⟩⟩
  rwa [Event.started.inj (List.mem_singleton.1 hcb')]

theorem refuse (s : Store) (v : Violation) : LeavesAlone c s (.refuse s v) :=
  ⟨.refl c s, fun _ h => (nomatch h), List.forall_mem_nil _⟩

theorem andThen (h : LeavesAlone c s n) {tasks : List Task} (ht : ∀ t ∈ tasks, t.isAbout c = false) :
    LeavesAlone c s (n.andThen tasks) :=
  ⟨h.toPassesBy, h.silent, fun t hm => (List.mem_append.1 hm).elim (h.tasks t) (ht t)⟩

theorem after (hs : PassesBy c s s') (h : LeavesAlone c s' n) : LeavesAlone c s n :=
  ⟨hs.trans h.toPassesBy, h.silent, h.tasks⟩

theorem ite {p : Prop} [Decidable p] (h : p → LeavesAlone c s n) :
    LeavesAlone c s (if p then n else .only s) := by
  split
  · rename_i hp; exact h hp
  · exact only (.refl c s)

end Next.LeavesAlone

namespace Store

open Next (LeavesAlone)

variable (c : Nat)

/-! ## Sending -/

theorem send_leavesAlone {s : Store} {f : Frame} {n : Next} (h : s.send f = .ok n) :
    LeavesAlone c s n := by
  refine ⟨.of_channels (send_channels h).1, fun cb hcb => ?_, fun t ht =>
    Task.isAbout_of_isCommon (send_common h t ht) c⟩
  obtain ⟨octets, -, -, ⟨-, rfl⟩ | ⟨-, rfl⟩⟩ := send_cases h
  · simp only [List.mem_cons, List.not_mem_nil, or_false, reduceCtorEq, false_or] at hcb
    rw [Event.started.inj hcb]
    nofun
  · cases List.mem_singleton.1 hcb

theorem offer_leavesAlone (s : Store) (f : Frame) : LeavesAlone c s (s.offer f) :=
  match s.offer f, s.offers f with
  | _, .sent h => send_leavesAlone c h
  | _, .unsent _ => .only (.refl c s)

theorem reply_leavesAlone (s : Store) (f : Frame) {tasks : List Task}
    (ht : ∀ t ∈ tasks, t.isAbout c = false) : LeavesAlone c s (s.reply f tasks) :=
  match s.reply f tasks, s.replies f tasks with
  | _, .sent h => (send_leavesAlone c h).andThen ht
  | _, .unsent _ => .refuse s _

/-! ## Channels -/

/-- What user code sends on a channel changes nothing about it. -/
theorem sendOn_leavesAlone {s : Store} {d : Nat} {body : Body} {n : Next} (h : s.sendOn d body = .ok n) :
    LeavesAlone c s n := by
  obtain ⟨-, -, m, hm, rfl⟩ := sendOn_eq_ok h
  exact (LeavesAlone.after (.holdHandle c s) (send_leavesAlone c hm)).andThen (by simp [Task.isAbout])

/-- A channel that is let go of stays in its state until the connection is closed. -/
theorem DropsChannel.leavesAlone {s : Store} {d : Nat} {n : Next} (h : s.DropsChannel d n) :
    LeavesAlone c s n := by
  cases h with
  | aside => exact .only (.refl c s)
  | unsent => exact .follow (.holdHandle c s) (by simp [Task.isAbout])
  | sent _ _ h =>
    exact (LeavesAlone.after (.holdHandle c s) (send_leavesAlone c h)).andThen (by simp [Task.isAbout])

theorem whenLost_leavesAlone (s : Store) (e : EndpointRef) : LeavesAlone c s (s.whenLost e) :=
  match e, s.whenLost e, s.loses e with
  | _, _, .aside _ => .only (.refl c s)
  | _, _, .last _ h => h.leavesAlone c

theorem release_leavesAlone (s : Store) (e : EndpointRef) : LeavesAlone c s ((s.lose e).whenLost e) :=
  .after (.lose s e) (whenLost_leavesAlone c _ e)

theorem closeChannel_leavesAlone (s : Store) {d : Nat} (h : d ≠ c) :
    LeavesAlone c s (s.closeChannel d).2 := by
  have closing : PassesBy c s (s.setChannelState d .closing) := .mapChannel_of_ne h s _
  match (s.closeChannel d).2, s.closesChannel d with
  | _, .aside _ => exact .only (.refl c s)
  | _, .unsent _ _ => exact .only closing
  | _, .sent _ _ hn =>
    exact (LeavesAlone.after (closing.trans (.holdHandle c _)) (send_leavesAlone c hn)).andThen
      (by simp [Task.isAbout])

/-! ## The connection -/

theorem sendClose_leavesAlone (s : Store) : LeavesAlone c s s.sendClose :=
  .follow (.holdRegistered c s) (by simp [Task.isAbout])

theorem close_leavesAlone {s : Store} {n : Next} (h : s.close = .ok n) : LeavesAlone c s n := by
  have hpass : PassesBy c s (s.mapConnection ({ · with closeRequested := true })) := .of_channels rfl
  cases closesConnection h with
  | begun => exact .after hpass (sendClose_leavesAlone c _)
  | noted => exact .only hpass

theorem Destroys.leavesAlone {s : Store} {n : Next} (h : s.Destroys n) : LeavesAlone c s n := by
  cases h with
  | aside => exact .only (.refl c s)
  | closing _ h => exact (close_leavesAlone c h).andThen (by simp [Task.isAbout])
  | closed => exact .follow (.refl c s) (by simp [Task.isAbout])

theorem releaseHandle_leavesAlone (s : Store) : LeavesAlone c s s.releaseHandle :=
  match s.releaseHandle, s.releasesHandle with
  | _, .last _ => (s.destroys.leavesAlone c).andThen (by simp [Task.isAbout])
  | _, .other _ => .only (.of_channels rfl)

theorem transportClosed_leavesAlone (s : Store) : LeavesAlone c s s.transportClosed :=
  match s.transportClosed, s.losesTransport with
  | _, .aside _ => .only (.refl c s)
  | _, .shut _ => .follow (.shut c s) (by simp [Task.isAbout])

theorem register_passesBy (s : Store) (e : EndpointRef) : PassesBy c s (s.register e).2 := by
  unfold register
  split
  · exact .refl c s
  · split
    · exact .refl c s
    · exact .of_channels rfl

theorem endOfParse_isAbout (processed : Nat) : ∀ t ∈ endOfParse processed, t.isAbout c = false := by
  simp [endOfParse, Task.isAbout]

theorem report_leavesAlone (s : Store) (v : Violation) (processed : Nat) :
    LeavesAlone c s (s.report v processed) :=
  match s.report v processed, s.reportsFault v processed with
  | _, .late _ => .follow (.refl c s) (endOfParse_isAbout c processed)
  | _, .shut _ => .follow (.shut c s) (by simp [endOfParse, Task.isAbout])

/-! ## Received frames -/

theorem OnConnection.leavesAlone {s : Store} {body : Body} {n : Next} (h : s.OnConnection body n) :
    LeavesAlone c s n := by
  have state (state : ConnectionState) : PassesBy c s (s.setState state) := .of_channels rfl
  cases h with
  | heartbeat => exact .only (.refl c s)
  | fault => exact .refuse s _
  | offered => exact .after (state _) (reply_leavesAlone c _ _ (by simp))
  | tuned | closed =>
    exact .start (.refl c s) (by simp [Callback.endpoint?]) (by simp [Task.isAbout])
  | opened => exact .follow (state _) (by simp [Task.isAbout])
  | openedToClose =>
    exact .after (state _) ((sendClose_leavesAlone c _).andThen (by simp [Task.isAbout]))
  | confirmed => exact .follow (.shut c s) (by simp [Task.isAbout])
  | blocked | unblocked => exact .start (.refl c s) (by simp [Callback.endpoint?]) (by simp)

variable {c}

/-- A frame for one channel leaves every other one alone. -/
theorem OnChannel.leavesAlone {s : Store} {d : Nat} {body : Body} {n : Next}
    (h : s.OnChannel d body n) (hd : d ≠ c) : LeavesAlone c s n := by
  have hne : ∀ {cb : Callback}, cb.endpoint? = some (.channel d) →
      cb.endpoint? ≠ some (.channel c) := by
    intro cb hcb hcb'
    rw [hcb] at hcb'
    exact hd (EndpointRef.channel.inj (Option.some.inj hcb'))
  cases h with
  | closes reason => exact reply_leavesAlone c s _ (by simp [Task.isAbout, hd])
  | opened => exact .start (.mapChannel_of_ne hd s _) (hne rfl) (by simp)
  | confirmed =>
    have hretire : PassesBy c s (s.retire d) :=
      (PassesBy.mapChannel_of_ne hd s _).trans (.of_channels rfl)
    exact .start hretire (hne rfl) (by simp)
  | flow active => exact .start (.refl c s) (hne rfl) (by simp [Task.isAbout, hd])
  | content => exact .start (.refl c s) (hne rfl) (by simp)
  | passedOver => exact .only (.refl c s)
  | fault => exact .refuse s _

end Store

/-! ## Tasks and calls -/

open Store Next

/-- The task may do something to the channel. -/
def Task.concerns (c : Nat) : Task → Bool
  | .parse _ _ | .tuned _ | .evict _ _ => true
  | .notify (.channelClosed d) | .notifyAlive (.channelClosed d) | .channelClosedByPeer d _
  | .flowReply d _ | .handOver d | .release (.channel d) | .closeEach (.channel d :: _)
  | .invalidateEach (.channel d :: _) => d == c
  | _ => false

/-- A notice that is not for the channel. -/
theorem Callback.endpoint?_of_isNotice {cb : Callback} {c : Nat} (h : cb.isNotice = true)
    (hc : (Task.notify cb).concerns c = false) : cb.endpoint? ≠ some (.channel c) := by
  cases cb with
  | closed | error => exact nofun
  | channelClosed d =>
    exact fun he => beq_eq_false_iff_ne.1 hc (EndpointRef.channel.inj (Option.some.inj he))
  | _ => cases h

theorem Task.run_leavesAlone {c : Nat} {t : Task} {s : Store} {n : Next} (ht : t.isProper = true)
    (hc : t.concerns c = false) (h : t.run s = some n) : LeavesAlone c s n := by
  cases t with
  | user cb => cases h
  | parse | tuned | evict => cases hc
  | notify cb => cases h; exact .start (.refl c s) (Callback.endpoint?_of_isNotice ht hc) (by simp)
  | notifyAlive cb =>
    cases h
    have hcb : cb.endpoint? ≠ some (.channel c) := Callback.endpoint?_of_isNotice ht <| by
      cases cb <;> exact hc
    exact .ite fun _ => .start (.refl c s) hcb (by simp)
  | answer outcome =>
    cases h
    exact { PassesBy.refl c s with
      silent := fun _ h => nomatch List.mem_singleton.1 h
      tasks := fun _ h => nomatch h }
  | releaseHandle => cases h; exact releaseHandle_leavesAlone c s
  | loseHandle => cases h; exact .only (.of_channels rfl)
  | release e => cases h; exact release_leavesAlone c s e
  | unregister e => cases h; exact .only (.of_channels rfl)
  | handled e p fault =>
    cases e with
    | some e => cases h; exact .follow (.refl c s) (by simp [Task.isAbout])
    | none =>
      cases fault with
      | none => cases h; exact .follow (.refl c s) (by simp [Task.isAbout])
      | some v => cases h; exact report_leavesAlone c s v _
  | requestHost => cases h; exact .ite fun _ => reply_leavesAlone c s _ (by simp)
  | announce =>
    cases h
    exact .ite fun _ => .start (.refl c s) (by simp [Callback.endpoint?]) (by simp [Task.isAbout])
  | flush =>
    cases h
    split
    · refine .ite fun _ => ⟨.of_channels rfl, fun cb hcb => ?_, by simp [Task.isAbout]⟩
      simp only [List.mem_cons, List.not_mem_nil, or_false, reduceCtorEq, false_or] at hcb
      rw [Event.started.inj hcb]
      nofun
    · exact .only (.refl c s)
  | closeEach es =>
    cases es with
    | nil => cases h; exact .only (.refl c s)
    | cons e es =>
      cases h
      split
      · refine LeavesAlone.andThen ?_ (by simp [Task.isAbout])
        cases e with
        | channel d => exact closeChannel_leavesAlone c s (beq_eq_false_iff_ne.1 hc)
        | custom k => exact .start (.refl c s) (by simp [Callback.endpoint?]) (by simp)
      · exact .follow (.refl c s) (by simp [Task.isAbout])
  | sendClose =>
    cases h
    exact .ite fun _ => (offer_leavesAlone c s _).andThen (by simp [Task.isAbout])
  | awaitCloseOk => cases h; exact .ite fun _ => .only (.of_channels rfl)
  | clearRegistry => cases h; exact .follow (.clearRegistry c s) (by simp [Task.isAbout])
  | invalidateEach es =>
    cases es with
    | nil => cases h; exact .only (.refl c s)
    | cons e es =>
      cases h
      refine LeavesAlone.andThen ?_ (by simp [Task.isAbout])
      cases e with
      | channel d => exact .only (.mapChannel_of_ne (beq_eq_false_iff_ne.1 hc) s _)
      | custom k => exact .start (.refl c s) (by simp [Callback.endpoint?]) (by simp)
  | destroyed => cases h; exact .only (.of_channels rfl)
  | closedByPeer reason =>
    cases h
    refine .ite fun _ => .follow (.shut c s) ?_
    unfold afterPeersClose
    split <;> simp [Task.isAbout]
  | channelClosedByPeer d text =>
    cases h
    have hd : d ≠ c := beq_eq_false_iff_ne.1 hc
    have hretire : s.PassesBy c (s.retire d) :=
      (PassesBy.mapChannel_of_ne hd s _).trans (.of_channels rfl)
    refine .start hretire (fun he => ?_) ?_
    · exact hd (EndpointRef.channel.inj (Option.some.inj he))
    · simp [Task.isAbout, hd]
  | flowReply d active => cases h; exact .ite fun _ => reply_leavesAlone c s _ (by simp)
  | handOver d => cases h; exact .only (.mapChannel_of_ne (beq_eq_false_iff_ne.1 hc) s _)
  | handOverConnection => cases h; exact .only (.of_channels rfl)

namespace Session

/-- The call may do something to the channel. -/
def Call.concerns (c : Nat) : Call → Bool
  | .openChannel => true
  | .sendOn d _ | .closeChannel d | .cloneChannel d | .dropChannel d => d == c
  | _ => false

theorem Call.run_leavesAlone {c : Nat} {call : Call} {s : Store} (hl : call.isLegal s = true)
    (hc : call.concerns c = false) : LeavesAlone c s (call.run s) := by
  -- a call on the connection holds a handle of it meanwhile
  have tried : ∀ {ε : Type} {outcome : Except ε Unit → Outcome} {n : Store → Except ε Next},
      (∀ m, n s.holdHandle = .ok m → LeavesAlone c s.holdHandle m) →
      LeavesAlone c s (tryOnConnection s outcome n) := by
    intro ε outcome n h
    match tryOnConnection s outcome n, tries s outcome n with
    | _, .accepted hm =>
      exact (LeavesAlone.after (.holdHandle c s) (h _ hm)).andThen (by simp [Task.isAbout])
    | _, .refused _ => exact .follow (.refl c s) (by simp [Task.isAbout])
  have done : ∀ {n : Next}, LeavesAlone c s.holdHandle n →
      LeavesAlone c s (n.andThen [.releaseHandle, .answer .done]) := fun h =>
    (LeavesAlone.after (.holdHandle c s) h).andThen (by simp [Task.isAbout])
  cases call with
  | parse buffer => exact .follow (.holdHandle c s) (by simp [Task.isAbout])
  | send f => exact tried (n := (·.send f)) fun m hm => send_leavesAlone c hm
  | close => exact tried fun m hm => close_leavesAlone c hm
  | destroy => exact done ((destroys _).leavesAlone c)
  | transportClosed => exact done (transportClosed_leavesAlone c _)
  | register k => exact .follow (register_passesBy c s _) (by simp [Task.isAbout])
  | openChannel => cases hc
  | sendOn d body =>
    refine LeavesAlone.andThen (.after (.hold hl) ?_) (by simp [Task.isAbout])
    split
    · rename_i n h; exact sendOn_leavesAlone c h
    · exact .only (.refl c _)
  | closeChannel d =>
    exact (LeavesAlone.after (.hold hl) (closeChannel_leavesAlone c _ (beq_eq_false_iff_ne.1 hc))).andThen
      (by simp [Task.isAbout])
  | cloneChannel d =>
    exact .follow (.mapChannel_of_ne (beq_eq_false_iff_ne.1 hc) s _) (by simp [Task.isAbout])
  | dropChannel d =>
    refine (LeavesAlone.after ?_ (whenLost_leavesAlone c _ _)).andThen (by simp [Task.isAbout])
    exact .mapChannel_of_ne (beq_eq_false_iff_ne.1 hc) s _
  | unregister | cloneHandle | dropHandle | newEndpoint | setEndpointId | dropEndpoint =>
    refine .follow (.of_channels ?_) ?_
    · rfl
    · simp [Task.isAbout]

end Session

end AmqpSession
