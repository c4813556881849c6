/-
Operations keep channels in step. Whatever an operation does to a channel, to its ids and to its
holders, the tasks that it leaves do the rest (`Next.Carries`), so that the channel agrees with the
registry and with what is left to do.
-/
import AmqpSession.Proofs.Stakes

namespace AmqpSession

open Wire

/-- The part in a channel that work leaves to its tasks, and what it notes of the channel. -/
def Next.stake (c : Nat) (n : Next) : Stake := stakes c n.tasks + records c n.log

/-- Work in place of a part `w` keeps the channel in step, whatever else there is. -/
def Next.Carries (c : Nat) (s : Store) (w : Stake) (n : Next) : Prop :=
  ∀ r, s.Tracks c (r + w) → n.store.Tracks c (r + n.stake c)

namespace Next.Carries

variable {c : Nat} {s s' : Store} {w : Stake} {n : Next}

/-- Work that has nothing to do with the channel. -/
theorem of_spares (h : Store.Spares c s n.store) (ht : n.stake c = w) : Carries c s w n := by
  intro r hr
  rw [ht]
  exact hr.spared h

theorem only (s : Store) : Carries c s 0 (.only s) := fun _ hr => hr

theorem from_spares (h : Carries c s' w n) (hs : Store.Spares c s s') : Carries c s w n :=
  fun r hr => h r (hr.spared hs)

theorem andThen (h : Carries c s w n) (tasks : List Task) :
    Carries c s (stakes c tasks + w) (n.andThen tasks) := by
  intro r hr
  rw [← add_assoc] at hr
  have hstake : (n.andThen tasks).stake c = stakes c tasks + n.stake c := by
    show stakes c (n.tasks ++ tasks) + records c n.log = _
    rw [stakes_append, Next.stake, add_right_comm, add_comm]
  rw [hstake, ← add_assoc]
  exact h _ hr

/-- Tasks that have nothing to do with the channel. -/
theorem andThen_zero (h : Carries c s w n) {tasks : List Task} (ht : stakes c tasks = 0) :
    Carries c s w (n.andThen tasks) := by
  have := h.andThen tasks
  rwa [ht, zero_add] at this

/-- Notes that have nothing to do with the channel. -/
theorem noted (h : Carries c s w n) (es : List Event) (he : records c es = 0) :
    Carries c s w (n.noting es) := by
  intro r hr
  have hstake : (n.noting es).stake c = n.stake c := by
    show stakes c n.tasks + records c (es ++ n.log) = _
    rw [records_append, he, zero_add]
    rfl
  rw [hstake]
  exact h r hr

theorem ite {p : Prop} [Decidable p] (h : p → Carries c s 0 n) :
    Carries c s 0 (if p then n else .only s) := by
  split
  · rename_i hp; exact h hp
  · exact .only s

end Next.Carries

namespace Store

open Next (Carries)

variable (c : Nat)

/-! ## Sending -/

theorem spares_holdHandle (s : Store) : Spares c s s.holdHandle := .of_eq rfl rfl rfl

theorem send_carries {s : Store} {f : Frame} {n : Next} (h : s.send f = .ok n) : Carries c s 0 n := by
  obtain ⟨octets, -, -, ⟨-, rfl⟩ | ⟨-, rfl⟩⟩ := send_cases h
  · exact .of_spares (.of_eq rfl rfl rfl) rfl
  · exact .of_spares (.of_eq rfl rfl rfl) rfl

theorem offer_carries (s : Store) (f : Frame) : Carries c s 0 (s.offer f) :=
  match s.offer f, s.offers f with
  | _, .sent h => send_carries c h
  | _, .unsent _ => .only s

theorem reply_carries (s : Store) (f : Frame) {tasks : List Task} (ht : stakes c tasks = 0) :
    Carries c s 0 (s.reply f tasks) :=
  match s.reply f tasks, s.replies f tasks with
  | _, .sent h => (send_carries c h).andThen_zero ht
  | _, .unsent _ => .only s

/-! ## One channel -/

/-- Work that takes hold of an endpoint that somebody holds. -/
theorem Tracks.hold {c : Nat} {s : Store} {w : Stake} (h : s.Tracks c w) {e : EndpointRef}
    (he : s.isLive e = true) : (s.hold e).Tracks c (w + e.stake c { held := 1 }) := by
  have hone : ({ held := [e].count (.channel c) } : Stake) = e.stake c { held := 1 } := held_cons c e []
  rw [← hone]
  refine (h.foldl_hold fun hmem => ?_ : ([e].foldl Store.hold s).Tracks c _)
  cases List.mem_singleton.1 hmem
  exact isLive_channel_iff.1 he

theorem hold_carries {s : Store} {e : EndpointRef} {w : Stake} {n : Next} (he : s.isLive e = true)
    (h : Carries c (s.hold e) (e.stake c { held := 1 } + w) n) : Carries c s w n := by
  intro r hr
  refine h r ?_
  rw [add_left_comm, add_comm]
  exact hr.hold he

/-- A channel that is up may go on to its close. -/
theorem setClosing_carries {s : Store} {d : Nat} (hs : s.IsUp d) :
    Carries c s 0 (.only (s.setChannelState d .closing)) := by
  have hne : (s.channel d).state ≠ .closed := by
    rcases hs with hs | hs <;> rw [hs] <;> nofun
  intro r hr
  by_cases hd : c = d
  · subst hd; exact hr.setChannelState hne nofun
  · exact hr.spared (.mapChannel hd s _)

theorem closeChannel_carries (s : Store) (d : Nat) : Carries c s 0 (s.closeChannel d).2 :=
  match (s.closeChannel d).2, s.closesChannel d with
  | _, .aside _ => .only s
  | _, .unsent hs _ => setClosing_carries c hs
  | _, .sent hs _ h => fun r hr =>
    ((send_carries c h).andThen [.releaseHandle]) r
      ((setClosing_carries c hs _ hr).spared (spares_holdHandle c _))

theorem sendOn_carries {s : Store} {d : Nat} {body : Body} {n : Next} (h : s.sendOn d body = .ok n) :
    Carries c s 0 n := by
  obtain ⟨-, -, m, hm, rfl⟩ := sendOn_eq_ok h
  exact ((send_carries c hm).andThen_zero rfl).from_spares (spares_holdHandle c s)

/-- A channel that nobody holds any more is to give its id back. -/
theorem DropsChannel.tracks {s : Store} {d : Nat} {w : Stake} {n : Next} (hn : s.DropsChannel d n)
    (h : s.NearlyTracks d w) (hh : ¬ (s.channel d).HasHolder) : n.store.Tracks d (w + n.stake d) := by
  have leaves {m : Next} (hm : Carries d s.holdHandle 0 m) :
      Carries d s { leaving := 1 } (m.andThen [.unregister (.channel d), .releaseHandle]) := by
    have hstake : stakes d [.unregister (.channel d), .releaseHandle] = { leaving := 1 } := by
      rw [stakes_cons, Task.stake, stake_self]
      rfl
    exact hstake ▸ (hm.andThen [.unregister (.channel d), .releaseHandle]).from_spares
      (spares_holdHandle d s)
  cases hn with
  | aside hr => exact h.unreachable hr
  | unsent hr => exact leaves (.only _) w (h.leaving hh hr)
  | sent hr _ hm => exact leaves (send_carries d hm) w (h.leaving hh hr)

/-- The channel that is dropped is another one. -/
theorem DropsChannel.carries {s : Store} {d : Nat} (hd : d ≠ c) {n : Next} (h : s.DropsChannel d n) :
    Carries c s 0 n := by
  have leaves {m : Next} (hm : Carries c s.holdHandle 0 m) :
      Carries c s 0 (m.andThen [.unregister (.channel d), .releaseHandle]) := by
    refine (hm.andThen_zero ?_).from_spares (spares_holdHandle c s)
    rw [stakes_cons, Task.stake, stake_of_ne c hd]
    rfl
  cases h with
  | aside => exact .only s
  | unsent => exact leaves (.only _)
  | sent _ _ hm => exact leaves (send_carries c hm)

theorem whenLost_carries {s : Store} {d : Nat} {w : Stake} (h : s.NearlyTracks d w) :
    (s.whenLost (.channel d)).store.Tracks d (w + (s.whenLost (.channel d)).stake d) :=
  match s.whenLost (.channel d), s.loses (.channel d) with
  | _, .aside hl => h.tracks (isLive_channel_iff.1 (hl d rfl))
  | _, .last hl hn => hn.tracks h fun hh => Bool.false_ne_true (hl.symm.trans (isLive_channel_iff.2 hh))

theorem whenLost_spares {s : Store} {e : EndpointRef} (he : e ≠ .channel c) :
    Carries c s 0 (s.whenLost e) :=
  match e, s.whenLost e, s.loses e with
  | _, _, .aside _ => .only s
  | _, _, .last _ h => h.carries c fun hd => he (congrArg _ hd)

/-- An endpoint that work lets go of. -/
theorem release_carries (s : Store) (e : EndpointRef) :
    Carries c s (e.stake c { held := 1 }) ((s.lose e).whenLost e) := by
  cases e with
  | custom n => exact (whenLost_spares c fun he => by cases he).from_spares (.of_eq rfl rfl rfl)
  | channel d =>
    by_cases hd : d = c
    · subst hd
      rw [stake_self]
      intro r hr
      have hheld : (s.channel d).held = r.held + 1 := hr.held
      have hh : (s.channel d).HasHolder := by rw [Channel.HasHolder]; omega
      refine whenLost_carries (w := r) (hr.toNearlyTracks.regrips (lt_length_of_hasHolder hh)
        ⟨rfl, rfl, rfl, fun _ => hh⟩ ?_)
      show (s.channel d).held - 1 = r.held
      rw [hheld, Nat.add_sub_cancel]
    · rw [stake_of_ne c hd]
      refine (whenLost_spares c fun he => hd (EndpointRef.channel.inj he)).from_spares ?_
      exact .mapChannel (Ne.symm hd) s _

theorem unregister_carries (s : Store) (e : EndpointRef) :
    Carries c s (e.stake c { leaving := 1 }) (.only (s.unregister e)) := by
  by_cases he : e = .channel c
  · subst he
    rw [stake_self]
    exact fun r hr => Tracks.unregister (w := r) hr
  · rw [EndpointRef.stake, if_neg he]
    exact .of_spares (.unregister he s) rfl

theorem Tracks.retire_of {c d : Nat} {s : Store} {w : Stake} (h : s.Tracks c w) :
    (s.retire d).Tracks c w := by
  by_cases hd : c = d
  · subst hd; exact h.retire
  · exact h.spared ((Spares.mapChannel hd s _).trans
      (.unregister (fun he => hd (EndpointRef.channel.inj he).symm) _))

/-! ## New ids -/

theorem hasId_register_iff {c : Nat} {s : Store} {r : Registry} {e : EndpointRef} {id : UInt16}
    (hr : s.connection.registry.register e = .ok (id, r)) (he : e ≠ .channel c) (x : UInt16) :
    (s.mapRegistry fun _ => r).HasId c x ↔ s.HasId c x := by
  obtain ⟨-, hfree, hentries⟩ := Registry.register_eq_ok hr
  show r.get? x = _ ↔ s.connection.registry.get? x = _
  rw [Registry.get?_of_insert hentries]
  by_cases hx : x = id
  · subst hx
    rw [if_pos rfl, hfree]
    exact ⟨fun h => absurd (Option.some.inj h) he, nofun⟩
  · rw [if_neg hx]

/-- An endpoint of user code takes no id from a channel. -/
theorem register_spares (s : Store) (n : Nat) : Spares c s (s.register (.custom n)).2 := by
  unfold register
  split
  · exact .of_eq rfl rfl rfl
  · split
    · exact .of_eq rfl rfl rfl
    · rename_i id r hr
      exact ⟨rfl, hasId_register_iff hr (fun he => by cases he), fun h => h, Nat.le_refl _⟩

/-- A channel that was never opened, or whose opening failed. -/
theorem spares_withChannel (s : Store) {ch : Channel} (h : s.channels.length = c → ch = .gone) :
    Spares c s (s.withChannel ch) where
  channel := by
    by_cases hc : c = s.channels.length
    · subst hc
      rw [channel_withChannel, channel_length, h rfl]
    · exact s.channel_withChannel_of_ne ch hc
  ids _ := Iff.rfl
  alive h := h
  length := by
    show _ ≤ (s.channels ++ [ch]).length
    rw [List.length_append]
    exact Nat.le_add_right _ _

/-- A new channel has one id, and whoever opened it is about to get it. -/
theorem Tracks.opened {s : Store} {w : Stake} (h : s.Tracks s.channels.length w) {id : UInt16}
    {r : Registry}
    (hr : s.connection.registry.register (.channel s.channels.length) = .ok (id, r)) :
    ((s.mapRegistry fun _ => r).withChannel ⟨id, .opening, true, 0, 1⟩).Tracks s.channels.length
      (w + { held := 1 }) := by
  obtain ⟨hid, hfree, hentries⟩ := Registry.register_eq_ok hr
  have hch : ((s.mapRegistry fun _ => r).withChannel ⟨id, .opening, true, 0, 1⟩).channel
      s.channels.length = ⟨id, .opening, true, 0, 1⟩ := channel_withChannel (s.mapRegistry fun _ => r) _
  obtain ⟨hleaving, hout, hfailed⟩ := h.none (Nat.le_refl _)
  have hheld : w.held = 0 := by
    rw [← h.held, channel_length]
    rfl
  have hids : ∀ x, ((s.mapRegistry fun _ => r).withChannel ⟨id, .opening, true, 0, 1⟩).HasId
      s.channels.length x ↔ x = id := by
    intro x
    show r.get? x = _ ↔ _
    rw [Registry.get?_of_insert hentries]
    by_cases hx : x = id
    · rw [if_pos hx]
      exact ⟨fun _ => hx, fun _ => rfl⟩
    · -- a channel that is not there has no id
      rw [if_neg hx]
      refine ⟨fun hx' => ?_, fun hx' => absurd hx' hx⟩
      have hat := (h.named hx').2.2.1
      rw [channel_length] at hat
      cases hat
  refine NearlyTracks.tracks ?_ (by rw [hch]; exact Nat.one_ne_zero)
  exact {
    attached := by rw [hch]; exact ⟨fun _ => nofun, fun _ => rfl⟩
    held := by rw [hch, Stake.held_add, hheld, Nat.zero_add]
    named := fun hn => by
      obtain rfl := (hids _).1 hn
      rw [hch]
      exact ⟨hid, rfl, rfl, hout⟩
    known := fun _ _ _ => .inl ⟨id, (hids id).2 rfl⟩
    left := fun hw => absurd hleaving hw
    none := fun hl => by
      have hlen : ((s.mapRegistry fun _ => r).withChannel ⟨id, .opening, true, 0, 1⟩).channels.length =
          s.channels.length + 1 := List.length_append
      omega
    failed := fun hw => absurd hfailed hw }

/-- A channel that could not be opened is there, and has no way to the connection. -/
theorem Tracks.refused {s : Store} {w : Stake} (h : s.Tracks s.channels.length w) :
    (s.withChannel .gone).Tracks s.channels.length (w + { failed := 1 }) := by
  have ht := h.spared (s.spares_withChannel s.channels.length fun _ => rfl)
  have hch : (s.withChannel .gone).channel s.channels.length = .gone := channel_withChannel s _
  exact {
    attached := ht.attached
    held := ht.held
    named := ht.named
    known := ht.known
    left := ht.left
    none := fun hl => by
      have hlen : (s.withChannel .gone).channels.length = s.channels.length + 1 := List.length_append
      omega
    failed := fun _ => by rw [hch]; rfl
    leaves := ht.leaves }

/-- The call that opens a channel tells whether it was opened. -/
theorem openChannel_carries (s : Store) :
    Carries c s 0 (s.openChannel.2.andThen
      [.releaseHandle, .answer (.opened s.channels.length s.openChannel.1)]) := by
  rcases s.openChannel_cases with ⟨e, he, -⟩ | ⟨id, r, n, -, hr, hsend, hopen⟩
  · rw [he]
    have hstake : stakes c [.releaseHandle, .answer (.opened s.channels.length (.error (.alloc e)))] =
        EndpointRef.stake c (.channel s.channels.length) { failed := 1 } := by
      rw [stakes_cons, stakes_cons, stakes_nil, add_zero]
      exact zero_add _
    have hn := hstake ▸ (Carries.only (c := c) (s.withChannel .gone)).andThen
      [.releaseHandle, .answer (.opened s.channels.length (.error (.alloc e)))]
    by_cases hc : s.channels.length = c
    · subst hc
      rw [stake_self] at hn
      exact fun w hw => hn w (Tracks.refused (w := w) hw)
    · rw [stake_of_ne c hc] at hn
      exact hn.from_spares (spares_withChannel c s fun h => absurd h hc)
  · rw [hopen]
    have hn := (send_carries c hsend).andThen [.handOver s.channels.length]
    refine (Carries.andThen_zero (n := n.andThen [.handOver s.channels.length]) ?_ rfl)
    by_cases hc : s.channels.length = c
    · subst hc
      intro w hw
      refine hn w ?_
      rw [stakes_cons, Task.stake, stake_self]
      exact Tracks.opened (w := w) hw hr
    · rw [stakes_cons, Task.stake, stake_of_ne c hc] at hn
      refine hn.from_spares ?_
      have hids : Spares c s (s.mapRegistry fun _ => r) :=
        ⟨rfl, hasId_register_iff hr fun he => hc (EndpointRef.channel.inj he), fun h => h,
          Nat.le_refl _⟩
      exact hids.trans (spares_withChannel c _ fun h => absurd h hc)

/-! ## The connection -/

theorem sendClose_carries (s : Store) : Carries c s 0 s.sendClose := by
  intro r hr
  have ht : (s.holdRegistered.2.foldl Store.hold s).Tracks c (r + _) := Tracks.foldl_hold hr fun hmem =>
    isLive_channel_iff.1 (List.mem_filter.1 hmem).2
  exact ht

theorem close_carries {s : Store} {n : Next} (h : s.close = .ok n) : Carries c s 0 n := by
  cases closesConnection h with
  | begun => exact (sendClose_carries c _).from_spares (.of_eq rfl rfl rfl)
  | noted => exact (Carries.only _).from_spares (.of_eq rfl rfl rfl)

theorem Destroys.carries {s : Store} {n : Next} (h : s.Destroys n) : Carries c s 0 n := by
  cases h with
  | aside => exact .only s
  | closing _ h => exact (close_carries c h).andThen_zero rfl
  | closed => exact (Carries.only s).andThen_zero rfl

theorem destroy_carries (s : Store) : Carries c s 0 s.destroy := s.destroys.carries c

theorem releaseHandle_carries (s : Store) : Carries c s 0 s.releaseHandle :=
  match s.releaseHandle, s.releasesHandle with
  | _, .last _ => (s.destroys.carries c).andThen_zero rfl
  | _, .other _ => .of_spares (.of_eq rfl rfl rfl) rfl

theorem clearRegistry_carries (s : Store) {tasks : List Task} (ht : stakes c tasks = 0) :
    Carries c s 0 (.follow s.clearRegistry.1 (.invalidateEach s.clearRegistry.2 :: tasks)) := by
  intro r hr
  have hstake : (Next.follow s.clearRegistry.1 (.invalidateEach s.clearRegistry.2 :: tasks)).stake c =
      Task.stake c (.invalidateEach s.clearRegistry.2) := by
    show stakes c (_ :: tasks) + 0 = _
    rw [stakes_cons, ht, add_zero, add_zero]
  rw [hstake]
  exact Tracks.clearRegistry (w := r) hr

theorem shut_carries (s : Store) {tasks : List Task} (ht : stakes c tasks = 0) :
    Carries c s 0 (.follow s.shut.1 (.invalidateEach s.shut.2 :: tasks)) :=
  (clearRegistry_carries c (s.setState .closed) ht).from_spares (.of_eq rfl rfl rfl)

theorem transportClosed_carries (s : Store) : Carries c s 0 s.transportClosed :=
  match s.transportClosed, s.losesTransport with
  | _, .aside _ => .only s
  | _, .shut _ => shut_carries c s rfl

theorem report_carries (s : Store) (v : Violation) (processed : Nat) :
    Carries c s 0 (s.report v processed) :=
  match s.report v processed, s.reportsFault v processed with
  | _, .late _ => .of_spares (.of_eq rfl rfl rfl) rfl
  | _, .shut _ => shut_carries c s rfl

/-! ## Received frames -/

theorem OnConnection.carries {s : Store} {body : Body} {n : Next} (h : s.OnConnection body n) :
    Carries c s 0 n := by
  cases h with
  | offered => exact (reply_carries c _ _ rfl).from_spares (.of_eq rfl rfl rfl)
  | openedToClose => exact ((sendClose_carries c _).andThen_zero rfl).from_spares (.of_eq rfl rfl rfl)
  | confirmed => exact shut_carries c s rfl
  | opened => exact .of_spares (.of_eq rfl rfl rfl) rfl
  | heartbeat | fault | tuned | closed | blocked | unblocked => exact .only s

theorem OnChannel.carries {s : Store} {d : Nat} {body : Body} {n : Next} (h : s.OnChannel d body n) :
    Carries c s 0 n := by
  cases h with
  | closes reason => exact reply_carries c s _ rfl
  | opened hs =>
    intro r hr
    by_cases hd : c = d
    · subst hd
      exact hr.setChannelState (by rw [hs]; nofun) nofun
    · exact hr.spared (.mapChannel hd s _)
  | confirmed => exact fun r hr => hr.retire_of
  | flow | content | passedOver | fault => exact .only s

theorem isLive_of_addressee? {s : Store} {f : Frame} {e : EndpointRef} (h : s.addressee? f = some e) :
    s.isLive e = true := by
  unfold addressee? at h
  split at h
  · split at h
    · rename_i hl
      cases h
      exact hl
    · cases h
  · cases h

theorem receive_carries (s : Store) (f : Frame) (p : Parsing) : Carries c s 0 (s.receive f p) := by
  obtain ⟨e, n, hn, hr⟩ := s.receive_takesIn f p
  have within {s : Store} {w : Stake} {n : Next} (h : Carries c s w n) (e : Option EndpointRef) :
      Carries c s (Task.stake c (.handled e p n.fault) + w) (n.within f e p) := by
    have := (h.andThen [.handled e p n.fault]).noted [.received f] rfl
    rwa [stakes_cons, stakes_nil, add_zero] at this
  rw [hr]
  cases hn with
  | connection _ h => exact within (h.carries c) none
  | ignored => exact within (.only s) none
  | @channel _ _ d he _ h =>
    exact hold_carries c (isLive_of_addressee? he) (within (h.carries c) (some (.channel d)))
  | @custom _ _ k he =>
    exact hold_carries c (isLive_of_addressee? he)
      (within (n := .start _ (.endpointFrame k f) []) (Carries.only _) (some (.custom k)))

theorem parse_carries (s : Store) (buffer : Bytes) (processed : Nat) :
    Carries c s 0 (s.parse buffer processed) :=
  match s.parse buffer processed, s.parsesNext buffer processed with
  | _, .ended => .of_spares (.of_eq rfl rfl rfl) rfl
  | _, .violated _ _ _ => report_carries c s _ _
  | _, .received _ _ _ => receive_carries c s _ _

/-! ## Tuning and closing -/

theorem hasId_evict_iff {s : Store} {d : Nat} {id : UInt16} : (s.mapRegistry .evict).HasId d id ↔
    id ∉ s.connection.registry.surplus.map Prod.fst ∧ s.HasId d id := by
  show s.connection.registry.evict.get? id = _ ↔ _
  rw [Registry.get?_evict]
  by_cases hid : id ∈ s.connection.registry.surplus.map Prod.fst
  · rw [if_pos hid]
    exact ⟨nofun, fun h => absurd hid h.1⟩
  · rw [if_neg hid]
    exact ⟨fun h => ⟨hid, h⟩, fun h => h.2⟩

theorem exists_hasId_of_mem_surplus {s : Store} {d : Nat}
    (h : EndpointRef.channel d ∈ s.connection.registry.surplus.map Prod.snd) :
    ∃ id ∈ s.connection.registry.surplus.map Prod.fst, s.HasId d id := by
  obtain ⟨⟨id, e⟩, hx, rfl⟩ := List.mem_map.1 h
  exact ⟨id, List.mem_map_of_mem hx, Registry.mem_surplus hx⟩

/-- The channels over the limit are out of the registry at once; they are cut off one by one. -/
theorem evict_carries (s : Store) (limits : Tune) :
    Carries c s 0 (.follow (s.mapRegistry .evict) [.evict s.connection.registry.surplus limits]) := by
  have hcount : (Next.follow (s.mapRegistry .evict) [.evict s.connection.registry.surplus limits]).stake c =
      { outcast := (s.connection.registry.surplus.map Prod.snd).count (.channel c) } := by
    show stakes c [_] + 0 = _
    rw [stakes_cons]
    rfl
  intro r hr
  rw [hcount]
  refine {
    attached := hr.attached
    held := hr.held
    named := fun hn => ?_
    known := fun ha hat hh => ?_
    left := hr.left
    none := fun hl => ?_
    failed := hr.failed
    leaves := fun ha hn => hr.leaves ha (hasId_evict_iff.1 hn).2 }
  · -- a channel has one id, so it is not among the surplus if its id stays
    obtain ⟨hid, hn⟩ := hasId_evict_iff.1 hn
    obtain ⟨hne, hown, hat, hout⟩ := hr.named hn
    refine ⟨hne, hown, hat, ?_⟩
    have hzero : (s.connection.registry.surplus.map Prod.snd).count (.channel c) = 0 := by
      refine List.count_eq_zero_of_not_mem fun hc => ?_
      obtain ⟨id', hid', hn'⟩ := exists_hasId_of_mem_surplus hc
      exact hid ((hown.symm.trans (hr.named hn').2.1) ▸ hid')
    rw [hzero]
    exact hout
  · show _ ∨ r.outcast + (s.connection.registry.surplus.map Prod.snd).count (.channel c) ≠ 0
    rcases hr.known ha hat hh with ⟨id, hn⟩ | hout
    · by_cases hid : id ∈ s.connection.registry.surplus.map Prod.fst
      · right
        obtain ⟨⟨id, e⟩, hx, rfl⟩ := List.mem_map.1 hid
        obtain rfl : e = .channel c := Option.some.inj ((Registry.mem_surplus hx).symm.trans hn)
        have hpos := List.count_pos_iff.2 (List.mem_map_of_mem (f := Prod.snd) hx)
        dsimp only at hpos
        omega
      · exact .inl ⟨id, hasId_evict_iff.2 ⟨hid, hn⟩⟩
    · right
      have hout' : r.outcast ≠ 0 := hout
      omega
  · have hzero : (s.connection.registry.surplus.map Prod.snd).count (.channel c) = 0 := by
      refine List.count_eq_zero_of_not_mem fun hc => ?_
      obtain ⟨id, -, hn⟩ := exists_hasId_of_mem_surplus hc
      exact absurd (lt_length_of_attached (hr.named hn).2.2.1) (Nat.not_lt.2 hl)
    rw [hzero]
    exact hr.none hl

/-- An endpoint that is out of the registry is cut off. -/
theorem detach_carries (s : Store) (d : Nat) :
    Carries c s (EndpointRef.stake c (.channel d) { outcast := 1 }) (.only (s.detach d)) := by
  by_cases hd : d = c
  · subst hd
    rw [stake_self]
    intro r hr
    refine Tracks.cut (w := r) hr (Nat.le_succ _) (s.channel_detach d) (fun _ hn => ?_)
      (s.length_detach d)
    exact Nat.succ_ne_zero _ (hr.named hn).2.2.2
  · rw [stake_of_ne c hd]
    exact .of_spares (.mapChannel (Ne.symm hd) _ _) rfl

theorem rejectEndpoint_carries (s : Store) (e : EndpointRef) :
    Carries c s (e.stake c { outcast := 1 }) (s.rejectEndpoint e) := by
  cases e with
  | custom n => exact .only s
  | channel d => exact detach_carries c s d

theorem invalidateEndpoint_carries (s : Store) (e : EndpointRef) :
    Carries c s (e.stake c { outcast := 1 }) (s.invalidateEndpoint e) := by
  cases e with
  | custom n => exact .only s
  | channel d => exact detach_carries c s d

/-- The stake in the first of the channels to turn away, and in the others. -/
theorem stake_evict_cons (id : UInt16) (e : EndpointRef) (rest : List (UInt16 × EndpointRef))
    (limits : Tune) : Task.stake c (.evict ((id, e) :: rest) limits) =
      e.stake c { outcast := 1 } + Task.stake c (.evict rest limits) := by
  rw [Task.stake, List.map_cons, List.count_cons, EndpointRef.stake]
  simp only [beq_iff_eq]
  split <;> ext <;> simp [Task.stake, Nat.add_comm]

/-- Nothing is left to do about an endpoint that is gone. -/
theorem evict_gone_carries {s : Store} {e : EndpointRef} (hl : s.isLive e = false)
    (rest : List (UInt16 × EndpointRef)) (limits : Tune) :
    Carries c s (e.stake c { outcast := 1 } + Task.stake c (.evict rest limits))
      (.follow s [.evict rest limits]) := by
  intro r hr
  have hleft : (Next.follow s [.evict rest limits]).stake c = Task.stake c (.evict rest limits) := by
    show stakes c [_] + 0 = _
    rw [stakes_cons]
    rfl
  rw [hleft]
  rw [add_left_comm, add_comm] at hr
  by_cases he : e = .channel c
  · subst he
    rw [stake_self] at hr
    exact Tracks.forgotten hr (Nat.le_succ _) fun _ hh =>
      Bool.false_ne_true (hl.symm.trans (isLive_channel_iff.2 hh))
  · rw [EndpointRef.stake, if_neg he] at hr
    exact hr

theorem evictNext_carries (s : Store) (surplus : List (UInt16 × EndpointRef)) (limits : Tune) :
    Carries c s (Task.stake c (.evict surplus limits)) (s.evictNext surplus limits) := by
  have hdiscard (id : UInt16) : Spares c s (s.discard id).1 := .of_eq rfl rfl rfl
  match surplus, s.evictNext surplus limits, s.evictsNext surplus limits with
  | _, _, .done => exact reply_carries c s _ rfl
  | _, _, .rejected id (e := e) rest hl =>
    rw [stake_evict_cons]
    refine Carries.from_spares ?_ (hdiscard id)
    refine hold_carries c hl (Carries.noted ?_ _ (records_map_discarded c _))
    have hn := (rejectEndpoint_carries c ((s.discard id).1.hold e) e).andThen
      [.release e, .evict rest limits]
    rw [stakes_cons, stakes_cons, stakes_nil, add_zero, add_assoc,
      add_comm (Task.stake c (.evict rest limits))] at hn
    exact hn
  | _, _, .gone id rest hl =>
    rw [stake_evict_cons]
    refine Carries.from_spares ?_ (hdiscard id)
    exact Carries.noted (evict_gone_carries c (s := (s.discard id).1) hl rest limits) _
      (records_map_discarded c _)

theorem closeEndpoint_carries (s : Store) (e : EndpointRef) : Carries c s 0 (s.closeEndpoint e) := by
  cases e with
  | channel d => exact closeChannel_carries c s d
  | custom n => exact .only s

/-- The next of the endpoints to cut off. -/
theorem invalidateNext_carries (s : Store) (e : EndpointRef) (es : List EndpointRef) :
    Carries c s (Task.stake c (.invalidateEach (e :: es)))
      ((s.invalidateEndpoint e).andThen [.release e, .invalidateEach es]) := by
  have hstake : Task.stake c (.invalidateEach (e :: es)) =
      stakes c [.release e, .invalidateEach es] + e.stake c { outcast := 1 } := by
    rw [stakes_cons, stakes_cons, stakes_nil, add_zero, Task.stake, Task.stake, Task.stake,
      List.count_cons, EndpointRef.stake, EndpointRef.stake]
    simp only [beq_iff_eq]
    split <;> ext <;> simp [Nat.add_comm]
  rw [hstake]
  exact (invalidateEndpoint_carries c s e).andThen _

/-- The caller that opened a channel gets it. -/
theorem handOver_carries (s : Store) (d : Nat) :
    Carries c s (EndpointRef.stake c (.channel d) { held := 1 })
      (.only (s.mapChannel d fun ch => { ch with held := ch.held - 1, owned := ch.owned + 1 })) := by
  by_cases hd : d = c
  · subst hd
    rw [stake_self]
    intro r hr
    have hheld : (s.channel d).held = r.held + 1 := hr.held
    have hh : (s.channel d).HasHolder := by rw [Channel.HasHolder]; omega
    have hlt := lt_length_of_hasHolder hh
    have ht := hr.toNearlyTracks.regrips hlt (k := r.held)
      (f := fun ch => { ch with held := ch.held - 1, owned := ch.owned + 1 }) ⟨rfl, rfl, rfl, fun _ => hh⟩
      (by show (s.channel d).held - 1 = r.held; rw [hheld, Nat.add_sub_cancel])
    refine NearlyTracks.tracks (w := r) ht ?_
    show ((s.mapChannel d _).channel d).HasHolder
    rw [channel_mapChannel s hlt]
    exact Nat.ne_of_gt (Nat.add_pos_left (Nat.succ_pos _) _)
  · rw [stake_of_ne c hd]
    exact .of_spares (.mapChannel (Ne.symm hd) s _) rfl

end Store

end AmqpSession
