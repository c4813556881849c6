/-
Channels that the connection takes no frame from any more (`IsBarred`), whatever user code does with
them; and where the frames that go out come from (`Trail.origin`).
-/
import AmqpSession.Proofs.Lifetime

namespace AmqpSession

open Wire

/-! ## Frames that go out -/

/-- The frames that go out, and those that are held back afterwards, were held back before or were taken
meanwhile. -/
def Connection.Sends (k : Connection) (es : List Event) (k' : Connection) : Prop :=
  (∀ f, .handed f ∈ es → f ∈ k.queue ∨ .accepted f ∈ es) ∧
    ∀ f ∈ k'.queue, f ∈ k.queue ∨ .accepted f ∈ es

namespace Connection

variable {t : Option Task} {k k' : Connection} {es : List Event}

theorem Sends.of_queue (hq : k'.queue = k.queue) (hh : ∀ f, .handed f ∉ es) : k.Sends es k' :=
  ⟨fun f hf => absurd hf (hh f), fun _ hf => .inl (hq ▸ hf)⟩

theorem Move.sends (h : Move t k es k') : k.Sends es k' := by
  cases h with
  | note e he =>
    refine .of_queue rfl fun f hf => ?_
    rw [← List.mem_singleton.1 hf] at he
    cases he
  | pass f octets => exact ⟨fun g hg => .inr (by simpa using hg), fun _ hg => .inl hg⟩
  | enqueue f octets =>
    refine ⟨fun g hg => absurd hg (by simp), fun g hg => ?_⟩
    exact (List.mem_append.1 hg).imp id fun hg => by rw [List.mem_singleton.1 hg]; exact List.mem_cons_self
  | confirm => exact .of_queue rfl (by simp)
  | dequeue f rest ht hq ha =>
    rw [Sends, hq]
    refine ⟨fun g hg => .inl ?_, fun g hg => .inl (List.mem_cons_of_mem _ hg)⟩
    obtain rfl : g = f := by simpa using hg
    exact List.mem_cons_self
  | discard id e rest limits =>
    refine ⟨fun g hg => ?_, fun g hg => .inl (List.mem_of_mem_filter hg)⟩
    obtain ⟨f, -, hf⟩ := List.mem_map.1 hg
    cases hf
  | _ => exact .of_queue rfl (by simp)

theorem Moves.sends (h : Moves t k es k') : k.Sends es k' := by
  induction h with
  | refl => exact .of_queue rfl (by simp)
  | tail _ hm ih =>
    -- what the last change finds in the queue has its origin before
    have hstep := hm.sends
    refine ⟨fun f hf => ?_, fun f hf => ?_⟩
    · rcases List.mem_append.1 hf with hf | hf
      · exact (ih.1 f hf).imp id (List.mem_append_left _)
      · rcases hstep.1 f hf with hq | ha
        · exact (ih.2 f hq).imp id (List.mem_append_left _)
        · exact .inr (List.mem_append_right _ ha)
    · rcases hstep.2 f hf with hq | ha
      · exact (ih.2 f hq).imp id (List.mem_append_left _)
      · exact .inr (List.mem_append_right _ ha)

end Connection

namespace Session

variable {σ₀ σ τ : Session} {a : Option Act} {ms : List Moment} {c : Nat}

/-- A step changes the connection bit by bit, or completes negotiation. -/
theorem moves_of_next? (hσ : σ.Reachable) (hs : σ.next? a = some τ) :
    Connection.Moves σ.tasks.head? σ.store.connection (σ.notes a) τ.store.connection ∨
      ∃ f, σ.notes a = [.received f] ∧
        τ.store.connection = { σ.store.connection with state := .connected } := by
  have hlog := log_of_next? hs
  rcases (Step.next hs).cases hσ.isProper with ⟨es, old, new, rest, rest', hw⟩ | hc
  · rw [hw.log, List.append_cancel_right_eq, List.reverse_inj] at hlog
    exact .inl (hlog ▸ hw.moves)
  · obtain ⟨f, hf⟩ := hc.log
    rw [hf, ← List.singleton_append, List.append_cancel_right_eq] at hlog
    exact .inr ⟨f, by rw [← List.reverse_reverse (σ.notes a), ← hlog]; rfl, hc.connection⟩

theorem sends_of_next? (hσ : σ.Reachable) (hs : σ.next? a = some τ) :
    σ.store.connection.Sends (σ.notes a) τ.store.connection := by
  obtain hm | ⟨f, hnotes, hk⟩ := moves_of_next? hσ hs
  · exact hm.sends
  · refine .of_queue (by rw [hk]) fun g hg => ?_
    rw [hnotes] at hg
    simp at hg

/-- A frame that goes out was held back when the run began, or the connection took it since. -/
theorem Trail.origin (h : Trail σ₀ ms σ) (h₀ : σ₀.Reachable) :
    (∀ m ∈ ms, ∀ f, .handed f ∈ m.noted →
      f ∈ σ₀.store.connection.queue ∨ ∃ m' ∈ ms, .accepted f ∈ m'.noted) ∧
    ∀ f ∈ σ.store.connection.queue,
      f ∈ σ₀.store.connection.queue ∨ ∃ m' ∈ ms, .accepted f ∈ m'.noted := by
  induction h with
  | nil => exact ⟨by simp, fun f hf => .inl hf⟩
  | @cons ms σ τ a h hs ih =>
    obtain ⟨hgone, hheld⟩ := ih
    obtain ⟨hout, hkept⟩ := sends_of_next? (h.reachable h₀) hs
    have earlier : ∀ {f}, (f ∈ σ₀.store.connection.queue ∨ ∃ m' ∈ ms, .accepted f ∈ m'.noted) →
        f ∈ σ₀.store.connection.queue ∨ ∃ m' ∈ ⟨σ, a, τ⟩ :: ms, .accepted f ∈ m'.noted :=
      Or.imp id fun ⟨m, hm, hf⟩ => ⟨m, List.mem_cons_of_mem _ hm, hf⟩
    have now : ∀ {f}, (f ∈ σ.store.connection.queue ∨ .accepted f ∈ σ.notes a) →
        f ∈ σ₀.store.connection.queue ∨ ∃ m' ∈ ⟨σ, a, τ⟩ :: ms, .accepted f ∈ m'.noted := by
      rintro f (hq | ha)
      · exact earlier (hheld f hq)
      · exact .inr ⟨_, List.mem_cons_self, ha⟩
    exact ⟨List.forall_mem_cons.2 ⟨fun f hf => now (hout f hf), fun m hm f hf => earlier (hgone m hm f hf)⟩,
      fun f hf => now (hkept f hf)⟩

/-! ## Channels that are out -/

/-- The channel is closed or nobody holds it, and it owes no answer. -/
structure IsBarred (c : Nat) (σ : Session) : Prop where
  known : c < σ.store.channels.length
  gone : (σ.store.channel c).state = .closed ∨ ¬ (σ.store.channel c).HasHolder
  flows : ∀ active, .flowReply c active ∉ σ.tasks

theorem hasHolder_of_routes? {f : Frame} (h : σ.routes? = some (.channel c, f)) :
    (σ.store.channel c).HasHolder :=
  Store.isLive_channel_iff.1 (addressee?_eq_some_iff.1 (routes?_eq_some_iff.1 h).2.2.2).2

/-- A frame that a channel gives in answer to one it received is that of a channel that somebody holds. -/
theorem hasHolder_of_own {buffer : Bytes} {processed : Nat} {rest : List Task}
    (ht : σ.tasks = .parse buffer processed :: rest) (hs : σ.next? a = some τ) {body : Body}
    (hb : .own body ∈ Moment.eventsOf c ⟨σ, a, τ⟩) : (σ.store.channel c).HasHolder := by
  obtain ⟨rfl, -⟩ := next?_eq_proceed hs ht (by simp)
  obtain ⟨e, -, he⟩ := List.mem_filterMap.1 hb
  rw [show (Moment.mk σ none τ).act = none from rfl, show (Moment.mk σ none τ).before = σ from rfl,
    source, ht] at he
  dsimp only at he
  split at he
  · rename_i d f hr
    cases e with
    | accepted g =>
      unfold ChannelEvent.of? at he
      dsimp only at he
      split at he
      · rename_i hd
        exact hd ▸ hasHolder_of_routes? hr
      · cases he
    | started cb => cases cb <;> simp [ChannelEvent.of?] at he
    | _ => cases he
  · cases e with
    | started cb => cases cb <;> simp [ChannelEvent.of?] at he
    | _ => cases he

/-- Only a channel that somebody holds is told of a flow. -/
theorem hasHolder_of_flow (hσ : σ.Reachable) (hs : σ.next? a = some τ)
    (hf : .flow ∈ Moment.eventsOf c ⟨σ, a, τ⟩) : (σ.store.channel c).HasHolder := by
  obtain ⟨e, he, hof⟩ := List.mem_filterMap.1 hf
  cases e with
  | started cb =>
    cases cb with
    | channelFlow d active =>
      have hd : d = c := by
        by_contra hne
        simp [ChannelEvent.of?, hne] at hof
      subst hd
      obtain ⟨e, f, hr, hcb⟩ := routes?_of_isDelivery hσ hs he rfl
      cases hcb
      exact hasHolder_of_routes? hr
    | _ => simp [ChannelEvent.of?] at hof
  | accepted f =>
    unfold ChannelEvent.of? at hof
    dsimp only at hof
    split at hof
    · cases hof
    · split at hof <;> cases hof
    · split at hof <;> cases hof
  | _ => cases hof

namespace IsBarred

theorem not_isUp (h : IsBarred c σ) (hup : σ.store.IsUp c) (hh : (σ.store.channel c).HasHolder) : False := by
  rcases h.gone with hs | hn
  · rcases hup with hup | hup <;> cases hs.symm.trans hup
  · exact hn hh

/-- A channel that is out stays out, and gives no frame to the connection; nor is one taken that user
code sends on it. -/
theorem next? (h : IsBarred c σ) (hσ : σ.Reachable) (hs : σ.next? a = some τ) :
    IsBarred c τ ∧ ∀ body, .own body ∉ Moment.eventsOf c ⟨σ, a, τ⟩ ∧
      .sent body ∉ Moment.eventsOf c ⟨σ, a, τ⟩ := by
  obtain ⟨t, n, rest, rest', htasks, hstore, htasks', hplain, he, -⟩ := next?_episode hσ hs c
  have hrest : ∀ active, .flowReply c active ∉ rest' := fun active hm =>
    h.flows active (htasks ▸ List.mem_append_right _ (mem_of_map_plain_eq hplain rfl hm))
  have flows : (∀ active, .flowReply c active ∉ n.tasks) → ∀ active, .flowReply c active ∉ τ.tasks := by
    intro hn active hm
    rw [htasks'] at hm
    exact (List.mem_append.1 hm).elim (hn active) (hrest active)
  have about : NoneAbout c n.tasks → ∀ active, .flowReply c active ∉ τ.tasks := fun hn =>
    flows fun active => hn.not_mem (beq_self_eq_true c)
  have passes : σ.store.PassesBy c n.store → (∀ active, .flowReply c active ∉ τ.tasks) →
      IsBarred c τ := by
    intro hp hf
    refine ⟨by rw [hstore]; exact hp.length.2 h.known, ?_, hf⟩
    rw [hstore, hp.state]
    exact h.gone.imp id fun hn hh => hn (hp.holder hh)
  have turns : ∀ {state}, σ.store.TurnsTo c n.store state →
      state = .closed ∨ ¬ (σ.store.channel c).HasHolder → (∀ active, .flowReply c active ∉ τ.tasks) →
      IsBarred c τ := by
    intro state ht hg hf
    refine ⟨by rw [hstore]; exact ht.length.2 h.known, ?_, hf⟩
    rw [hstore, ht.state]
    exact hg.imp id fun hn hh => hn (ht.holder hh)
  -- an id belongs to no channel that is closed
  have dead : (∃ id, σ.store.HasId c id) → ¬ (σ.store.channel c).HasHolder := fun hid =>
    h.gone.resolve_left (state_ne_closed_of_hasId hσ hid)
  generalize hevs : Moment.eventsOf c ⟨σ, a, τ⟩ = evs at he
  cases he with
  | aside hp _ _ hf _ => exact ⟨passes hp (flows hf), by simp⟩
  | asks hlen | fails hlen => exact absurd h.known (Nat.not_lt.2 hlen)
  | sends body hup hh => exact (h.not_isUp hup hh).elim
  | takesLeave hup hh => exact (h.not_isUp hup hh).elim
  | leaves hup ht hn => exact ⟨turns ht (.inr fun hh => h.not_isUp hup hh) (about hn), by simp⟩
  | ready hid _ ht hn => exact ⟨turns ht (.inr (dead hid)) (about hn), by simp⟩
  | confirmed _ _ ht hn => exact ⟨turns ht (.inl rfl) (about hn), by simp⟩
  | frame _ _ hp hn => exact ⟨passes hp (about hn), by simp⟩
  | flow hid => exact (dead hid (hasHolder_of_flow hσ hs (by rw [hevs]; exact List.mem_cons_self))).elim
  | closedByPeer hid =>
    obtain ⟨buffer, processed, ht⟩ : ∃ buffer processed, σ.tasks = .parse buffer processed :: rest :=
      ⟨_, _, htasks⟩
    exact (dead hid (hasHolder_of_own ht hs (by rw [hevs]; exact List.mem_cons_self))).elim
  | error _ _ _ hf ht => exact ⟨turns ht (.inl rfl) (flows hf), by simp⟩
  | tuned hp _ _ _ hf => exact ⟨passes hp (flows hf), by simp⟩
  | closed _ hp hn => exact ⟨passes hp (about hn), by simp⟩
  | @flowOk active =>
    have hmem : .flowReply c active ∈ σ.tasks := by
      rw [htasks]
      exact List.mem_cons_self
    exact absurd hmem (h.flows active)
  | cut ht hn => exact ⟨turns ht (.inl rfl) (about hn), by simp⟩

end IsBarred

/-- Whatever user code does with a channel that is out, no frame of it is taken. -/
theorem Trail.barred (h : Trail σ₀ ms σ) (h₀ : σ₀.Reachable) (hc : IsBarred c σ₀) :
    IsBarred c σ ∧ ∀ m ∈ ms, ∀ body, .own body ∉ m.eventsOf c ∧ .sent body ∉ m.eventsOf c := by
  refine h.induction h₀ (P := fun ms σ => IsBarred c σ ∧
    ∀ m ∈ ms, ∀ body, .own body ∉ m.eventsOf c ∧ .sent body ∉ m.eventsOf c) ⟨hc, by simp⟩ ?_
  rintro ms σ a τ hσ ⟨hb, hms⟩ hs
  obtain ⟨hτ, hnone⟩ := hb.next? hσ hs
  exact ⟨hτ, List.forall_mem_cons.2 ⟨hnone, hms⟩⟩

end Session

end AmqpSession
