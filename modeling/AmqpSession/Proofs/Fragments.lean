/-
Octets may arrive in any pieces. A call of `parse` that is given less of them works like a call that
is given all (`Task.Extends`) until either is done with them (`Task.Answers`) or the octets run out;
the next call then goes on where the other one is (`agrees_of_shift`). So it makes no difference how
octets are cut into chunks, whatever user code does meanwhile.
-/
import AmqpSession.Proofs.Forward
import AmqpSession.Proofs.Incremental
import AmqpSession.Proofs.Script

namespace AmqpSession

open Wire

/-! ## The octets of a buffer -/

/-- Work on the octets of a buffer, and the same work where `more` comes after them and `p` octets
came before. -/
inductive Task.Extends (buffer more : Bytes) (p : Nat) : Task → Task → Prop where
  | parse (q : Nat) (hq : q ≤ buffer.length) :
      Extends buffer more p (.parse (buffer.drop q) q) (.parse (buffer.drop q ++ more) (p + q))
  | handled (e : Option EndpointRef) (q size : Nat) (fault : Option Violation)
      (hq : q + size ≤ buffer.length) :
      Extends buffer more p (.handled e ⟨buffer.drop q, q, size⟩ fault)
        (.handled e ⟨buffer.drop q ++ more, p + q, size⟩ fault)

/-- The answers when no more than `bound` octets were consumed. -/
inductive Task.Answers (bound p : Nat) : Task → Task → Prop where
  | answer (q : Nat) (hq : q ≤ bound) :
      Answers bound p (.answer (.consumed q)) (.answer (.consumed (p + q)))

/-- Part of the way to the state in which a close awaits its confirmation. -/
def Task.isClosing : Task → Bool
  | .sendClose | .awaitCloseOk => true
  | _ => false

theorem Task.isClosing_plain (t : Task) : t.plain.isClosing = t.isClosing := by cases t <;> rfl

namespace Store

theorem parse_of_closed {s : Store} (hs : s.connection.state = .closed) (buffer : Bytes)
    (processed : Nat) : s.parse buffer processed = .follow s (endOfParse processed) := by
  simp [parse, hs]

theorem parse_of_live {s : Store} (ha : s.connection.alive = true)
    (hs : s.connection.state ≠ .closed) (buffer : Bytes) (processed : Nat) :
    s.parse buffer processed =
      match Frame.decode buffer s.connection.maxFrameSize with
      | .error fault => s.report (.frame fault) processed
      | .ok none => .follow s (endOfParse processed)
      | .ok (some r) => s.receive r.frame ⟨buffer, processed, r.size⟩ := by
  cases buffer with
  | nil => rfl
  | cons b bs =>
    have hgo : ¬((b :: bs).isEmpty || !s.connection.alive || s.connection.state = .closed) = true := by
      simp [ha, hs]
    exact if_neg hgo

/-- The buffer of a frame plays no part in its handling. -/
theorem exists_receive_eq (s : Store) (f : Frame) :
    ∃ s' work log holder fault, ∀ p, s.receive f p =
      { store := s', tasks := work ++ [.handled holder p fault], log := log } := by
  unfold receive
  generalize (if f.channel = 0 then (none, s.receiveOnConnection f.body) else _ : _ × Next) = r
  obtain ⟨holder, n⟩ := r
  exact ⟨n.store, n.tasks, .received f :: n.log, holder, n.fault, fun p => rfl⟩

/-- A report leaves the connection closed, and only its answer tells what was consumed. -/
theorem exists_report_eq (s : Store) (v : Violation)
    (hd : s.connection.alive = false → s.connection.state = .closed) :
    ∃ s' work, s'.connection.state = .closed ∧ work.countP Task.isClosing = 0 ∧
      ∀ processed, s.report v processed = .follow s' (work ++ [.answer (.consumed processed)]) := by
  cases ha : s.connection.alive with
  | true =>
    refine ⟨s.shut.1, [.invalidateEach s.shut.2, .notify (.error v.message), .releaseHandle], ?_, rfl,
      fun processed => by simp [report, ha, endOfParse]⟩
    rw [connection_shut]
  | false =>
    exact ⟨s, [.releaseHandle], hd ha, rfl, fun processed => by simp [report, ha, endOfParse]⟩

end Store

namespace Session

variable {u : Script} {base : List Task} {buffer more : Bytes} {p bound : Nat}

theorem extends_note {g : Task → Task} (hg : Note g) {t t' : Task} (h : t.Extends buffer more p t') :
    (g t).Extends buffer more p (g t') := by
  cases hg with
  | nothing => exact h
  | fault v =>
    cases h with
    | parse q hq => exact .parse q hq
    | handled e q size fault hq => exact .handled e q size (some v) hq
  | interval seconds =>
    cases h with
    | parse q hq => exact .parse q hq
    | handled e q size fault hq => exact .handled e q size fault hq

theorem answers_note {g : Task → Task} (hg : Note g) {t t' : Task} (h : t.Answers bound p t') :
    (g t).Answers bound p (g t') := by
  cases h with
  | answer q hq => cases hg <;> exact .answer q hq

/-! ## One step side by side -/

/-- The connection is closed, and nothing that is left to do of a call above `base` takes that
back. -/
structure Settled (base : List Task) (σ : Session) : Prop where
  closed : σ.state = .closed
  above : σ.tasks = base ∨ ∃ work outcome, σ.tasks = work ++ .answer outcome :: base
  calm : σ.tasks.countP Task.isClosing ≤ base.countP Task.isClosing

/-- The octets of the one session have run out. -/
inductive Starves (buffer more : Bytes) (p : Nat) (base : List Task) : Session → Session → Prop where
  | mk (s : Store) (log : List Event) (q : Nat) (hq : q ≤ buffer.length)
      (ha : s.connection.alive = true) (hs : s.connection.state ≠ .closed)
      (hd : Frame.decode (buffer.drop q) s.connection.maxFrameSize = .ok none) :
      Starves buffer more p base ⟨s, .parse (buffer.drop q) q :: base, log⟩
        ⟨s, .parse (buffer.drop q ++ more) (p + q) :: base, log⟩

/-- What becomes of two sessions that work on the same octets, in one step: they go on, or they are
done, or the one of them has too few. -/
inductive Beside (u : Script) (buffer more : Bytes) (p : Nat) (base : List Task) (σ σ' : Session) :
    Prop where
  | on (h : Option.Rel (Above (Task.Extends buffer more p) base) (σ.stepBy u) (σ'.stepBy u))
  | done {τ τ' : Session} (h : σ.stepBy u = some τ) (h' : σ'.stepBy u = some τ')
      (ha : Above (Task.Answers buffer.length p) base τ τ') (hs : τ.Settled base)
  | starved (h : Starves buffer more p base σ σ')

/-- The last work on the octets leaves the connection closed. -/
theorem Beside.of_closed {s : Store} {log : List Event} {t t' : Task} {q : Nat} (s' : Store)
    (work : List Task) (hq : q ≤ buffer.length)
    (h : t.run s = some (.follow s' (work ++ [.answer (.consumed q)])))
    (h' : t'.run s = some (.follow s' (work ++ [.answer (.consumed (p + q))])))
    (hs : s'.connection.state = .closed) (hw : work.countP Task.isClosing = 0) :
    Beside u buffer more p base ⟨s, t :: base, log⟩ ⟨s, t' :: base, log⟩ := by
  have hstep : ∀ {t n}, t.run s = some (.follow s' (work ++ [.answer (.consumed n)])) →
      stepBy u ⟨s, t :: base, log⟩ = some ⟨s', work ++ .answer (.consumed n) :: base, log⟩ := by
    intro t n ht
    rw [stepBy_of_run ht rfl]
    simp [Next.follow]
  refine .done (hstep h) (hstep h') (.mk s' work log (.answer q hq)) ⟨hs, .inr ⟨work, _, rfl⟩, ?_⟩
  rw [List.countP_append, hw, List.countP_cons_of_neg (by simp [Task.isClosing]), Nat.zero_add]

theorem beside_parse {s : Store} {log : List Event} {q : Nat} (hq : q ≤ buffer.length)
    (hd : s.connection.alive = false → s.connection.state = .closed) :
    Beside u buffer more p base ⟨s, .parse (buffer.drop q) q :: base, log⟩
      ⟨s, .parse (buffer.drop q ++ more) (p + q) :: base, log⟩ := by
  have hrun : ∀ b n, (Task.parse b n).run s = some (s.parse b n) := fun _ _ => rfl
  by_cases hs : s.connection.state = .closed
  · refine .of_closed s [.releaseHandle] hq ?_ ?_ hs rfl
    · rw [hrun, Store.parse_of_closed hs]; rfl
    · rw [hrun, Store.parse_of_closed hs]; rfl
  · have ha : s.connection.alive = true := by
      cases ha : s.connection.alive with
      | true => rfl
      | false => exact absurd (hd ha) hs
    -- what the decoder makes of the octets that both have, it makes of all octets as well
    cases hdec : Frame.decode (buffer.drop q) s.connection.maxFrameSize with
    | error fault =>
      have happ := Frame.decode_append (by rw [hdec]; simp) more
      obtain ⟨s', work, hs', hw, hreport⟩ := s.exists_report_eq (.frame fault) hd
      refine .of_closed s' work hq ?_ ?_ hs' hw
      · rw [hrun, Store.parse_of_live ha hs, hdec, ← hreport]
      · rw [hrun, Store.parse_of_live ha hs, happ, hdec, ← hreport]
    | ok r =>
      cases r with
      | none => exact .starved (.mk s log q hq ha hs hdec)
      | some r =>
        have happ := Frame.decode_append (by rw [hdec]; simp) more
        have hsize := (Frame.size_of_decode hdec).2
        rw [List.length_drop] at hsize
        obtain ⟨s', work, log', holder, fault, hreceive⟩ := s.exists_receive_eq r.frame
        have hstep : ∀ {b n}, s.parse b n = s.receive r.frame ⟨b, n, r.size⟩ →
            stepBy u ⟨s, .parse b n :: base, log⟩ =
              some ⟨s', work ++ .handled holder ⟨b, n, r.size⟩ fault :: base, log'.reverse ++ log⟩ := by
          intro b n hb
          rw [stepBy_of_run ((hrun b n).trans (congrArg some (hb.trans (hreceive _)))) rfl]
          simp
        refine .on ?_
        rw [hstep (by rw [Store.parse_of_live ha hs, hdec]),
          hstep (by rw [Store.parse_of_live ha hs, happ, hdec])]
        exact .some (.mk s' work _ (.handled holder q r.size fault (by omega)))

theorem beside_handled {s : Store} {log : List Event} {e : Option EndpointRef} {q size : Nat}
    {fault : Option Violation} (hq : q + size ≤ buffer.length)
    (hd : s.connection.alive = false → s.connection.state = .closed) :
    Beside u buffer more p base ⟨s, .handled e ⟨buffer.drop q, q, size⟩ fault :: base, log⟩
      ⟨s, .handled e ⟨buffer.drop q ++ more, p + q, size⟩ fault :: base, log⟩ := by
  cases e with
  | some e =>
    refine .on ?_
    rw [stepBy_of_run rfl rfl, stepBy_of_run rfl rfl]
    exact .some (.mk s [.release e] log (.handled none q size fault hq))
  | none =>
    cases fault with
    | none =>
      have hmore : Task.Extends buffer more p (.parse ((buffer.drop q).drop size) (q + size))
          (.parse ((buffer.drop q ++ more).drop size) (p + q + size)) := by
        rw [List.drop_append_of_le_length (by rw [List.length_drop]; omega), List.drop_drop,
          Nat.add_assoc]
        exact .parse (q + size) hq
      refine .on ?_
      rw [stepBy_of_run rfl rfl, stepBy_of_run rfl rfl]
      exact .some (.mk s [] log hmore)
    | some v =>
      obtain ⟨s', work, hs', hw, hreport⟩ := s.exists_report_eq v hd
      exact .of_closed s' work (Nat.le_trans (Nat.le_add_right q size) hq)
        (congrArg some (hreport q)) (congrArg some (hreport (p + q))) hs' hw

theorem Above.beside {σ σ' : Session} (h : Above (Task.Extends buffer more p) base σ σ')
    (hk : σ.Kept) : Beside u buffer more p base σ σ' := by
  cases h with
  | mk s work log h =>
    by_cases hw : work = []
    · subst hw
      cases h with
      | parse q hq => exact beside_parse hq hk.state_of_not_alive
      | handled e q size fault hq => exact beside_handled hq hk.state_of_not_alive
    · exact .on (Above.step (fun g hg t t' => extends_note hg) s log hw h)

/-! ## Closed connections -/

theorem isClosing_eq_false_of_leadsTo {k k' : Connection} {t t' : Task} (h : t.LeadsTo k k' t')
    (hs : k.state = .closed) (ht : t.isClosing = false) : t'.isClosing = false := by
  have hne : t' ≠ .sendClose ∧ t' ≠ .awaitCloseOk := by
    unfold Task.LeadsTo at h
    split at h <;> grind [Connection.TearsDown, Connection.Closes, Connection.Reports,
      Connection.Receives, Task.isClosing]
  cases t' <;> simp_all [Task.isClosing]

theorem isClosing_eq_false_of_callLeadsTo {k k' : Connection} {t : Task} (h : k.CallLeadsTo k' t)
    (hs : k.state = .closed) : t.isClosing = false := by
  have hne : t ≠ .sendClose ∧ t ≠ .awaitCloseOk := by
    grind [Connection.CallLeadsTo, Connection.TearsDown, Connection.Closes]
  cases t <;> simp_all [Task.isClosing]

namespace Settled

variable {σ τ : Session}

/-- What runs next is no part of a close. -/
theorem isClosing_head (h : σ.Settled base) (hne : σ.tasks ≠ base) {t : Task} {rest : List Task}
    (ht : σ.tasks = t :: rest) : t.isClosing = false := by
  obtain hb | ⟨work, outcome, habove⟩ := h.above
  · exact absurd hb hne
  · have hcalm := h.calm
    rw [habove] at ht
    cases work with
    | nil => cases ht; rfl
    | cons w ws =>
      cases ht
      rw [habove, List.cons_append, List.countP_cons, List.countP_append, List.countP_cons] at hcalm
      cases hw : t.isClosing with
      | false => rfl
      | true => rw [if_pos hw] at hcalm; omega

theorem works (h : σ.Settled base) (hp : σ.IsProper) (hs : Step σ τ) :
    ∃ es old new rest rest', Works σ τ es old new rest rest' := by
  refine (hs.cases hp).resolve_right fun hc => ?_
  have hclosed := h.closed
  rw [state, hc.tuning] at hclosed
  cases hclosed

theorem state_step (h : σ.Settled base) (hne : σ.tasks ≠ base) (hp : σ.IsProper) (hs : Step σ τ) :
    τ.state = .closed := by
  obtain ⟨es, old, new, rest, rest', w⟩ := h.works hp hs
  have hr : σ.state.rank ≤ τ.state.rank := by
    refine w.moves.rank_le fun he => ?_
    obtain ⟨rest, ht⟩ := List.head?_eq_some_iff.1 he
    cases h.isClosing_head hne ht
  rw [h.closed] at hr
  exact ConnectionState.eq_closed hr

theorem calm_step (h : σ.Settled base) (hne : σ.tasks ≠ base) (hp : σ.IsProper) (hs : Step σ τ) :
    τ.tasks.countP Task.isClosing ≤ base.countP Task.isClosing := by
  obtain ⟨es, old, new, rest, rest', w⟩ := h.works hp hs
  have hnew : new.countP Task.isClosing = 0 := by
    refine List.countP_eq_zero.2 fun t ht => ?_
    rw [Bool.not_eq_true]
    obtain hcommon | ⟨t₀, hold, hl⟩ | ⟨-, hl⟩ := w.tasks t ht
    · cases t with
      | sendClose | awaitCloseOk => cases hcommon
      | _ => rfl
    · have ht₀ := w.before
      rw [hold] at ht₀
      exact isClosing_eq_false_of_leadsTo hl h.closed (h.isClosing_head hne ht₀)
    · exact isClosing_eq_false_of_callLeadsTo hl h.closed
  -- the rest keeps its tasks, and what ran can only be missing
  have hcalm := h.calm
  rw [w.before, List.countP_append] at hcalm
  rw [w.after, List.countP_append, hnew, countP_eq_of_map_plain Task.isClosing_plain w.kept]
  omega

theorem above_step (h : σ.Settled base) (hne : σ.tasks ≠ base) (hs : σ.stepBy u = some τ) :
    τ.tasks = base ∨ ∃ work outcome, τ.tasks = work ++ .answer outcome :: base := by
  obtain hb | ⟨work, outcome, habove⟩ := h.above
  · exact absurd hb hne
  · obtain ⟨s, tasks, log⟩ := σ
    change tasks = _ at habove
    subst habove
    by_cases hw : work = []
    · subst hw
      rw [List.nil_append, stepBy_of_run rfl rfl] at hs
      cases hs
      exact .inl rfl
    · obtain hnone | ⟨s', work', log', g, hg, hsome⟩ := stepBy_above u s log hw base
      · rw [hnone] at hs
        cases hs
      · rw [hsome] at hs
        cases hs
        refine .inr ⟨work', outcome, ?_⟩
        cases hg <;> rfl

theorem stepBy (h : σ.Settled base) (hne : σ.tasks ≠ base) (hp : σ.IsProper)
    (hs : σ.stepBy u = some τ) : τ.Settled base :=
  ⟨h.state_step hne hp (.stepBy hs), h.above_step hne hs, h.calm_step hne hp (.stepBy hs)⟩

theorem returns {n : Nat} {υ : Session} (h : σ.Settled base) (hk : σ.Kept)
    (hr : Returns u base σ n υ) : υ.state = .closed := by
  induction hr with
  | answered => exact h.closed
  | step ht hs _ ih => exact ih (h.stepBy ht hk.isProper hs) (hk.stepBy hs)

end Settled

/-! ## Calls that agree -/

/-- The same, after `p` octets. -/
def Shifted (p n : Nat) (ρ : Session) (k : Nat) (υ : Session) : Prop := k = p + n ∧ υ = ρ

/-- What the next call comes to, which is given what is left and then `more`. -/
def Continued (u : Script) (buffer more : Bytes) (n : Nat) (ρ : Session) (k : Nat) (υ : Session) :
    Prop :=
  ∃ m, k = n + m ∧ Parses u ρ (buffer.drop n ++ more) m υ

theorem agrees_of_answers {σ σ' : Session} (h : Above (Task.Answers bound p) base σ σ') :
    Agrees u base bound (Shifted p) σ σ' := by
  refine agrees_of_beside (B := Above (Task.Answers bound p) base) ?_ h
  intro σ σ' h
  obtain ⟨hne, hne'⟩ := h.ne
  cases h with
  | mk s work log h =>
    by_cases hw : work = []
    · subst hw
      cases h with
      | answer q hq =>
        have hs : ∀ q, stepBy u ⟨s, .answer (.consumed q) :: base, log⟩ =
            some ⟨s, base, .answered (.consumed q) :: log⟩ := fun q =>
          stepBy_of_run (t := .answer (.consumed q)) rfl rfl
        refine .inl (.of_step hne hne' (hs q) (hs (p + q)) ⟨?_, ?_⟩)
        · intro n ρ hr
          obtain ⟨rfl, rfl⟩ := returns_answered.1 hr
          refine ⟨hq, ?_⟩
          rintro k υ ⟨rfl, rfl⟩
          exact returns_answered.2 ⟨rfl, rfl⟩
        · intro k υ hr
          obtain ⟨rfl, rfl⟩ := returns_answered.1 hr
          exact ⟨q, _, returns_answered.2 ⟨rfl, rfl⟩, rfl, rfl⟩
    · exact .inr ⟨hne, hne', Above.step (fun g hg t t' => answers_note hg) s log hw h⟩

theorem stepBy_of_starves {σ σ' : Session} (h : Starves buffer more p base σ σ') :
    ∃ q ≤ buffer.length, σ.stepBy u =
      some ⟨σ.store, [.releaseHandle] ++ .answer (.consumed q) :: base, σ.log⟩ ∧
      σ' = ⟨σ.store, .parse (buffer.drop q ++ more) (p + q) :: base, σ.log⟩ ∧
      (more = [] → σ'.stepBy u =
        some ⟨σ.store, [.releaseHandle] ++ .answer (.consumed (p + q)) :: base, σ.log⟩) := by
  cases h with
  | mk s log q hq ha hs hd =>
    have hrun : ∀ n, (Task.parse (buffer.drop q) n).run s = some (.follow s (Store.endOfParse n)) := by
      intro n
      show some (s.parse (buffer.drop q) n) = _
      rw [Store.parse_of_live ha hs, hd]
    refine ⟨q, hq, stepBy_of_run (hrun q) rfl, rfl, ?_⟩
    rintro rfl
    rw [List.append_nil]
    exact stepBy_of_run (hrun (p + q)) rfl

/-- What was consumed before makes no difference. -/
theorem agrees_of_shift {σ σ' : Session} (hk : σ.Kept)
    (h : Above (Task.Extends buffer [] p) base σ σ') :
    Agrees u base buffer.length (Shifted p) σ σ' := by
  refine agrees_of_beside (B := fun σ σ' => Above (Task.Extends buffer [] p) base σ σ' ∧ σ.Kept) ?_
    ⟨h, hk⟩
  rintro σ σ' ⟨h, hk⟩
  obtain ⟨hne, hne'⟩ := h.ne
  cases h.beside (u := u) hk with
  | on hrel => exact .inr ⟨hne, hne', hk.rel hrel⟩
  | done hs hs' ha => exact .inl (.of_step hne hne' hs hs' (agrees_of_answers ha))
  | starved hstarves =>
    -- there is nothing more for the other one either
    obtain ⟨q, hq, hs, -, hs'⟩ := stepBy_of_starves (u := u) hstarves
    refine .inl (.of_step hne hne' hs (hs' rfl) (agrees_of_answers ?_))
    exact .mk σ.store [.releaseHandle] σ.log (.answer q hq)

/-- Once the connection is closed, the next call has nothing to do. -/
theorem agrees_of_settled (hb : ∀ υ : Session, υ.tasks = base → υ.isIdle = true)
    {σ σ' : Session} (hk : σ.Kept)
    (hs : σ.Settled base) (h : Above (Task.Answers buffer.length 0) base σ σ') :
    Agrees u base buffer.length (Continued u buffer more) σ σ' := by
  -- nothing came before, so the answers are the same
  have heq : σ' = σ := by
    cases h with
    | mk s work log h =>
      cases h with
      | answer q hq => rw [Nat.zero_add]
  have hnext : ∀ {n ρ}, Returns u base σ n ρ → ∀ b m υ, Parses u ρ b m υ ↔ m = 0 ∧ υ = ρ := by
    intro n ρ hr b m υ
    refine parses_iff_of_endOfParse (hb ρ hr.tasks_eq) (hk.returns hr).owned ?_
    exact Store.parse_of_closed (s := ρ.store.holdHandle) (hs.returns hk hr) b 0
  constructor
  · intro n ρ hr
    refine ⟨((agrees_of_answers h).forth n ρ hr).1, ?_⟩
    rintro k υ ⟨m, rfl, hp⟩
    obtain ⟨rfl, rfl⟩ := (hnext hr _ _ _).1 hp
    rw [heq]
    exact hr
  · intro k υ hr
    rw [heq] at hr
    exact ⟨k, υ, hr, 0, rfl, (hnext hr _ _ _).2 ⟨rfl, rfl⟩⟩

/-- Where the octets run out, the next call goes on. -/
theorem agrees_of_starves (hb : ∀ υ : Session, υ.tasks = base → υ.isIdle = true)
    {σ σ' : Session} (hk : σ.Kept)
    (hne : σ.tasks ≠ base) (h : Starves buffer more 0 base σ σ') :
    Agrees u base buffer.length (Continued u buffer more) σ σ' := by
  have hh : σ.store.connection.held ≠ 0 := by
    cases h with
    | mk s log q =>
      rw [hk.held_eq, handlesOf_cons]
      exact Nat.ne_of_gt (Nat.lt_add_right _ Nat.zero_lt_one)
  obtain ⟨q, hq, hs, rfl, -⟩ := stepBy_of_starves (u := u) h
  have hleft : ∀ n ρ, Returns u base σ n ρ ↔ n = q ∧ ρ = ⟨σ.store.loseHandle, base, σ.log⟩ := by
    intro n ρ
    exact (returns_step hne hs).trans (returns_endOfParse hk.owned hh)
  have hk₁ : Kept ⟨σ.store.loseHandle, base, σ.log⟩ := hk.returns ((hleft q _).2 ⟨rfl, rfl⟩)
  have hcall := call?_parse (hb _ rfl) hk₁.owned (buffer.drop q ++ more)
  dsimp only at hcall
  rw [Store.holdHandle_loseHandle _ hh] at hcall
  have hright : ∀ m υ, Parses u ⟨σ.store.loseHandle, base, σ.log⟩ (buffer.drop q ++ more) m υ ↔
      Returns u base ⟨σ.store, .parse (buffer.drop q ++ more) 0 :: base, σ.log⟩ m υ := by
    intro m υ
    unfold Parses
    rw [hcall]
    simp
  have hshift : Agrees u base (buffer.drop q ++ more).length (Shifted q)
      ⟨σ.store, .parse (buffer.drop q ++ more) 0 :: base, σ.log⟩
      ⟨σ.store, .parse (buffer.drop q ++ more) (0 + q) :: base, σ.log⟩ := by
    have hmore : Task.Extends (buffer.drop q ++ more) [] q (.parse (buffer.drop q ++ more) 0)
        (.parse (buffer.drop q ++ more ++ []) (q + 0)) := .parse 0 (Nat.zero_le _)
    rw [List.append_nil, Nat.add_comm] at hmore
    exact agrees_of_shift (hk₁.call hcall (by simp)) (.mk σ.store [] σ.log hmore)
  -- the call ends here, and what the next one does the other one does as well
  constructor
  · intro n ρ hr
    obtain ⟨rfl, rfl⟩ := (hleft n ρ).1 hr
    refine ⟨hq, ?_⟩
    rintro k υ ⟨m, rfl, hp⟩
    exact (hshift.forth m υ ((hright m υ).1 hp)).2 _ _ ⟨rfl, rfl⟩
  · intro k υ hr
    obtain ⟨m, ρ, hm, rfl, rfl⟩ := hshift.back k υ hr
    exact ⟨q, _, (hleft q _).2 ⟨rfl, rfl⟩, m, rfl, (hright m _).2 hm⟩

/-- A call with less octets, and then the next call, come to what one call with all of them does. -/
theorem agrees_of_extends (hb : ∀ υ : Session, υ.tasks = base → υ.isIdle = true)
    {σ σ' : Session} (hk : σ.Kept)
    (h : Above (Task.Extends buffer more 0) base σ σ') :
    Agrees u base buffer.length (Continued u buffer more) σ σ' := by
  refine agrees_of_beside (B := fun σ σ' => Above (Task.Extends buffer more 0) base σ σ' ∧ σ.Kept) ?_
    ⟨h, hk⟩
  rintro σ σ' ⟨h, hk⟩
  obtain ⟨hne, hne'⟩ := h.ne
  cases h.beside (u := u) hk with
  | on hrel => exact .inr ⟨hne, hne', hk.rel hrel⟩
  | done hs hs' ha hsettled =>
    exact .inl (.of_step hne hne' hs hs' (agrees_of_settled hb (hk.stepBy hs) hsettled ha))
  | starved hstarves => exact .inl (agrees_of_starves hb hk hne hstarves)

/-! ## Chunks -/

variable {σ : Session}

theorem agrees_of_parse (u : Script) (hk : σ.Kept) (hi : σ.isIdle = true) (buffer more : Bytes) :
    Agrees u σ.tasks buffer.length (Continued u buffer more)
      ⟨σ.store.holdHandle, .parse buffer 0 :: σ.tasks, σ.log⟩
      ⟨σ.store.holdHandle, .parse (buffer ++ more) 0 :: σ.tasks, σ.log⟩ := by
  have hmore : Task.Extends buffer more 0 (.parse buffer 0) (.parse (buffer ++ more) 0) :=
    .parse 0 (Nat.zero_le _)
  refine agrees_of_extends (fun υ hυ => ?_) ?_ (.mk σ.store.holdHandle [] σ.log hmore)
  · rw [isIdle_congr hυ]
    exact hi
  · exact hk.call (call?_parse hi hk.owned buffer) (by simp)

theorem Parses.le_length (hk : σ.Kept) (hi : σ.isIdle = true) {n : Nat} {υ : Session}
    (h : Parses u σ buffer n υ) : n ≤ buffer.length :=
  ((agrees_of_parse u hk hi buffer []).forth n υ ((parses_iff hi hk.owned).1 h)).1

theorem parses_append_iff (hk : σ.Kept) (hi : σ.isIdle = true) {k : Nat} {υ : Session} :
    Parses u σ (buffer ++ more) k υ ↔
      ∃ n ρ, Parses u σ buffer n ρ ∧ Continued u buffer more n ρ k υ := by
  have ha := agrees_of_parse u hk hi buffer more
  rw [parses_iff hi hk.owned]
  constructor
  · intro hr
    obtain ⟨n, ρ, hn, hc⟩ := ha.back k υ hr
    exact ⟨n, ρ, (parses_iff hi hk.owned).2 hn, hc⟩
  · rintro ⟨n, ρ, hn, hc⟩
    exact (ha.forth n ρ ((parses_iff hi hk.owned).1 hn)).2 k υ hc

/-- Two chunks may as well be one. -/
theorem feeds_merge (hk : σ.Kept) (hi : σ.isIdle = true)
    {left a b : Bytes} {chunks : List Bytes} {n : Nat} {υ : Session} :
    Feeds u σ left (a :: b :: chunks) n υ ↔ Feeds u σ left ((a ++ b) :: chunks) n υ := by
  have hdrop : ∀ {n}, n ≤ (left ++ a).length → ∀ m,
      (left ++ (a ++ b)).drop (n + m) = ((left ++ a).drop n ++ b).drop m := by
    intro n hn m
    rw [← List.append_assoc, ← List.drop_drop, List.drop_append_of_le_length hn]
  constructor
  · intro h
    cases h with
    | cons h₁ h =>
      cases h with
      | cons h₂ h =>
        have hp := (parses_append_iff hk hi).2 ⟨_, _, h₁, _, rfl, h₂⟩
        rw [List.append_assoc] at hp
        rw [← hdrop (h₁.le_length hk hi)] at h
        rw [← Nat.add_assoc]
        exact .cons hp h
  · intro h
    cases h with
    | cons h₁ h =>
      rw [← List.append_assoc] at h₁
      obtain ⟨n, ρ, hn, m, rfl, hm⟩ := (parses_append_iff hk hi).1 h₁
      rw [hdrop (hn.le_length hk hi)] at h
      rw [Nat.add_assoc]
      exact .cons hn (.cons hm h)

/-- However octets are cut into chunks, whatever user code does in its callbacks: the chunks, each fed
behind what the calls before left over, come to what a single call with all octets does, with the
same log, the same store, and as many octets consumed. -/
theorem feeds_iff_parses {σ : Session} (hσ : σ.Reachable) (hi : σ.isIdle = true)
    (ho : σ.store.connection.owned ≠ 0) (u : Script) (chunks : List Bytes) (n : Nat) (υ : Session) :
    Feeds u σ [] chunks n υ ↔ Parses u σ chunks.flatten n υ := by
  have hk : σ.Kept := ⟨⟨σ.log, hσ⟩, ho⟩
  cases chunks with
  | nil =>
    rw [List.flatten_nil, parses_iff_of_endOfParse hi ho rfl]
    constructor
    · intro h
      cases h
      exact ⟨rfl, rfl⟩
    · rintro ⟨rfl, rfl⟩
      exact .nil _ _
  | cons c cs =>
    induction cs generalizing c with
    | nil =>
      rw [List.flatten_cons, List.flatten_nil, List.append_nil]
      constructor
      · intro h
        cases h with
        | cons h hr => cases hr; exact h
      · intro h
        exact .cons h (.nil υ _)
    | cons b cs ih =>
      have h := ih (c ++ b)
      rw [List.flatten_cons, List.append_assoc] at h
      rw [List.flatten_cons, List.flatten_cons]
      exact (feeds_merge hk hi).trans h

/-- User code that closes the connection as soon as it is established. -/
def closeAtOnce : Script := fun log _ =>
  match log with
  | .started .connected :: _ => .call .close
  | _ => .return .done

/-- A handshake that arrives in three pieces. -/
theorem feeds_iff_parses_handshake :
    ∃ σ υ : Session, σ.Reachable ∧ σ.tasks = [] ∧
      Feeds closeAtOnce σ [] [serverHandshake.take 10, (serverHandshake.drop 10).take 50,
        serverHandshake.drop 60] serverHandshake.length υ ∧ υ.state = .closing := by
  obtain ⟨σ, hσ, h⟩ := exists_reaches_of_play greeted (connect .standard)
    (fun σ => (σ.tasks.isEmpty, σ.store.connection.owned,
      ((σ.call? (.parse serverHandshake)).bind (finish closeAtOnce 60)).map
        fun r => (r.1, r.2.state)))
    (a := (true, 1, some (serverHandshake.length, .closing))) (by decide +kernel)
  simp only [Prod.mk.injEq, List.isEmpty_iff, Option.map_eq_some_iff, Option.bind_eq_some_iff] at h
  obtain ⟨ht, ho, ⟨n, υ⟩, ⟨τ, hτ, hf⟩, rfl, hs⟩ := h
  have hp : Parses closeAtOnce σ serverHandshake serverHandshake.length υ :=
    ⟨τ, hτ, by rw [ht]; exact returns_of_finish hf⟩
  refine ⟨σ, υ, ⟨.standard, hσ⟩, ht, ?_, hs⟩
  refine (feeds_iff_parses ⟨.standard, hσ⟩ (by rw [isIdle, ht]) (by omega) _ _ _ _).2 ?_
  have hjoin : [serverHandshake.take 10, (serverHandshake.drop 10).take 50,
      serverHandshake.drop 60].flatten = serverHandshake := by decide +kernel
  rw [hjoin]
  exact hp

end Session

end AmqpSession
