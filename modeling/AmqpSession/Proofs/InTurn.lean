/-
Frames are handled one at a time as long as no callback parses. The work on a frame then never waits
below that on another (`InTurn`), so what is left of an answer finds the channel as it was left.
-/
import AmqpSession.Proofs.Apart
import AmqpSession.Proofs.Trail

namespace AmqpSession

open Wire

/-! ## The order on the stack -/

/-- The task goes on with a buffer. -/
@[simp] def Task.isReading : Task → Bool
  | .parse _ _ | .handled _ _ _ => true
  | _ => false

/-- The task is what is left of the answer to a frame. -/
@[simp] def Task.isAnswering : Task → Bool
  | .tuned _ | .evict _ _ | .channelClosedByPeer _ _ | .flowReply _ _ => true
  | _ => false

/-- Neither of the two. -/
def Task.isOther (t : Task) : Prop := t.isReading = false ∧ t.isAnswering = false

/-- Nothing of another frame waits below a task that goes on with a buffer, and below what is left of
an answer waits only the end of the same frame. -/
def Task.Admits (t t' : Task) : Prop :=
  (t.isReading = true → t'.isOther) ∧ (t.isAnswering = true → t'.isAnswering = false)

/-- Frames are handled one after the other. -/
def InTurn (tasks : List Task) : Prop := tasks.Pairwise Task.Admits

namespace Task

theorem isReading_plain (t : Task) : t.plain.isReading = t.isReading := by cases t <;> rfl

theorem isAnswering_plain (t : Task) : t.plain.isAnswering = t.isAnswering := by cases t <;> rfl

theorem admits_plain (t t' : Task) : t.plain.Admits t'.plain ↔ t.Admits t' := by
  simp only [Admits, isOther, isReading_plain, isAnswering_plain]

theorem isOther_of_isCommon {t : Task} (h : t.isCommon = true) : t.isOther := by
  cases t <;> first | exact ⟨rfl, rfl⟩ | cases h

theorem isOther.admits {t : Task} (h : t.isOther) (t' : Task) : t.Admits t' :=
  ⟨fun hr => (Bool.false_ne_true (h.1.symm.trans hr)).elim,
    fun ha => (Bool.false_ne_true (h.2.symm.trans ha)).elim⟩

theorem isOther.admitted {t' : Task} (h : t'.isOther) (t : Task) : t.Admits t' :=
  ⟨fun _ => h, fun _ => h.2⟩

end Task

namespace InTurn

variable {tasks tasks' : List Task}

theorem of_map_plain (h : InTurn tasks) (hm : tasks'.map Task.plain = tasks.map Task.plain) :
    InTurn tasks' := by
  have hiff : ∀ l : List Task, InTurn (l.map Task.plain) ↔ InTurn l := fun l =>
    List.pairwise_map.trans (iff_of_eq (congrArg (List.Pairwise · l)
      (funext₂ fun t t' => propext (t.admits_plain t'))))
  rw [← hiff, hm, hiff]
  exact h

theorem of_isOther (h : ∀ t ∈ tasks, t.isOther) : InTurn tasks := by
  induction tasks with
  | nil => exact .nil
  | cons t tasks ih =>
    obtain ⟨ht, hrest⟩ := List.forall_mem_cons.1 h
    exact .cons (fun t' _ => ht.admits t') (ih hrest)

/-- Work with nothing to do with frames, and then one task. -/
theorem snoc (h : InTurn tasks) {t : Task} (ht : ∀ t' ∈ tasks, t'.Admits t) : InTurn (tasks ++ [t]) :=
  List.pairwise_append.2 ⟨h, List.pairwise_singleton _ _, fun t' ht' _ hlast =>
    List.mem_singleton.1 hlast ▸ ht t' ht'⟩

theorem one (tasks : List Task) (h : ∀ t ∈ tasks, t.isOther) (t : Task) : InTurn (tasks ++ [t]) :=
  (of_isOther h).snoc fun t' ht' => (h t' ht').admits t

end InTurn

/-! ## Received frames -/

/-- At most one answer is left over. -/
def AnswersOnce (tasks : List Task) : Prop :=
  (∀ t ∈ tasks, t.isReading = false) ∧ InTurn tasks

namespace AnswersOnce

theorem of_isOther {tasks : List Task} (h : ∀ t ∈ tasks, t.isOther) : AnswersOnce tasks :=
  ⟨fun t ht => (h t ht).1, .of_isOther h⟩

theorem one (tasks : List Task) (h : ∀ t ∈ tasks, t.isOther) {t : Task} (ht : t.isReading = false) :
    AnswersOnce (tasks ++ [t]) := by
  refine ⟨fun t' ht' => ?_, .one tasks h t⟩
  rcases List.mem_append.1 ht' with ht' | ht'
  · exact (h t' ht').1
  · rwa [List.mem_singleton.1 ht']

end AnswersOnce

namespace Store

theorem send_isOther {s : Store} {f : Frame} {n : Next} (h : s.send f = .ok n) :
    ∀ t ∈ n.tasks, t.isOther := fun t ht => Task.isOther_of_isCommon (send_common h t ht)

theorem OnConnection.answersOnce {s : Store} {body : Body} {n : Next} (h : s.OnConnection body n) :
    AnswersOnce n.tasks := by
  cases h with
  | heartbeat | fault => exact .of_isOther (List.forall_mem_nil _)
  | offered =>
    exact .of_isOther fun t ht =>
      (reply_tasks _ _ _ t ht).elim Task.isOther_of_isCommon fun h => by cases h
  | tuned => exact .one [.user _] (by simp [Task.isOther]) rfl
  | opened | confirmed => exact .of_isOther (by simp [Next.follow, Task.isOther])
  | openedToClose => exact .of_isOther (by simp [sendClose, Next.follow, Next.andThen, Task.isOther])
  | closed reason => exact .of_isOther (by simp [receiveClose, Next.start, Task.isOther])
  | blocked | unblocked => exact .of_isOther (by simp [Next.start, Task.isOther])

theorem OnChannel.answersOnce {s : Store} {c : Nat} {body : Body} {n : Next}
    (h : s.OnChannel c body n) : AnswersOnce n.tasks := by
  cases h with
  | closes reason =>
    match s.reply _ _, s.replies (.ofChannel (s.channel c).id .closeOk)
      [.channelClosedByPeer c reason.replyText] with
    | _, .sent hm => exact .one _ (send_isOther hm) rfl
    | _, .unsent _ => exact .of_isOther (List.forall_mem_nil _)
  | flow active => exact .one [.user _] (by simp [Task.isOther]) rfl
  | opened | confirmed | content => exact .of_isOther (by simp [Next.start, Task.isOther])
  | passedOver | fault => exact .of_isOther (List.forall_mem_nil _)

/-- The end of the frame comes after all that is left of its answer. -/
theorem receive_inTurn (s : Store) (f : Frame) (p : Parsing) : InTurn (s.receive f p).tasks := by
  obtain ⟨e, n, hn, hr⟩ := s.receive_takesIn f p
  have h : AnswersOnce n.tasks := by
    cases hn with
    | connection _ h => exact h.answersOnce
    | ignored => exact .of_isOther (List.forall_mem_nil _)
    | channel _ _ _ h => exact h.answersOnce
    | custom => exact .of_isOther (by simp [Next.start, Task.isOther])
  rw [hr]
  exact h.2.snoc fun t ht => ⟨fun hr => (Bool.false_ne_true ((h.1 t ht).symm.trans hr)).elim, fun _ => rfl⟩

theorem report_isOther (s : Store) (v : Violation) (processed : Nat) :
    ∀ t ∈ (s.report v processed).tasks, t.isOther :=
  match s.report v processed, s.reportsFault v processed with
  | _, .late _ => by simp [Next.follow, endOfParse, Task.isOther]
  | _, .shut _ => by simp [Next.follow, endOfParse, Task.isOther]

theorem parse_inTurn (s : Store) (buffer : Bytes) (processed : Nat) :
    InTurn (s.parse buffer processed).tasks :=
  match s.parse buffer processed, s.parsesNext buffer processed with
  | _, .ended => .of_isOther (by simp [Next.follow, endOfParse, Task.isOther])
  | _, .violated _ _ _ => .of_isOther (report_isOther s _ _)
  | _, .received _ _ _ => receive_inTurn s _ _

theorem evictNext_inTurn (s : Store) (surplus : List (UInt16 × EndpointRef)) (limits : Tune) :
    InTurn (s.evictNext surplus limits).tasks :=
  match surplus, s.evictNext surplus limits, s.evictsNext surplus limits with
  | _, _, .done => .of_isOther fun t ht =>
      (reply_tasks _ _ _ t ht).elim Task.isOther_of_isCommon fun h => by
        rw [List.mem_singleton.1 h]
        exact ⟨rfl, rfl⟩
  | _, _, .rejected id (e := e) rest _ => by
    have htasks : ∀ t ∈ (((s.discard id).1.hold e).rejectEndpoint e).tasks ++ [.release e],
        t.isOther := by
      cases e <;> simp [rejectEndpoint, Next.start, Task.isOther]
    show InTurn (_ ++ ([.release e] ++ [.evict rest limits]))
    rw [← List.append_assoc]
    exact .one _ htasks _
  | _, _, .gone _ _ _ => .one [] (by simp) _

end Store

/-! ## Tasks and calls -/

open Store

/-- What a task leaves of frames is of the frame that it served itself. -/
theorem Task.LeadsTo.serves {t t' : Task} {k k' : Connection} (h : t.LeadsTo k k' t')
    (hp : ∀ buffer processed, t ≠ .parse buffer processed) :
    (t'.isReading = true → t.isReading = true) ∧ (t'.isAnswering = true → t.isAnswering = true) := by
  unfold LeadsTo at h
  split at h <;>
    grind [Connection.Reports, Connection.TearsDown, Connection.Closes, Task.isReading, Task.isAnswering]

theorem Task.run_inTurn {t : Task} {s : Store} {n : Next} (h : t.run s = some n) : InTurn n.tasks := by
  have others : (∀ buffer processed, t ≠ .parse buffer processed) → t.isOther → InTurn n.tasks := by
    intro hp ht
    refine .of_isOther fun t' ht' => ?_
    rcases Task.run_tasks hp h t' ht' with hc | hl
    · exact isOther_of_isCommon hc
    · obtain ⟨hr, ha⟩ := hl.serves hp
      rw [Task.isOther, ← Bool.not_eq_true, ← Bool.not_eq_true]
      exact ⟨fun h => Bool.false_ne_true (ht.1.symm.trans (hr h)),
        fun h => Bool.false_ne_true (ht.2.symm.trans (ha h))⟩
  cases t with
  | parse buffer processed => cases h; exact parse_inTurn s buffer processed
  | handled e p fault =>
    cases e with
    | some e => cases h; exact .one [.release e] (by simp [Task.isOther]) _
    | none =>
      cases fault with
      | none => cases h; exact .one [] (by simp) _
      | some v => cases h; exact .of_isOther (report_isOther s v _)
  | tuned limits =>
    cases h
    split
    · exact .one [] (by simp) _
    · exact .nil
  | evict surplus limits =>
    cases h
    split
    · exact evictNext_inTurn s surplus limits
    · exact .nil
  | channelClosedByPeer c text => cases h; exact .of_isOther (by simp [Next.start, isOther])
  | flowReply c active =>
    cases h
    split
    · refine .of_isOther fun t ht => (reply_tasks _ _ _ t ht).elim isOther_of_isCommon ?_
      simp
    · exact .nil
  | _ => exact others (by simp) ⟨rfl, rfl⟩

namespace Session

/-- No call but one to parse has to do with frames. -/
theorem Call.run_isOther {c : Call} (s : Store) (hp : ∀ buffer, c ≠ .parse buffer) :
    ∀ t ∈ (c.run s).tasks, t.isOther := by
  have append : ∀ {work tasks : List Task}, (∀ t ∈ work, t.isOther) → (∀ t ∈ tasks, t.isOther) →
      ∀ t ∈ work ++ tasks, t.isOther := fun hw ht t h => (List.mem_append.1 h).elim (hw t) (ht t)
  have closes : ∀ {k : Connection} {t : Task}, k.Closes t → t.isOther := by
    rintro k t ⟨-, rfl | ⟨es, rfl⟩⟩ <;> exact ⟨rfl, rfl⟩
  have common : ∀ {tasks : List Task}, (∀ t ∈ tasks, t.isCommon = true) → ∀ t ∈ tasks, t.isOther :=
    fun h t ht => Task.isOther_of_isCommon (h t ht)
  cases c with
  | parse buffer => exact absurd rfl (hp buffer)
  | send f =>
    intro t ht
    obtain h | ⟨_, rfl⟩ | h := tryOnConnection_tasks (s := s) .sent (fun m hm => send_isOther hm) t ht
    · exact Task.isOther_of_isCommon h
    · exact ⟨rfl, rfl⟩
    · exact h
  | close =>
    intro t ht
    obtain h | ⟨_, rfl⟩ | h := tryOnConnection_tasks (s := s) .closed (fun m hm => close_tasks hm) t ht
    · exact Task.isOther_of_isCommon h
    · exact ⟨rfl, rfl⟩
    · exact closes h
  | destroy =>
    refine append (fun t ht => ?_) (by simp [Task.isOther])
    rcases destroy_tasks _ t ht with ⟨-, h | rfl | rfl⟩
    · exact closes h
    · exact ⟨rfl, rfl⟩
    · exact ⟨rfl, rfl⟩
  | transportClosed =>
    refine append (fun t ht => ?_) (by simp [Task.isOther])
    obtain ⟨-, rfl | ⟨es, rfl⟩⟩ := transportClosed_tasks _ t ht <;> exact ⟨rfl, rfl⟩
  | openChannel =>
    refine append (fun t ht => ?_) (by simp [Task.isOther])
    rcases openChannel_tasks _ t ht with h | rfl
    · exact Task.isOther_of_isCommon h
    · exact ⟨rfl, rfl⟩
  | sendOn c body =>
    refine append (common ?_) (by simp [Task.isOther])
    split
    · rename_i n h; exact sendOn_common h
    · simp [Next.only]
  | closeChannel c => exact append (common (closeChannel_common _ c)) (by simp [Task.isOther])
  | dropChannel c => exact append (common (whenLost_common _ _)) (by simp [Task.isOther])
  | register | unregister | cloneHandle | dropHandle | cloneChannel | newEndpoint | setEndpointId
    | dropEndpoint => simp [Call.run, Next.follow, Task.isOther]

/-- User code parses only where no work is left. -/
def Moment.ParsesAtRest (m : Moment) : Prop :=
  ∀ buffer, m.act = some (.call (.parse buffer)) → m.before.tasks = []

instance (m : Moment) : Decidable m.ParsesAtRest :=
  decidable_of_iff ((match m.act with
    | some (.call (.parse _)) => m.before.tasks.isEmpty
    | _ => true) = true) <| by
    unfold Moment.ParsesAtRest
    split
    · rename_i buffer ha
      rw [ha, List.isEmpty_iff]
      exact ⟨fun h _ _ => h, fun h => h buffer rfl⟩
    · rename_i hno
      exact ⟨fun _ buffer ha => absurd ha (hno buffer), fun _ => rfl⟩

/-- Frames are handled one after the other, if no callback parses. -/
theorem InTurn.next? {σ τ : Session} {a : Option Act} (h : InTurn σ.tasks)
    (hs : σ.next? a = some τ) (hp : Moment.ParsesAtRest ⟨σ, a, τ⟩) : InTurn τ.tasks := by
  obtain ⟨t, rest, n, rfl, ht, hn, rfl⟩ | ⟨c, rfl, -, -, rfl⟩ | ⟨r, cb, rest, rfl, ht, rfl⟩ :=
    next?_cases hs
  · rw [ht] at h
    obtain ⟨htop, hrest⟩ := List.pairwise_cons.1 h
    have hplain : (t :: below n rest).map Task.plain = (t :: rest).map Task.plain := by
      rw [List.map_cons, List.map_cons, map_plain_below]
    have hbelow := List.pairwise_cons.1 (h.of_map_plain hplain)
    refine List.pairwise_append.2 ⟨Task.run_inTurn hn, hbelow.2, fun t₁ ht₁ t₂ ht₂ => ?_⟩
    obtain ⟨hr, ha⟩ := hbelow.1 t₂ ht₂
    by_cases hparse : ∃ buffer processed, t = .parse buffer processed
    · obtain ⟨buffer, processed, rfl⟩ := hparse
      exact (hr rfl).admitted t₁
    · have hparse' : ∀ buffer processed, t ≠ .parse buffer processed := fun b p h => hparse ⟨b, p, h⟩
      rcases Task.run_tasks hparse' hn t₁ ht₁ with hc | hl
      · exact (Task.isOther_of_isCommon hc).admits t₂
      · obtain ⟨hr', ha'⟩ := hl.serves hparse'
        exact ⟨fun h => hr (hr' h), fun h => ha (ha' h)⟩
  · have hbelow := h.of_map_plain (map_plain_below (c.run σ.store) σ.tasks)
    by_cases hparse : ∃ buffer, c = .parse buffer
    · obtain ⟨buffer, rfl⟩ := hparse
      have hrest : σ.tasks = [] := hp buffer rfl
      show InTurn (.parse buffer 0 :: σ.tasks)
      rw [hrest]
      exact List.pairwise_singleton _ _
    · have hother := Call.run_isOther σ.store fun buffer h => hparse ⟨buffer, h⟩
      exact List.pairwise_append.2 ⟨InTurn.of_isOther hother, hbelow, fun t₁ ht₁ t₂ _ =>
        (hother t₁ ht₁).admits t₂⟩
  · rw [ht] at h
    exact InTurn.of_map_plain (List.pairwise_cons.1 h).2 (map_plain_answerWith cb r rest)

theorem inTurn_connect (o : Options) : InTurn (connect o).tasks :=
  .of_isOther (connect_tasks o (fun _ => Task.isOther_of_isCommon) ⟨rfl, rfl⟩ ⟨rfl, rfl⟩)

end Session

end AmqpSession
