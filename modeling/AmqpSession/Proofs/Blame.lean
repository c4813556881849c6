/-
Who is to blame for an error that user code is told of. An error goes back to a frame that a call
to parse is still handling (`error_explained`): either the peer should not have sent it
(`PeersDoing`), or this side cannot answer it (`OwnDoing`), mostly because user code that ran before
the answer closed the connection. The stack is what remembers the frame: every task that may find a
fault stands above the end of the frame's handling (`Accounted`).
-/
import AmqpSession.Proofs.Reception

namespace AmqpSession

open Wire

/-! ## Explanations -/

/-- The task answers a frame after user code ran, or goes on with the answer. -/
def Task.isReply : Task → Bool
  | .evict [] _ | .requestHost | .flowReply _ _ => true
  | _ => false

namespace Session

/-! ## Frames being handled -/

/-- A call to parse with so many tasks below it is on the stack, and is not about to take up a
frame. -/
def Busy (height : Nat) (σ : Session) : Prop :=
  height < σ.tasks.length ∧
    ∀ buffer processed rest, σ.tasks = .parse buffer processed :: rest → rest.length ≠ height

/-- A run in which such a call handles one frame. -/
def StaysBusy (height : Nat) : Session → Session → Prop :=
  Relation.ReflTransGen fun σ τ => Step σ τ ∧ Busy height τ

/-- In a run from a new connection, a call to parse takes up its buffer at σ₀, above so many tasks
of other work, and has not gone on to another frame by σ. -/
structure Handles (o : Options) (σ₀ : Session) (buffer : Bytes) (height : Nat) (σ : Session) : Prop where
  reaches : Reaches (connect o) σ₀
  parses : ∃ processed rest, σ₀.tasks = .parse buffer processed :: rest ∧ rest.length = height
  stays : StaysBusy height σ₀ σ

/-- The frame at the front of the buffer. -/
def Takes (σ₀ : Session) (buffer : Bytes) (f : Frame) : Prop :=
  ∃ size, Frame.decode buffer σ₀.store.connection.maxFrameSize = .ok (some ⟨f, size⟩)

/-- The endpoint of user code that gets the frame returns with a violation. -/
def Refuses (height : Nat) (σ₀ : Session) (n : Nat) (f : Frame) (v : Violation) (σ : Session) : Prop :=
  ∃ σ₁ σ₂ p below, StaysBusy height σ₀ σ₁ ∧
    σ₁.tasks = .user (.endpointFrame n f) :: .handled (some (.custom n)) p none :: below ∧
    below.length = height ∧ σ₁.return? (.refuse v) = some σ₂ ∧ StaysBusy height σ₂ σ

/-- The frame is answered on a connection that is closing or closed, and not destroyed. -/
def RepliesLate (height : Nat) (σ₀ σ : Session) : Prop :=
  ∃ σ₁ t e p below, StaysBusy height σ₀ σ₁ ∧ σ₁.tasks = t :: .handled e p none :: below ∧
    below.length = height ∧ t.isReply = true ∧ σ₁.store.connection.alive = true ∧
    ¬ σ₁.store.connection.isOpen ∧ StaysBusy height σ₁ σ

/-- What the peer did that user code is told of in these words. -/
inductive PeersDoing (σ₀ : Session) (buffer : Bytes) (height : Nat) (σ : Session) : String → Prop where
  | undecodable (fault : DecodeFault)
      (h : Frame.decode buffer σ₀.store.connection.maxFrameSize = .error fault) :
      PeersDoing σ₀ buffer height σ fault.message
  | outOfPlace (f : Frame) (hf : Takes σ₀ buffer f) (h : σ₀.store.admits f = false) (text : String) :
      PeersDoing σ₀ buffer height σ text
  | unacceptable (offer : Start) (hf : Takes σ₀ buffer (.ofConnection (.start offer)))
      (h : offer.isAcceptable = false) (text : String) : PeersDoing σ₀ buffer height σ text
  /-- The endpoint's own words. -/
  | refused (f : Frame) (n : Nat) (v : Violation) (hf : Takes σ₀ buffer f)
      (he : σ₀.store.addressee? f = some (.custom n)) (h : Refuses height σ₀ n f v σ) :
      PeersDoing σ₀ buffer height σ v.message
  | closed (reason : Close) (hf : Takes σ₀ buffer (.ofConnection (.close reason)))
      (h : reason.isSuccess = false) : PeersDoing σ₀ buffer height σ reason.replyText

/-- Why this side cannot answer the frame, in the words that user code is told. -/
inductive OwnDoing (σ₀ : Session) (buffer : Bytes) (height : Nat) (σ : Session) : String → Prop where
  | late (f : Frame) (hf : Takes σ₀ buffer f) (hp : σ₀.store.admits f = true)
      (ha : f.body.isAnsweredLater = true) (h : RepliesLate height σ₀ σ) :
      OwnDoing σ₀ buffer height σ SendError.closed.message
  /-- The login makes the answer to an offer too long for a frame. -/
  | unsendable (offer : Start) (hf : Takes σ₀ buffer (.ofConnection (.start offer)))
      (ha : offer.isAcceptable = true) (fault : EncodeFault)
      (h : (Frame.ofConnection (.startOk σ₀.store.startOk)).toWire.result = .error fault) :
      OwnDoing σ₀ buffer height σ fault.message

/-- Why user code is told of an error. -/
def Explains (σ₀ : Session) (buffer : Bytes) (height : Nat) (σ : Session) (text : String) : Prop :=
  PeersDoing σ₀ buffer height σ text ∨ OwnDoing σ₀ buffer height σ text

theorem busy_of_lt {height : Nat} {σ : Session} (h : height + 1 < σ.tasks.length) : Busy height σ := by
  refine ⟨by omega, fun buffer processed rest ht hl => ?_⟩
  rw [ht, List.length_cons] at h
  omega

theorem busy_of_suffix {σ : Session} {t : Task} {below : List Task} (h : t :: below <:+ σ.tasks)
    (ht : ∀ buffer processed, t ≠ .parse buffer processed) : Busy below.length σ := by
  have hle := h.length_le
  rw [List.length_cons] at hle
  refine ⟨hle, fun buffer processed rest hrest hl => ht buffer processed ?_⟩
  obtain ⟨above, habove⟩ := h
  -- the task at this height is the one on top
  cases above with
  | nil =>
    rw [List.nil_append, hrest] at habove
    exact (List.cons.inj habove).1
  | cons t' above =>
    have hlen := congrArg List.length habove
    rw [hrest] at hlen
    simp only [List.length_append, List.length_cons] at hlen
    omega

section

variable {o : Options} {σ₀ σ τ : Session} {buffer : Bytes} {height : Nat}

theorem Handles.step (h : Handles o σ₀ buffer height σ) (hs : Step σ τ) (hb : Busy height τ) :
    Handles o σ₀ buffer height τ :=
  ⟨h.reaches, h.parses, h.stays.tail ⟨hs, hb⟩⟩

theorem Explains.step {text : String} (h : Explains σ₀ buffer height σ text) (hs : Step σ τ)
    (hb : Busy height τ) : Explains σ₀ buffer height τ text := by
  rcases h with h | h
  · cases h with
    | undecodable fault h => exact .inl (.undecodable fault h)
    | outOfPlace f hf h => exact .inl (.outOfPlace f hf h _)
    | unacceptable offer hf h => exact .inl (.unacceptable offer hf h _)
    | refused f n v hf he h =>
      obtain ⟨σ₁, σ₂, p, below, h₁, ht, hl, hr, h₂⟩ := h
      exact .inl (.refused f n v hf he ⟨σ₁, σ₂, p, below, h₁, ht, hl, hr, h₂.tail ⟨hs, hb⟩⟩)
    | closed reason hf h => exact .inl (.closed reason hf h)
  · cases h with
    | late f hf hp ha h =>
      obtain ⟨σ₁, t, e, p, below, h₁, ht, hl, hr, halive, hopen, h₂⟩ := h
      exact .inr (.late f hf hp ha
        ⟨σ₁, t, e, p, below, h₁, ht, hl, hr, halive, hopen, h₂.tail ⟨hs, hb⟩⟩)
    | unsendable offer hf ha fault h => exact .inr (.unsendable offer hf ha fault h)

end

end Session

/-! ## What the stack accounts for -/

/-- What a task that serves a frame goes by, with the endpoint that the frame is handled for. -/
def Task.Serves (t : Task) (s : Store) (e : Option EndpointRef) (f : Frame) : Prop :=
  match t with
  | .user (.endpointFrame n g) => g = f ∧ e = some (.custom n) ∧ s.addressee? f = some (.custom n)
  | .closedByPeer reason => f = .ofConnection (.close reason)
  | _ => s.admits f = true ∧ f.body.isAnsweredLater = true

namespace Session

/-- The task stands right above the one that ends the handling of a frame, and serves that frame. -/
def Serving (o : Options) (σ : Session) (t : Task) (below : List Task) : Prop :=
  ∃ σ₀ e p rest f, below = .handled e p none :: rest ∧ Handles o σ₀ p.buffer rest.length σ ∧
    Takes σ₀ p.buffer f ∧ t.Serves σ₀.store e f

/-- A frame with a fault is to blame for it, and so is the frame behind a notice of an error. -/
def Accounts (o : Options) (σ : Session) (t : Task) (below : List Task) : Prop :=
  match t with
  | .handled _ p fault => ∃ σ₀, Handles o σ₀ p.buffer below.length σ ∧
      ∀ v, fault = some v → Explains σ₀ p.buffer below.length σ v.message
  | .notify (.error text) => ∃ σ₀ buffer height, below.length = height + 2 ∧
      Handles o σ₀ buffer height σ ∧ Explains σ₀ buffer height σ text
  | .notifyAlive (.error _) => False
  | t => t.isServing = true → Serving o σ t below

/-- Every task accounts for what it serves. -/
def Accounted (o : Options) (σ : Session) : List Task → Prop
  | [] => True
  | t :: below => Accounts o σ t below ∧ Accounted o σ below

section

variable {o : Options} {σ τ : Session}

theorem accounts_of_aside {t : Task} (h : t.isServing = false) (below : List Task) :
    Accounts o σ t below := by
  have none : ∀ {P : Prop}, t.isServing = true → P := fun ht => by rw [h] at ht; cases ht
  unfold Accounts
  split
  · cases h
  · cases h
  · cases h
  · exact none

theorem Accounted.append_aside {tasks below : List Task} (h : ∀ t ∈ tasks, t.isServing = false)
    (hb : Accounted o σ below) : Accounted o σ (tasks ++ below) := by
  induction tasks with
  | nil => exact hb
  | cons t tasks ih =>
    obtain ⟨ht, htasks⟩ := List.forall_mem_cons.1 h
    exact ⟨accounts_of_aside ht _, ih htasks⟩

theorem Serving.step {t : Task} {below : List Task} (h : Serving o σ t below) (hs : Step σ τ)
    (hsuf : t :: below <:+ τ.tasks) : Serving o τ t below := by
  obtain ⟨σ₀, e, p, rest, f, rfl, hh, hf, ht⟩ := h
  have hle := hsuf.length_le
  simp only [List.length_cons] at hle
  exact ⟨σ₀, e, p, rest, f, rfl, hh.step hs (busy_of_lt (by omega)), hf, ht⟩

theorem Accounts.step {t : Task} {below : List Task} (h : Accounts o σ t below) (hs : Step σ τ)
    (hsuf : t :: below <:+ τ.tasks) : Accounts o τ t below := by
  unfold Accounts at h ⊢
  split
  · obtain ⟨σ₀, hh, hx⟩ := h
    have hb := busy_of_suffix hsuf (by simp)
    exact ⟨σ₀, hh.step hs hb, fun v hv => (hx v hv).step hs hb⟩
  · obtain ⟨σ₀, buffer, height, hl, hh, hx⟩ := h
    have hle := hsuf.length_le
    rw [List.length_cons] at hle
    have hb : Busy height τ := busy_of_lt (by omega)
    exact ⟨σ₀, buffer, height, hl, hh.step hs hb, hx.step hs hb⟩
  · exact h
  · rename_i hhandled herror halive
    split at h
    · exact absurd rfl (hhandled _ _ _)
    · exact absurd rfl (herror _)
    · exact absurd rfl (halive _)
    · exact fun ht => (h ht).step hs hsuf

theorem Accounted.step {tasks : List Task} (h : Accounted o σ tasks) (hs : Step σ τ)
    (hsuf : tasks <:+ τ.tasks) : Accounted o τ tasks := by
  induction tasks with
  | nil => trivial
  | cons t below ih => exact ⟨h.1.step hs hsuf, ih h.2 ((List.suffix_cons t below).trans hsuf)⟩

/-! ## One step -/

/-- The frame is reported, and the call that took it up ends. -/
theorem accounted_report {σ₀ : Session} {s : Store} {v : Violation} {processed : Nat}
    {buffer : Bytes} {rest : List Task} (hτ : τ.tasks = (s.report v processed).tasks ++ rest)
    (hb : Accounted o τ rest) (hh : Busy rest.length τ → Handles o σ₀ buffer rest.length τ)
    (hx : Busy rest.length τ → Explains σ₀ buffer rest.length τ v.message) :
    Accounted o τ τ.tasks := by
  have hbusy : Busy rest.length τ := by
    refine busy_of_lt ?_
    rw [hτ, List.length_append]
    have hlen : 2 ≤ (s.report v processed).tasks.length := by
      match s.report v processed, s.reportsFault v processed with
      | _, .late _ | _, .shut _ => simp [Next.follow, Store.endOfParse]
    omega
  have haside : Accounted o τ (Store.endOfParse processed ++ rest) :=
    Accounted.append_aside (Store.endOfParse_isAside processed) hb
  rw [hτ]
  match s.report v processed, s.reportsFault v processed with
  | _, .late _ => exact haside
  | _, .shut _ =>
    refine ⟨accounts_of_aside rfl _, ?_, haside⟩
    exact ⟨σ₀, buffer, rest.length, by simp [Store.endOfParse], hh hbusy, hx hbusy⟩

/-- An answer goes out, or it comes too late. -/
theorem accounted_reply {t : Task} {rest tasks : List Task} {f : Frame} {octets : Bytes}
    (hw : f.toWire.result = .ok octets) (ht : σ.tasks = t :: rest) (hreply : t.isReply = true)
    (ha : σ.store.connection.alive = true) (hserving : Serving o σ t rest)
    (hb : Accounted o σ rest) (hs : Step σ (proceed (σ.store.reply f tasks) σ.log rest))
    (hmore : ∀ τ, Step σ τ → tasks ++ rest <:+ τ.tasks → Accounted o τ (tasks ++ rest)) :
    Accounted o (proceed (σ.store.reply f tasks) σ.log rest)
      (proceed (σ.store.reply f tasks) σ.log rest).tasks := by
  rcases σ.store.reply_cases hw tasks with ⟨sent, hsent, haside, hfault⟩ | ⟨hopen, hlate⟩
  · have hτ : (proceed (σ.store.reply f tasks) σ.log rest).tasks = sent ++ (tasks ++ rest) := by
      rw [proceed_tasks_of_fault_none hfault, hsent, List.append_assoc]
    rw [hτ]
    refine Accounted.append_aside haside (hmore _ hs ?_)
    rw [hτ]
    exact List.suffix_append _ _
  · -- the answer is refused, and the task that ends the handling of the frame takes the fault
    obtain ⟨σ₀, e, p, rest₀, g, rfl, hh, hg, hserves⟩ := hserving
    have hp : σ₀.store.admits g = true ∧ g.body.isAnsweredLater = true := by
      cases t <;> first | exact hserves | cases hreply
    rw [hlate] at hs ⊢
    generalize hdef : proceed (Next.refuse σ.store (.send .closed)) σ.log (.handled e p none :: rest₀) = τ
      at hs ⊢
    have hτ : τ.tasks = .handled e p (some (.send .closed)) :: rest₀ := by rw [← hdef]; rfl
    have hsuf : .handled e p (some (.send .closed)) :: rest₀ <:+ τ.tasks :=
      hτ.symm ▸ List.suffix_refl _
    have hbusy : Busy rest₀.length τ := busy_of_suffix hsuf (by simp)
    rw [hτ]
    refine ⟨⟨σ₀, hh.step hs hbusy, ?_⟩, hb.2.step hs ?_⟩
    · rintro v ⟨⟩
      exact .inr (.late g hg hp.1 hp.2
        ⟨σ, t, e, p, rest₀, hh.stays, ht, rfl, hreply, ha, hopen, .single ⟨hs, hbusy⟩⟩)
    · rw [hτ]
      exact List.suffix_cons _ _

/-- A task that serves a frame makes way for another one that does. -/
theorem Serving.pass {t t' : Task} {rest : List Task} (h : Serving o σ t rest)
    (ht : ∀ s e f, t.Serves s e f → t'.Serves s e f) (hs : Step σ τ)
    (hsuf : t' :: rest <:+ τ.tasks) : Serving o τ t' rest := by
  obtain ⟨σ₀, e, p, rest, f, rfl, hh, hf, hserves⟩ := h
  exact Serving.step ⟨σ₀, e, p, rest, f, rfl, hh, hf, ht _ _ _ hserves⟩ hs hsuf

/-- A frame comes off the buffer, or the call ends. -/
theorem accounted_parse {buffer : Bytes} {processed : Nat} {rest : List Task}
    (hσ : Reaches (connect o) σ) (ht : σ.tasks = .parse buffer processed :: rest)
    (hb : Accounted o σ rest)
    (hs : Step σ (proceed (σ.store.parse buffer processed) σ.log rest)) :
    Accounted o (proceed (σ.store.parse buffer processed) σ.log rest)
      (proceed (σ.store.parse buffer processed) σ.log rest).tasks := by
  generalize hdef : proceed (σ.store.parse buffer processed) σ.log rest = τ at hs ⊢
  have hτ : τ.tasks =
      (σ.store.parse buffer processed).tasks ++ below (σ.store.parse buffer processed) rest := by
    rw [← hdef, proceed_tasks]
  have handles : Busy rest.length τ → Handles o σ buffer rest.length τ :=
    fun hbusy => ⟨hσ, ⟨processed, rest, ht, rfl⟩, .single ⟨hs, hbusy⟩⟩
  -- work without a fault leaves what waits as it is
  have unchanged : ∀ {n : Next}, σ.store.parse buffer processed = n → n.fault = none →
      τ.tasks = n.tasks ++ rest ∧ Accounted o τ rest := by
    rintro n rfl hfault
    rw [below, hfault] at hτ
    exact ⟨hτ, hb.step hs (by rw [hτ]; exact List.suffix_append _ _)⟩
  by_cases hdone : (buffer.isEmpty || !σ.store.connection.alive ||
      σ.store.connection.state = .closed) = true
  · obtain ⟨hτ, hrest⟩ := unchanged (n := .follow σ.store (Store.endOfParse processed))
      (by rw [Store.parse, if_pos hdone]) rfl
    rw [hτ]
    exact Accounted.append_aside (Store.endOfParse_isAside processed) hrest
  · cases hd : Frame.decode buffer σ.store.connection.maxFrameSize with
    | error fault =>
      obtain ⟨hτ, hrest⟩ := unchanged (n := σ.store.report (.frame fault) processed)
        (by rw [Store.parse, if_neg hdone, hd]) (Store.fault_report _ _ _)
      exact accounted_report hτ hrest handles fun _ => .inl (.undecodable fault hd)
    | ok r =>
      cases r with
      | none =>
        obtain ⟨hτ, hrest⟩ := unchanged (n := .follow σ.store (Store.endOfParse processed))
          (by rw [Store.parse, if_neg hdone, hd]) rfl
        rw [hτ]
        exact Accounted.append_aside (Store.endOfParse_isAside processed) hrest
      | some r =>
        obtain ⟨f, size⟩ := r
        have hstate : σ.store.connection.state ≠ .closed := by
          simp only [Bool.or_eq_true, decide_eq_true_eq, not_or] at hdone
          exact hdone.2
        obtain ⟨e, tasks, fault, htasks, hnone, hhandling⟩ :=
          Store.receive_handling hstate f ⟨buffer, processed, size⟩
        obtain ⟨hτ, hrest⟩ := unchanged (n := σ.store.receive f ⟨buffer, processed, size⟩)
          (by rw [Store.parse, if_neg hdone, hd]) hnone
        rw [htasks, List.append_assoc, List.singleton_append] at hτ
        have hbusy : Busy rest.length τ :=
          busy_of_suffix (t := .handled e ⟨buffer, processed, size⟩ fault)
            (by rw [hτ]; exact List.suffix_append _ _) (by simp)
        have htakes : Takes σ buffer f := ⟨size, hd⟩
        rw [hτ]
        cases hhandling with
        | aside e tasks h =>
          exact Accounted.append_aside h ⟨⟨σ, handles hbusy, by simp⟩, hrest⟩
        | outOfPlace e v h =>
          exact ⟨⟨σ, handles hbusy, fun _ _ => .inl (.outOfPlace f htakes h _)⟩, hrest⟩
        | unacceptable offer v hf h =>
          exact ⟨⟨σ, handles hbusy, fun _ _ => .inl (.unacceptable offer (hf ▸ htakes) h _)⟩, hrest⟩
        | unsendable offer hf ha fault h =>
          refine ⟨⟨σ, handles hbusy, ?_⟩, hrest⟩
          rintro v ⟨⟩
          exact .inr (.unsendable offer (hf ▸ htakes) ha fault h)
        | endpoint n h =>
          exact ⟨fun _ => ⟨σ, _, _, rest, f, rfl, handles hbusy, htakes, rfl, rfl, h⟩,
            ⟨σ, handles hbusy, by simp⟩, hrest⟩
        | answered e cb t hp ha hcb ht =>
          refine ⟨accounts_of_aside hcb _, ?_, ⟨σ, handles hbusy, by simp⟩, hrest⟩
          rcases ht with ⟨limits, rfl⟩ | ⟨c, active, rfl⟩
          · exact fun _ => ⟨σ, _, _, rest, f, rfl, handles hbusy, htakes, hp, ha⟩
          · exact fun _ => ⟨σ, _, _, rest, f, rfl, handles hbusy, htakes, hp, ha⟩
        | closes reason hf octets =>
          exact ⟨accounts_of_aside rfl _,
            fun _ => ⟨σ, _, _, rest, f, rfl, handles hbusy, htakes, hf⟩,
            ⟨σ, handles hbusy, by simp⟩, hrest⟩

/-- The work has no part in the handling of a frame. -/
theorem accounted_of_isAside {n : Next} {rest : List Task} (hn : n.IsAside)
    (hb : Accounted o σ rest) (hs : Step σ (proceed n σ.log rest)) :
    Accounted o (proceed n σ.log rest) (proceed n σ.log rest).tasks := by
  have hτ : (proceed n σ.log rest).tasks = n.tasks ++ rest :=
    proceed_tasks_of_fault_none hn.fault _ _
  rw [hτ]
  exact Accounted.append_aside hn.tasks (hb.step hs (by rw [hτ]; exact List.suffix_append _ _))

theorem accounted_handled {e : Option EndpointRef} {p : Parsing} {fault : Option Violation}
    {rest : List Task} {n : Next} (ha : Accounts o σ (.handled e p fault) rest)
    (hb : Accounted o σ rest) (hn : (Task.handled e p fault).run σ.store = some n)
    (hs : Step σ (proceed n σ.log rest)) :
    Accounted o (proceed n σ.log rest) (proceed n σ.log rest).tasks := by
  obtain ⟨σ₀, hh, hx⟩ := ha
  cases e with
  | some e =>
    cases hn
    have hbusy : Busy rest.length
        (proceed (.follow σ.store [.release e, .handled none p fault]) σ.log rest) :=
      busy_of_suffix (List.suffix_cons (.release e) (.handled none p fault :: rest)) (by simp)
    refine ⟨accounts_of_aside rfl _, ⟨σ₀, hh.step hs hbusy, fun v hv => (hx v hv).step hs hbusy⟩, ?_⟩
    exact hb.step hs (List.suffix_append [Task.release e, Task.handled none p fault] rest)
  | none =>
    cases fault with
    | none =>
      cases hn
      exact accounted_of_isAside (.follow _ (by simp)) hb hs
    | some v =>
      cases hn
      have hτ : (proceed (σ.store.report v p.processed) σ.log rest).tasks =
          (σ.store.report v p.processed).tasks ++ rest :=
        proceed_tasks_of_fault_none (Store.fault_report _ _ _) _ _
      refine accounted_report hτ (hb.step hs ?_) (fun hbusy => hh.step hs hbusy)
        fun hbusy => (hx v rfl).step hs hbusy
      rw [hτ]
      exact List.suffix_append _ _

theorem accounted_closedByPeer {reason : Close} {rest : List Task} {n : Next}
    (ha : Accounts o σ (.closedByPeer reason) rest) (hb : Accounted o σ rest)
    (hn : (Task.closedByPeer reason).run σ.store = some n) (hs : Step σ (proceed n σ.log rest)) :
    Accounted o (proceed n σ.log rest) (proceed n σ.log rest).tasks := by
  cases hn
  split at hs
  · rename_i halive
    rw [if_pos halive]
    generalize hdef : proceed (.follow σ.store.shut.1 (.invalidateEach σ.store.shut.2 ::
      Store.afterPeersClose reason)) σ.log rest = τ at hs ⊢
    have hτ : τ.tasks = .invalidateEach σ.store.shut.2 :: (Store.afterPeersClose reason ++ rest) := by
      rw [← hdef]; rfl
    have hrest := hb.step hs (by rw [hτ]; exact List.suffix_append (_ :: _) _)
    rw [hτ]
    refine ⟨accounts_of_aside rfl _, ?_⟩
    unfold Store.afterPeersClose at hτ ⊢
    split at hτ
    · rename_i hsuccess
      rw [if_pos hsuccess]
      exact ⟨accounts_of_aside rfl _, hrest⟩
    · rename_i hsuccess
      rw [if_neg hsuccess]
      obtain ⟨σ₀, e, p, rest₀, f, rfl, hh, hf, rfl⟩ := ha rfl
      have hbusy : Busy rest₀.length τ := busy_of_lt (by rw [hτ]; simp)
      refine ⟨⟨σ₀, p.buffer, rest₀.length, rfl, hh.step hs hbusy, ?_⟩, accounts_of_aside rfl _, hrest⟩
      exact .inl (.closed reason hf (Bool.eq_false_iff.2 hsuccess))
  · rename_i halive
    rw [if_neg halive]
    exact accounted_of_isAside (.only _) hb hs

theorem accounted_tick {t : Task} {rest : List Task} {n : Next}
    (hv : σ.store.connection.options.virtualHost.utf8ByteSize ≤ 255)
    (hσ : Reaches (connect o) σ) (ht : σ.tasks = t :: rest) (ha : Accounts o σ t rest)
    (hb : Accounted o σ rest) (hn : t.run σ.store = some n) (hs : Step σ (proceed n σ.log rest)) :
    Accounted o (proceed n σ.log rest) (proceed n σ.log rest).tasks := by
  have hproper : t.isProper = true :=
    Reachable.isProper ⟨o, hσ⟩ t (by rw [ht]; exact List.mem_cons_self)
  cases t with
  | user cb => cases hn
  | parse buffer processed => cases hn; exact accounted_parse hσ ht hb hs
  | handled e p fault => exact accounted_handled ha hb hn hs
  | closedByPeer reason => exact accounted_closedByPeer ha hb hn hs
  | tuned limits =>
    cases hn
    split at hs
    · rename_i halive
      rw [if_pos halive]
      refine ⟨fun _ => ?_, hb.step hs (List.suffix_cons _ _)⟩
      exact (ha rfl).pass (fun _ _ _ h => h) hs (List.suffix_refl _)
    · rename_i halive
      rw [if_neg halive]
      exact accounted_of_isAside (.only _) hb hs
  | evict surplus limits =>
    cases hn
    split at hs
    · rename_i halive
      rw [if_pos halive]
      cases surplus with
      | nil =>
        obtain ⟨octets, hw⟩ := Frame.exists_toWire_tuneOk limits
        refine accounted_reply hw ht rfl halive (ha rfl) hb hs fun τ hs hsuf => ?_
        refine ⟨fun _ => (ha rfl).pass (fun _ _ _ h => h) hs hsuf, hb.step hs ?_⟩
        exact (List.suffix_cons _ _).trans hsuf
      | cons entry surplus =>
        obtain ⟨tasks, htasks, haside, hfault⟩ := σ.store.evictNext_cons entry surplus limits
        have hτ : (proceed (σ.store.evictNext (entry :: surplus) limits) σ.log rest).tasks =
            tasks ++ (.evict surplus limits :: rest) := by
          rw [proceed_tasks_of_fault_none hfault, htasks, List.append_assoc, List.singleton_append]
        have hsuf : .evict surplus limits :: rest <:+
            (proceed (σ.store.evictNext (entry :: surplus) limits) σ.log rest).tasks := by
          rw [hτ]
          exact List.suffix_append _ _
        rw [hτ]
        refine Accounted.append_aside haside ⟨fun _ => ?_, hb.step hs ?_⟩
        · exact (ha rfl).pass (fun _ _ _ h => h) hs hsuf
        · exact (List.suffix_cons _ _).trans hsuf
    · rename_i halive
      rw [if_neg halive]
      exact accounted_of_isAside (.only _) hb hs
  | requestHost =>
    cases hn
    split at hs
    · rename_i halive
      rw [if_pos halive]
      obtain ⟨octets, hw⟩ := Frame.exists_toWire_openRequest hv
      exact accounted_reply hw ht rfl halive (ha rfl) hb hs fun τ hs hsuf => hb.step hs hsuf
    · rename_i halive
      rw [if_neg halive]
      exact accounted_of_isAside (.only _) hb hs
  | flowReply c active =>
    cases hn
    split at hs
    · rename_i halive
      rw [if_pos halive]
      obtain ⟨octets, hw⟩ := Frame.exists_toWire_flowOk (σ.store.channel c).id active
      exact accounted_reply hw ht rfl halive (ha rfl) hb hs fun τ hs hsuf => hb.step hs hsuf
    · rename_i halive
      rw [if_neg halive]
      exact accounted_of_isAside (.only _) hb hs
  | notify cb =>
    cases hn
    have haside : (Next.start σ.store cb []).IsAside :=
      .start _ (cb.isServing_of_isNotice hproper) (by simp)
    exact accounted_of_isAside haside hb hs
  | notifyAlive cb =>
    cases hn
    have haside : (if σ.store.connection.alive = true then Next.start σ.store cb []
        else .only σ.store).IsAside :=
      .ite (.start _ (cb.isServing_of_isNotice hproper) (by simp))
    exact accounted_of_isAside haside hb hs
  | _ => exact accounted_of_isAside (Task.run_isAside hproper rfl (by simp) hn) hb hs

/-- Only an endpoint that gets a frame finds a fault by what it returns. -/
theorem accounted_return {cb : Callback} {r : Reply} {rest : List Task}
    (ht : σ.tasks = .user cb :: rest) (ha : Accounts o σ (.user cb) rest) (hb : Accounted o σ rest)
    (hr : σ.return? r = some { σ with tasks := answerWith cb r rest }) :
    Accounted o { σ with tasks := answerWith cb r rest } (answerWith cb r rest) := by
  have hs := Step.return r hr
  unfold answerWith at hr hs ⊢
  split at hs
  · rename_i seconds
    obtain h | ⟨limits, rest, rfl, h⟩ := choose_eq seconds rest
    · rw [h] at hs ⊢
      exact hb.step hs (List.suffix_refl _)
    · rw [h] at hs ⊢
      refine ⟨fun _ => ?_, hb.2.step hs (List.suffix_cons _ _)⟩
      exact (hb.1 rfl).pass (fun _ _ _ h => h) hs (List.suffix_refl _)
  · rename_i n f v
    obtain ⟨σ₀, e, p, rest, g, rfl, hh, hg, rfl, rfl, he⟩ := ha rfl
    have hbusy : Busy rest.length { σ with tasks := .handled (some (.custom n)) p (some v) :: rest } :=
      busy_of_suffix (t := .handled (some (.custom n)) p (some v)) (List.suffix_refl _) (by simp)
    refine ⟨⟨σ₀, hh.step hs hbusy, ?_⟩, hb.2.step hs (List.suffix_cons _ _)⟩
    rintro v' ⟨⟩
    exact .inl (.refused f n v hg he ⟨σ, _, p, rest, hh.stays, ht, rfl, hr, .refl⟩)
  · exact hb.step hs (List.suffix_refl _)

end

end Session

/-! ## Whole runs -/

theorem Connection.Moves.options_eq {t : Option Task} {k k' : Connection} {es : List Event}
    (h : Connection.Moves t k es k') : k'.options = k.options := by
  induction h with
  | refl => rfl
  | tail _ hm ih =>
    rw [← ih]
    cases hm <;> rfl

namespace Session

theorem options_of_reaches {o : Options} {σ : Session} (h : Reaches (connect o) σ) :
    σ.store.connection.options = o := by
  have hstep : ∀ σ τ, σ.Reachable ∧ σ.store.connection.options = o → Step σ τ →
      τ.Reachable ∧ τ.store.connection.options = o := by
    rintro σ τ ⟨hσ, ho⟩ hs
    refine ⟨hσ.step hs, ?_⟩
    rcases hs.cases hσ.isProper with ⟨es, old, new, rest, rest', w⟩ | hc
    · rw [w.moves.options_eq, ho]
    · rw [hc.connection, ← ho]
  refine (h.induction hstep ⟨⟨o, .refl⟩, ?_⟩).2
  exact (connect_works o).1.options_eq

theorem accounted_of_reaches {o : Options} (hv : o.virtualHost.utf8ByteSize ≤ 255) {σ : Session}
    (h : Reaches (connect o) σ) : Accounted o σ σ.tasks := by
  have hstep : ∀ σ τ, Reaches (connect o) σ ∧ Accounted o σ σ.tasks → Step σ τ →
      Reaches (connect o) τ ∧ Accounted o τ τ.tasks := by
    rintro σ τ ⟨hσ, ha⟩ hs
    refine ⟨hσ.tail hs, ?_⟩
    obtain ⟨t, rest, n, ht, hn, rfl⟩ | ⟨c, -, -, rfl⟩ | ⟨cb, r, rest, ht, rfl⟩ := hs.cases_on_stack
    · rw [ht] at ha
      exact accounted_tick (by rwa [options_of_reaches hσ]) hσ ht ha.1 ha.2 hn hs
    · exact accounted_of_isAside (c.run_isAside _) ha hs
    · rw [ht] at ha
      exact accounted_return ht ha.1 ha.2 (return?_eq_some_iff.2 ⟨cb, rest, ht, rfl⟩)
  refine (h.induction hstep ⟨.refl, ?_⟩).2
  have haside : ((Store.new o).offer .greeting).IsAside := Store.offer_isAside _ _
  have htasks : (connect o).tasks =
      ((Store.new o).offer .greeting).tasks ++ [.handOverConnection, .answer .done] := rfl
  rw [htasks]
  refine Accounted.append_aside haside.tasks ?_
  exact ⟨accounts_of_aside rfl _, accounts_of_aside rfl _, trivial⟩

theorem exists_notify_error {t : Option Task} {text : String}
    (h : (Event.started (.error text)).isNoteOf t = true) :
    ∃ text', t = some (.notify (.error text')) ∨ t = some (.notifyAlive (.error text')) := by
  cases t with
  | none => cases h
  | some t =>
    cases t with
    | notify cb => cases cb <;> first | exact ⟨_, .inl rfl⟩ | cases h
    | notifyAlive cb => cases cb <;> first | exact ⟨_, .inr rfl⟩ | cases h
    | _ => cases h

/-- User code is told of an error only while a frame is handled that is the peer's doing, or that
this side answers too late. -/
theorem error_explained {o : Options} (hv : o.virtualHost.utf8ByteSize ≤ 255) {σ τ : Session}
    (hσ : Reaches (connect o) σ) (h : Step σ τ) {es : List Event} (hlog : τ.log = es ++ σ.log)
    {text : String} (he : .started (.error text) ∈ es) :
    ∃ σ₀ buffer height, Handles o σ₀ buffer height σ ∧
      (PeersDoing σ₀ buffer height σ text ∨ OwnDoing σ₀ buffer height σ text) := by
  rcases h.cases (Reachable.isProper ⟨o, hσ⟩) with ⟨es', old, new, rest, rest', w⟩ | hc
  · have hes : es = es'.reverse := List.append_cancel_right (hlog.symm.trans w.log)
    rw [hes, List.mem_reverse] at he
    obtain ⟨text', ht⟩ := exists_notify_error (w.moves.isNoteOf (by simp) he)
    have ha := accounted_of_reaches hv hσ
    rcases ht with ht | ht
    · obtain ⟨below, ht⟩ := List.head?_eq_some_iff.1 ht
      rw [ht] at ha
      obtain ⟨n, hn, rfl⟩ := h.eq_proceed ht (by simp)
      cases hn
      -- the notice is what user code is told
      have htext : text = text' := by
        have hone : es = [.started (.error text')] := List.append_cancel_right hlog.symm
        rw [← List.mem_reverse, ← hes, hone] at he
        simpa using he
      obtain ⟨σ₀, buffer, height, -, hh, hx⟩ := ha.1
      exact ⟨σ₀, buffer, height, hh, htext ▸ hx⟩
    · obtain ⟨below, ht⟩ := List.head?_eq_some_iff.1 ht
      rw [ht] at ha
      exact ha.1.elim
  · obtain ⟨f, hf⟩ := hc.log
    have hes : es = [.received f] := List.append_cancel_right (hlog.symm.trans hf)
    rw [hes] at he
    simp at he

/-- The error that user code is told of in the next step. -/
def toldNext (σ : Session) : Option String :=
  match σ.tasks with
  | .notify (.error text) :: _ => some text
  | _ => none

theorem exists_step_of_toldNext {σ : Session} {text : String} (h : σ.toldNext = some text) :
    ∃ τ, Step σ τ ∧ τ.log = [.started (.error text)] ++ σ.log := by
  unfold toldNext at h
  split at h
  · rename_i text' rest ht
    cases h
    exact ⟨_, .tick (tick_eq_some_iff.2 ⟨_, rest, _, ht, rfl, rfl⟩), rfl⟩
  · cases h

/-- The peer repeats the negotiation on an established connection. -/
theorem error_explained_repeated :
    Options.standard.virtualHost.utf8ByteSize ≤ 255 ∧
      ∃ σ τ text, Reaches (connect .standard) σ ∧ Step σ τ ∧
        τ.log = [.started (.error text)] ++ σ.log ∧ ∃ σ₀ buffer height,
          Handles .standard σ₀ buffer height σ ∧
            (PeersDoing σ₀ buffer height σ text ∨ OwnDoing σ₀ buffer height σ text) := by
  have hv : Options.standard.virtualHost.utf8ByteSize ≤ 255 := by decide
  obtain ⟨σ, hσ, htold⟩ := exists_reaches_of_play
    (establish ++ [some (.call (.parse serverHandshake)), none, none, none]) (connect .standard)
    toldNext (a := some "Unexpected method 10.10 in state Connected") (by decide +kernel)
  obtain ⟨τ, hτ, hlog⟩ := exists_step_of_toldNext htold
  exact ⟨hv, σ, τ, _, hσ, hτ, hlog, error_explained hv hσ hτ hlog List.mem_cons_self⟩

/-! ## A late answer -/

/-- The buffer that is taken up next, with the number of tasks that wait below. -/
def takesUp (σ : Session) : Option (Bytes × Nat) :=
  match σ.tasks with
  | .parse buffer _ :: rest => some (buffer, rest.length)
  | _ => none

/-- A channel is open, and the peer asks it to pause or go on. -/
def flowArrives : List (Option Act) :=
  establish ++ [some (.call .openChannel)] ++ pass 0 ++ [none, none, none,
    some (.call (.parse (Frame.ofChannel 1 .openOk).toWire.octets))] ++ pass 1 ++
    [none, none, none, none, none, none,
      some (.call (.parse (Frame.ofChannel 1 (.flow true)).toWire.octets))]

/-- User code closes the connection when it learns of the flow; every other callback just returns. -/
def closeMeanwhile : List (Option Act) :=
  [none, some (.call .close)] ++ pass 1 ++ [none, none, none] ++ pass 1 ++ [none, none, none] ++
    pass 0 ++ [none, none, none, none, none, none, none]

/-- A frame in its place is reported, because user code closes the connection before the answer. -/
theorem blamed_for_close :
    ∃ σ₀ σ : Session, σ₀.Reachable ∧
      takesUp σ₀ = some ((Frame.ofChannel 1 (.flow true)).toWire.octets, 0) ∧
      Takes σ₀ (Frame.ofChannel 1 (.flow true)).toWire.octets (.ofChannel 1 (.flow true)) ∧
      σ₀.store.admits (.ofChannel 1 (.flow true)) = true ∧ σ₀.play closeMeanwhile = some σ ∧
      toldNext σ = some SendError.closed.message := by
  obtain ⟨σ₀, hσ₀, he⟩ := exists_reaches_of_play flowArrives (connect .standard)
    (fun σ => (takesUp σ, σ.store.connection.maxFrameSize, σ.store.admits (.ofChannel 1 (.flow true)),
      (σ.play closeMeanwhile).map toldNext))
    (a := (some ((Frame.ofChannel 1 (.flow true)).toWire.octets, 0), 131072, true,
      some (some SendError.closed.message))) (by decide +kernel)
  obtain ⟨htakes, he⟩ := Prod.mk.inj he
  obtain ⟨hmax, he⟩ := Prod.mk.inj he
  obtain ⟨hplace, hplay⟩ := Prod.mk.inj he
  obtain ⟨σ, hσ, htold⟩ := Option.map_eq_some_iff.1 hplay
  refine ⟨σ₀, σ, ⟨.standard, hσ₀⟩, htakes, ⟨13, ?_⟩, hplace, hσ, htold⟩
  rw [hmax]
  decide +kernel

end Session

end AmqpSession
