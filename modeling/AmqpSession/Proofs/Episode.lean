/-
What happens to a channel in one step. The steps of a session are many, but what they come to for one
channel is little (`Episode`): a frame that it or its user gives to the connection, a call of its
handler, a change of its state, and what is left to be done about it.
-/
import AmqpSession.Proofs.Bystander
import AmqpSession.Proofs.InTurn
import AmqpSession.Proofs.Routing
import AmqpSession.Proofs.Stage

namespace AmqpSession

open Wire

/-! ## What is seen of a channel -/

/-- What happens to a channel. -/
inductive ChannelEvent where
  /-- The connection takes a frame that the channel itself gives it. -/
  | own (body : Body)
  /-- The connection takes a frame that user code sends on the channel. -/
  | sent (body : Body)
  /-- The handler is called. -/
  | ready
  | error
  | closed
  | frame
  | flow
deriving DecidableEq

/-- On whose behalf a step gives frames to the connection. -/
inductive Source where
  | connection
  | channel (c : Nat)
  | user (c : Nat)

/-- Frames are given on behalf of this channel or of its user. -/
def Source.isOf (c : Nat) : Source → Bool
  | .connection => false
  | .channel d | .user d => d == c

/-- A channel gives frames of its own when it is opened, closed or let go of, and in answer to what the
peer sends on it. -/
def Task.source : Task → Source
  | .release (.channel c) | .closeEach (.channel c :: _) | .flowReply c _ => .channel c
  | _ => .connection

/-- On whose behalf the step that comes next gives frames to the connection. -/
def Session.source (σ : Session) : Option Session.Act → Source
  | some (.call .openChannel) => .channel σ.store.channels.length
  | some (.call (.closeChannel c)) | some (.call (.dropChannel c)) => .channel c
  | some (.call (.sendOn c _)) => .user c
  | some _ => .connection
  | none =>
    match σ.tasks with
    | .parse _ _ :: _ =>
      match σ.routes? with
      | some (.channel c, _) => .channel c
      | _ => .connection
    | t :: _ => t.source
    | [] => .connection

/-- What an event means to a channel. -/
def ChannelEvent.of? (c : Nat) (src : Source) : Event → Option ChannelEvent
  | .accepted f =>
    match src with
    | .connection => none
    | .channel d => if d = c then some (.own f.body) else none
    | .user d => if d = c then some (.sent f.body) else none
  | .started (.channelReady d) => if d = c then some .ready else none
  | .started (.channelError d _) => if d = c then some .error else none
  | .started (.channelClosed d) => if d = c then some .closed else none
  | .started (.channelFrame d _) => if d = c then some .frame else none
  | .started (.channelFlow d _) => if d = c then some .flow else none
  | _ => none

/-- What happens to a channel, among all that happens. -/
def eventsOf (c : Nat) (src : Source) (es : List Event) : List ChannelEvent :=
  es.filterMap (ChannelEvent.of? c src)

@[simp] theorem eventsOf_nil (c : Nat) (src : Source) : eventsOf c src [] = [] := rfl

theorem eventsOf_append (c : Nat) (src : Source) (es es' : List Event) :
    eventsOf c src (es ++ es') = eventsOf c src es ++ eventsOf c src es' := List.filterMap_append

theorem eventsOf_start (c : Nat) (src : Source) (s : Store) (cb : Callback) (tasks : List Task) :
    eventsOf c src (Next.start s cb tasks).log = (ChannelEvent.of? c src (.started cb)).toList := by
  rw [show (Next.start s cb tasks).log = [.started cb] from rfl, eventsOf, List.filterMap_cons]
  cases ChannelEvent.of? c src (.started cb) <;> rfl

/-- Where the handler is not called and nothing is taken from the channel, nothing happens to it. -/
theorem eventsOf_eq_nil {c : Nat} {src : Source} {es : List Event}
    (hs : ∀ cb, .started cb ∈ es → cb.endpoint? ≠ some (.channel c))
    (ha : src.isOf c = false ∨ ∀ f, .accepted f ∉ es) : eventsOf c src es = [] := by
  refine List.filterMap_eq_nil_iff.2 fun e he => ?_
  have hne : ∀ {d : Nat}, EndpointRef.channel d ≠ .channel c → ¬ d = c := fun h hd => h (congrArg _ hd)
  cases e with
  | accepted f =>
    have hsrc := ha.resolve_right fun h => h f he
    cases src with
    | connection => rfl
    | channel d | user d => exact if_neg (beq_eq_false_iff_ne.1 hsrc)
  | started cb =>
    have hcb := hs cb he
    cases cb with
    | channelReady d | channelError d | channelClosed d | channelFrame d | channelFlow d =>
      exact if_neg fun hd => hcb (congrArg _ (congrArg _ hd))
    | _ => rfl
  | _ => rfl

/-- A frame that the connection takes is all that its sending comes to. -/
theorem eventsOf_send {s : Store} {f : Frame} {n : Next} (h : s.send f = .ok n) (c : Nat) :
    eventsOf c (.channel c) n.log = [.own f.body] ∧ eventsOf c (.user c) n.log = [.sent f.body] := by
  obtain ⟨octets, -, -, ⟨-, rfl⟩ | ⟨-, rfl⟩⟩ := Store.send_cases h <;>
    simp [eventsOf, ChannelEvent.of?]

/-! ## What is due -/

/-- The calls of the error handler that the task is going to make. -/
def Task.errors (c : Nat) : Task → Nat
  | .channelClosedByPeer d _ => if d = c then 1 else 0
  | .evict surplus _ => (surplus.map Prod.snd).count (.channel c)
  | _ => 0

/-- The notices that the channel is closed. -/
def Task.closes (c : Nat) : Task → Nat
  | .notify (.channelClosed d) | .notifyAlive (.channelClosed d) => if d = c then 1 else 0
  | _ => 0

/-- The calls of the error handler that the work is going to make. -/
def errorsDue (c : Nat) (tasks : List Task) : Nat := (tasks.map (Task.errors c)).sum

/-- The notices that the channel is closed, among the work that is left. -/
def closesDue (c : Nat) (tasks : List Task) : Nat := (tasks.map (Task.closes c)).sum

/-- Nothing is left to do about the channel. -/
def NoneAbout (c : Nat) (tasks : List Task) : Prop := ∀ t ∈ tasks, t.isAbout c = false

section Due

variable {c : Nat} {tasks tasks' : List Task}

@[simp] theorem errorsDue_nil (c : Nat) : errorsDue c [] = 0 := rfl

@[simp] theorem closesDue_nil (c : Nat) : closesDue c [] = 0 := rfl

@[simp] theorem errorsDue_cons (c : Nat) (t : Task) (tasks : List Task) :
    errorsDue c (t :: tasks) = t.errors c + errorsDue c tasks := by
  simp [errorsDue]

@[simp] theorem closesDue_cons (c : Nat) (t : Task) (tasks : List Task) :
    closesDue c (t :: tasks) = t.closes c + closesDue c tasks := by
  simp [closesDue]

@[simp] theorem errorsDue_append (c : Nat) (tasks tasks' : List Task) :
    errorsDue c (tasks ++ tasks') = errorsDue c tasks + errorsDue c tasks' := by
  simp [errorsDue]

@[simp] theorem closesDue_append (c : Nat) (tasks tasks' : List Task) :
    closesDue c (tasks ++ tasks') = closesDue c tasks + closesDue c tasks' := by
  simp [closesDue]

theorem errorsDue_of_map_plain (h : tasks'.map Task.plain = tasks.map Task.plain) :
    errorsDue c tasks' = errorsDue c tasks := by
  have hplain : ∀ t : Task, t.plain.errors c = t.errors c := by
    intro t
    cases t <;> rfl
  exact congrArg List.sum (Session.map_eq_of_map_plain hplain h)

theorem closesDue_of_map_plain (h : tasks'.map Task.plain = tasks.map Task.plain) :
    closesDue c tasks' = closesDue c tasks := by
  have hplain : ∀ t : Task, t.plain.closes c = t.closes c := by
    intro t
    cases t <;> rfl
  exact congrArg List.sum (Session.map_eq_of_map_plain hplain h)

theorem Task.errors_of_isAbout {t : Task} (h : t.isAbout c = false) : t.errors c = 0 := by
  cases t with
  | channelClosedByPeer d text => exact if_neg (beq_eq_false_iff_ne.1 h)
  | evict surplus limits => exact List.count_eq_zero.2 (of_decide_eq_false h)
  | _ => rfl

theorem Task.closes_of_isAbout {t : Task} (h : t.isAbout c = false) : t.closes c = 0 := by
  cases t with
  | notify cb | notifyAlive cb =>
    cases cb with
    | channelClosed d => exact if_neg (beq_eq_false_iff_ne.1 h)
    | _ => rfl
  | _ => rfl

theorem NoneAbout.errorsDue (h : NoneAbout c tasks) : errorsDue c tasks = 0 := by
  induction tasks with
  | nil => rfl
  | cons t tasks ih =>
    obtain ⟨ht, hrest⟩ := List.forall_mem_cons.1 h
    rw [errorsDue_cons, Task.errors_of_isAbout ht, ih hrest]

theorem NoneAbout.closesDue (h : NoneAbout c tasks) : closesDue c tasks = 0 := by
  induction tasks with
  | nil => rfl
  | cons t tasks ih =>
    obtain ⟨ht, hrest⟩ := List.forall_mem_cons.1 h
    rw [closesDue_cons, Task.closes_of_isAbout ht, ih hrest]

theorem NoneAbout.not_mem (h : NoneAbout c tasks) {t : Task} (ht : t.isAbout c = true) : t ∉ tasks :=
  fun hm => Bool.false_ne_true ((h t hm).symm.trans ht)

end Due

/-! ## The table -/

namespace Store

/-- The channel gets into the state, and nobody holds it who did not. -/
structure TurnsTo (c : Nat) (s s' : Store) (state : ChannelState) : Prop where
  state : (s'.channel c).state = state
  holder : (s'.channel c).HasHolder → (s.channel c).HasHolder
  length : c < s'.channels.length ↔ c < s.channels.length

end Store

/-- The answer to a flow. -/
def flowOkBody (active : Bool) : Body := .method (.channel (.flowOk active))

/-- What one task, or a call where there is none, comes to for a channel: what happens, what becomes of
its state, and what is left to do about it. -/
inductive Episode (c : Nat) (s : Store) : Option Task → Next → List ChannelEvent → Prop where
  | aside {t : Option Task} {n : Next} (hs : s.PassesBy c n.store)
      (he : errorsDue c n.tasks ≤ errorsDue c t.toList) (hc : closesDue c n.tasks = 0)
      (hf : ∀ active, .flowReply c active ∉ n.tasks)
      (ht : ∀ text, t ≠ some (.channelClosedByPeer c text)) : Episode c s t n []
  | asks {n : Next} (hc : s.channels.length ≤ c) (hs : (n.store.channel c).state = .opening)
      (hl : c < n.store.channels.length) (hn : NoneAbout c n.tasks) :
      Episode c s none n [.own openBody]
  | fails {n : Next} (hc : s.channels.length ≤ c) (hg : n.store.channel c = .gone)
      (hl : c < n.store.channels.length) (hn : NoneAbout c n.tasks) (e : OpenChannelError)
      (ha : .answer (.opened c (.error e)) ∈ n.tasks) : Episode c s none n []
  | sends {n : Next} (body : Body) (hst : s.IsUp c) (hh : (s.channel c).HasHolder)
      (hs : s.PassesBy c n.store) (hn : NoneAbout c n.tasks) : Episode c s none n [.sent body]
  | takesLeave {t : Option Task} {n : Next} (hst : s.IsUp c) (hh : (s.channel c).HasHolder)
      (hs : s.TurnsTo c n.store .closing ∨ (s.PassesBy c n.store ∧ ¬ (n.store.channel c).HasHolder))
      (hn : NoneAbout c n.tasks) (ht : ∀ text, t ≠ some (.channelClosedByPeer c text)) :
      Episode c s t n [.own closeBody]
  /-- The close cannot be sent. -/
  | leaves {t : Option Task} {n : Next} (hst : s.IsUp c) (hs : s.TurnsTo c n.store .closing)
      (hn : NoneAbout c n.tasks) (ht : ∀ text, t ≠ some (.channelClosedByPeer c text)) :
      Episode c s t n []
  | ready {buffer : Bytes} {processed : Nat} {n : Next} (hid : ∃ id, s.HasId c id)
      (hst : (s.channel c).state = .opening) (hs : s.TurnsTo c n.store .open)
      (hn : NoneAbout c n.tasks) : Episode c s (some (.parse buffer processed)) n [.ready]
  | confirmed {buffer : Bytes} {processed : Nat} {n : Next} (hid : ∃ id, s.HasId c id)
      (hst : (s.channel c).state = .closing) (hs : s.TurnsTo c n.store .closed)
      (hn : NoneAbout c n.tasks) : Episode c s (some (.parse buffer processed)) n [.closed]
  | frame {buffer : Bytes} {processed : Nat} {n : Next} (hid : ∃ id, s.HasId c id)
      (hst : (s.channel c).state = .open) (hs : s.PassesBy c n.store)
      (hn : NoneAbout c n.tasks) : Episode c s (some (.parse buffer processed)) n [.frame]
  | flow {buffer : Bytes} {processed : Nat} {n : Next} (hid : ∃ id, s.HasId c id)
      (hs : s.PassesBy c n.store) (he : errorsDue c n.tasks = 0) (hc : closesDue c n.tasks = 0) :
      Episode c s (some (.parse buffer processed)) n [.flow]
  | closedByPeer {buffer : Bytes} {processed : Nat} {n : Next} (hid : ∃ id, s.HasId c id)
      (hs : s.PassesBy c n.store) (he : errorsDue c n.tasks = 1) (hc : closesDue c n.tasks = 0)
      (hf : ∀ active, .flowReply c active ∉ n.tasks) (text : String)
      (hm : .channelClosedByPeer c text ∈ n.tasks) :
      Episode c s (some (.parse buffer processed)) n [.own closeOkBody]
  | error {t : Task} {n : Next} (ht : t.isAnswering = true)
      (he : errorsDue c n.tasks + 1 ≤ t.errors c) (hc : closesDue c n.tasks = 1)
      (hf : ∀ active, .flowReply c active ∉ n.tasks) (hs : s.TurnsTo c n.store .closed) :
      Episode c s (some t) n [.error]
  | tuned {limits : Tune} {n : Next} (hs : s.PassesBy c n.store) (he : errorsDue c n.tasks ≤ 1)
      (hid : errorsDue c n.tasks ≠ 0 → ∃ id, s.HasId c id) (hc : closesDue c n.tasks = 0)
      (hf : ∀ active, .flowReply c active ∉ n.tasks) : Episode c s (some (.tuned limits)) n []
  | closed {t : Task} {n : Next} (ht : t.closes c = 1) (hs : s.PassesBy c n.store)
      (hn : NoneAbout c n.tasks) : Episode c s (some t) n [.closed]
  | flowOk {active : Bool} {n : Next} (ho : s.connection.isOpen) (hs : s.PassesBy c n.store)
      (hn : NoneAbout c n.tasks) :
      Episode c s (some (.flowReply c active)) n [.own (flowOkBody active)]
  | cut {es : List EndpointRef} {n : Next} (hs : s.TurnsTo c n.store .closed)
      (hn : NoneAbout c n.tasks) : Episode c s (some (.invalidateEach (.channel c :: es))) n []

namespace Next.LeavesAlone

variable {c : Nat} {s : Store} {n : Next}

/-- Work that leaves the channel alone, and whose frames are not its own. -/
theorem episode (h : LeavesAlone c s n) {t : Option Task} {src : Source}
    (ht : ∀ text, t ≠ some (.channelClosedByPeer c text))
    (ha : src.isOf c = false ∨ ∀ f, .accepted f ∉ n.log) :
    Episode c s t n (eventsOf c src n.log) := by
  rw [eventsOf_eq_nil h.silent ha]
  have hn : NoneAbout c n.tasks := h.tasks
  refine .aside h.toPassesBy ?_ hn.closesDue (fun active => hn.not_mem (beq_self_eq_true c)) ht
  rw [hn.errorsDue]
  exact Nat.zero_le _

end Next.LeavesAlone

namespace Store

variable {c : Nat} {s s' : Store} {state : ChannelState}

theorem TurnsTo.after (hp : s.PassesBy c s') {s'' : Store} (h : s'.TurnsTo c s'' state) :
    s.TurnsTo c s'' state :=
  ⟨h.state, fun hh => hp.holder (h.holder hh), h.length.trans hp.length⟩

theorem TurnsTo.then (h : s.TurnsTo c s' state) {s'' : Store} (hp : s'.PassesBy c s'') :
    s.TurnsTo c s'' state :=
  ⟨hp.state.trans h.state, fun hh => h.holder (hp.holder hh), hp.length.trans h.length⟩

theorem turnsTo_setChannelState (hlt : c < s.channels.length) (state : ChannelState) :
    s.TurnsTo c (s.setChannelState c state) state where
  state := by rw [setChannelState, s.channel_mapChannel hlt]
  holder hh := by rwa [setChannelState, s.channel_mapChannel hlt] at hh
  length := by rw [setChannelState, s.length_mapChannel]

theorem turnsTo_detach (s : Store) (c : Nat) : s.TurnsTo c (s.detach c) .closed where
  state := by rw [channel_detach]; rfl
  holder hh := by rwa [channel_detach] at hh
  length := by rw [length_detach]

end Store

namespace Episode

open Store

variable {c : Nat} {s s' : Store} {t : Option Task} {n n' : Next} {evs : List ChannelEvent}

/-- What happens after a step that passes the channel by. -/
theorem after (h : Episode c s' t n evs) (hp : s.PassesBy c s')
    (hc : s'.connection = s.connection) : Episode c s t n evs := by
  have hid : (∃ id, s'.HasId c id) → ∃ id, s.HasId c id :=
    Exists.imp fun id => (hasId_iff_of_connection hc c id).1
  have hup : s'.IsUp c → s.IsUp c := by rw [IsUp, IsUp, hp.state]; exact fun h => h
  have hlen : s'.channels.length ≤ c → s.channels.length ≤ c := fun h =>
    Nat.le_of_not_lt fun hlt => absurd (hp.length.2 hlt) (Nat.not_lt.2 h)
  cases h with
  | aside hs he hcl hf ht => exact .aside (hp.trans hs) he hcl hf ht
  | asks hcl hs hl hn => exact .asks (hlen hcl) hs hl hn
  | fails hcl hg hl hn e ha => exact .fails (hlen hcl) hg hl hn e ha
  | sends body hst hh hs hn => exact .sends body (hup hst) (hp.holder hh) (hp.trans hs) hn
  | takesLeave hst hh hs hn ht =>
    exact .takesLeave (hup hst) (hp.holder hh)
      (hs.imp (.after hp) fun hs => ⟨hp.trans hs.1, hs.2⟩) hn ht
  | leaves hst hs hn ht => exact .leaves (hup hst) (.after hp hs) hn ht
  | ready hb hst hs hn => exact .ready (hid hb) (hp.state ▸ hst) (.after hp hs) hn
  | confirmed hb hst hs hn => exact .confirmed (hid hb) (hp.state ▸ hst) (.after hp hs) hn
  | frame hb hst hs hn => exact .frame (hid hb) (hp.state ▸ hst) (hp.trans hs) hn
  | flow hb hs he hcl => exact .flow (hid hb) (hp.trans hs) he hcl
  | closedByPeer hb hs he hcl hf text hm => exact .closedByPeer (hid hb) (hp.trans hs) he hcl hf text hm
  | error ht he hcl hf hs => exact .error ht he hcl hf (.after hp hs)
  | tuned hs he hb hcl hf => exact .tuned (hp.trans hs) he (fun h => hid (hb h)) hcl hf
  | closed ht hs hn => exact .closed ht (hp.trans hs) hn
  | flowOk ho hs hn => exact .flowOk (hc ▸ ho) (hp.trans hs) hn
  | cut hs hn => exact .cut (.after hp hs) hn

/-- Further tasks that are not about the channel. -/
theorem more (h : Episode c s t n evs) (hs : n'.store = n.store) {tasks : List Task}
    (ht : n'.tasks = n.tasks ++ tasks) (hm : NoneAbout c tasks) : Episode c s t n' evs := by
  have he : errorsDue c n'.tasks = errorsDue c n.tasks := by
    rw [ht, errorsDue_append, hm.errorsDue, Nat.add_zero]
  have hcl : closesDue c n'.tasks = closesDue c n.tasks := by
    rw [ht, closesDue_append, hm.closesDue, Nat.add_zero]
  have hnone : NoneAbout c n.tasks → NoneAbout c n'.tasks := by
    intro hn t' ht'
    rw [ht] at ht'
    exact (List.mem_append.1 ht').elim (hn t') (hm t')
  have hflow : (∀ active, .flowReply c active ∉ n.tasks) → ∀ active, .flowReply c active ∉ n'.tasks := by
    intro hf active hmem
    rw [ht] at hmem
    exact (List.mem_append.1 hmem).elim (hf active) (hm.not_mem (beq_self_eq_true c))
  have hmem : ∀ {t'}, t' ∈ n.tasks → t' ∈ n'.tasks := fun h => ht ▸ List.mem_append_left _ h
  cases h with
  | aside hp he' hc hf ht' => exact .aside (hs ▸ hp) (he ▸ he') (hcl ▸ hc) (hflow hf) ht'
  | asks hc hst hl hn => exact .asks hc (hs ▸ hst) (hs ▸ hl) (hnone hn)
  | fails hc hg hl hn e ha => exact .fails hc (hs ▸ hg) (hs ▸ hl) (hnone hn) e (hmem ha)
  | sends body hst hh hp hn => exact .sends body hst hh (hs ▸ hp) (hnone hn)
  | takesLeave hst hh hp hn ht' => exact .takesLeave hst hh (hs ▸ hp) (hnone hn) ht'
  | leaves hst hp hn ht' => exact .leaves hst (hs ▸ hp) (hnone hn) ht'
  | ready hb hst hp hn => exact .ready hb hst (hs ▸ hp) (hnone hn)
  | confirmed hb hst hp hn => exact .confirmed hb hst (hs ▸ hp) (hnone hn)
  | frame hb hst hp hn => exact .frame hb hst (hs ▸ hp) (hnone hn)
  | flow hb hp he' hc => exact .flow hb (hs ▸ hp) (he ▸ he') (hcl ▸ hc)
  | closedByPeer hb hp he' hc hf text hm' =>
    exact .closedByPeer hb (hs ▸ hp) (he ▸ he') (hcl ▸ hc) (hflow hf) text (hmem hm')
  | error ht' he' hc hf hp => exact .error ht' (he ▸ he') (hcl ▸ hc) (hflow hf) (hs ▸ hp)
  | tuned hp he' hb hc hf => exact .tuned (hs ▸ hp) (he ▸ he') (he ▸ hb) (hcl ▸ hc) (hflow hf)
  | closed ht' hp hn => exact .closed ht' (hs ▸ hp) (hnone hn)
  | flowOk ho hp hn => exact .flowOk ho (hs ▸ hp) (hnone hn)
  | cut hp hn => exact .cut (hs ▸ hp) (hnone hn)

theorem andThen (h : Episode c s t n evs) {tasks : List Task} (hm : NoneAbout c tasks) :
    Episode c s t (n.andThen tasks) evs := h.more rfl rfl hm

theorem noting (h : Episode c s t n evs) (es : List Event) : Episode c s t (n.noting es) evs :=
  h.more rfl (List.append_nil _).symm (List.forall_mem_nil _)

end Episode

/-! ## Operations -/

namespace Store

open Next (LeavesAlone)

variable {c : Nat} {s : Store} {t : Option Task}

theorem passesBy_withChannel (h : s.channels.length ≠ c) (ch : Channel) :
    s.PassesBy c (s.withChannel ch) where
  state := by rw [s.channel_withChannel_of_ne ch h.symm]
  holder hh := by rwa [s.channel_withChannel_of_ne ch h.symm] at hh
  length := by
    show c < (s.channels ++ [ch]).length ↔ _
    rw [List.length_append, List.length_singleton]
    omega

/-- A channel that is closed was up, and it asks to be closed if that can be sent. -/
theorem closeChannel_episode (hh : (s.channel c).HasHolder)
    (ht : ∀ text, t ≠ some (.channelClosedByPeer c text)) :
    Episode c s t (s.closeChannel c).2 (eventsOf c (.channel c) (s.closeChannel c).2.log) := by
  have hturn : s.TurnsTo c (s.setChannelState c .closing) .closing :=
    turnsTo_setChannelState (lt_length_of_hasHolder hh) _
  match (s.closeChannel c).2, s.closesChannel c with
  | _, .aside _ => exact (LeavesAlone.only (.refl c s)).episode ht (.inr (by simp))
  | _, .unsent hup _ => exact .leaves hup hturn (by simp [NoneAbout, Next.only]) ht
  | _, .sent hup _ (n := n) hn =>
    have hleaves := send_leavesAlone c hn
    rw [show (n.andThen [.releaseHandle]).log = n.log from rfl, (eventsOf_send hn c).1]
    refine Episode.andThen (.takesLeave hup hh (.inl ?_) hleaves.tasks ht)
      (by simp [NoneAbout, Task.isAbout])
    exact hturn.then ((PassesBy.holdHandle c _).trans hleaves.toPassesBy)

/-- One holder lets go of the channel. -/
theorem whenLost_episode {s' : Store} (hh : (s.channel c).HasHolder) (hp : s.PassesBy c s')
    (ht : ∀ text, t ≠ some (.channelClosedByPeer c text)) : Episode c s t (s'.whenLost (.channel c))
      (eventsOf c (.channel c) (s'.whenLost (.channel c)).log) := by
  have quiet {n : Next} (hn : LeavesAlone c s' n) (h : ∀ f, .accepted f ∉ n.log) :
      Episode c s t n (eventsOf c (.channel c) n.log) :=
    (LeavesAlone.after hp hn).episode ht (.inr h)
  match s'.whenLost (.channel c), s'.loses (.channel c) with
  | _, .aside _ => exact quiet (.only (.refl c s')) (by simp)
  | _, .last hl hn =>
    cases hn with
    | aside => exact quiet (.only (.refl c s')) (by simp)
    | unsent => exact quiet (.follow (.holdHandle c s') (by simp [Task.isAbout])) (by simp)
    | @sent _ hup n hn =>
      have hleaves := send_leavesAlone c hn
      have hpass : s'.PassesBy c n.store := (PassesBy.holdHandle c s').trans hleaves.toPassesBy
      rw [show (n.andThen _).log = n.log from rfl, (eventsOf_send hn c).1]
      refine Episode.andThen (.takesLeave ?_ hh (.inr ⟨hp.trans hpass, fun hn => ?_⟩) hleaves.tasks ht)
        (by simp [NoneAbout, Task.isAbout])
      · rwa [IsUp, ← hp.state]
      · exact Bool.false_ne_true (hl.symm.trans (isLive_channel_iff.2 (hpass.holder hn)))

/-- User code sends on the channel. -/
theorem sendOn_episode {body : Body} {n : Next} (hh : (s.channel c).HasHolder)
    (h : s.sendOn c body = .ok n) : Episode c s none n (eventsOf c (.user c) n.log) := by
  have hleaves := sendOn_leavesAlone c h
  obtain ⟨-, hup, m, hm, rfl⟩ := sendOn_eq_ok h
  rw [show (m.andThen [.releaseHandle]).log = m.log from rfl, (eventsOf_send hm c).2]
  exact .sends body hup hh hleaves.toPassesBy hleaves.tasks

/-! ### Received frames -/

theorem OnChannel.episode {body : Body} {n : Next} (h : s.OnChannel c body n)
    (hid : ∃ id, s.HasId c id) (hlt : c < s.channels.length) {buffer : Bytes} {processed : Nat} :
    Episode c s (some (.parse buffer processed)) n (eventsOf c (.channel c) n.log) := by
  have aside {n : Next} (h : LeavesAlone c s n) (ha : ∀ f, .accepted f ∉ n.log) :
      Episode c s (some (.parse buffer processed)) n (eventsOf c (.channel c) n.log) :=
    h.episode (by simp) (.inr ha)
  cases h with
  | closes reason =>
    let tasks : List Task := [.channelClosedByPeer c reason.replyText]
    match s.reply _ tasks, s.replies (.ofChannel (s.channel c).id .closeOk) tasks with
    | _, .sent (n := m) hm =>
      have hleaves := send_leavesAlone c hm
      have hnone : NoneAbout c m.tasks := hleaves.tasks
      rw [show (m.andThen tasks).log = m.log from rfl, (eventsOf_send hm c).1]
      refine .closedByPeer hid hleaves.toPassesBy ?_ ?_ (fun active hf => ?_) reason.replyText
        (List.mem_append_right _ List.mem_cons_self)
      · simp [tasks, Next.andThen, hnone.errorsDue, Task.errors]
      · simp [tasks, Next.andThen, hnone.closesDue, Task.closes]
      · rcases List.mem_append.1 hf with hf | hf
        · exact hnone.not_mem (t := .flowReply c active) (beq_self_eq_true c) hf
        · cases List.mem_singleton.1 hf
    | _, .unsent _ => exact aside (.refuse s _) (by simp)
  | opened hs =>
    simp only [eventsOf_start, ChannelEvent.of?, ↓reduceIte, Option.toList_some]
    exact .ready hid hs (turnsTo_setChannelState hlt _) (by simp [NoneAbout, Next.start, Task.isAbout])
  | confirmed hs =>
    simp only [eventsOf_start, ChannelEvent.of?, ↓reduceIte, Option.toList_some]
    exact .confirmed hid hs ((turnsTo_detach s c).then (.of_channels rfl))
      (by simp [NoneAbout, Next.start, Task.isAbout])
  | flow active hs =>
    simp only [eventsOf_start, ChannelEvent.of?, ↓reduceIte, Option.toList_some]
    exact .flow hid (.refl c s) rfl rfl
  | content body hs =>
    simp only [eventsOf_start, ChannelEvent.of?, ↓reduceIte, Option.toList_some]
    exact .frame hid hs (.refl c s) (by simp [NoneAbout, Next.start, Task.isAbout])
  | passedOver => exact aside (.only (.refl c s)) (by simp)
  | fault => exact aside (.refuse s _) (by simp)

theorem errors_evict_cons (c : Nat) (id : UInt16) (e : EndpointRef)
    (rest : List (UInt16 × EndpointRef)) (limits : Tune) :
    (Task.evict ((id, e) :: rest) limits).errors c =
      (if e = .channel c then 1 else 0) + (Task.evict rest limits).errors c := by
  rw [Task.errors, List.map_cons, List.count_cons, Nat.add_comm]
  simp only [beq_iff_eq, Task.errors]

/-- The channel itself is turned away. -/
theorem rejected_episode {s' : Store} (hp : s.PassesBy c s') (id : UInt16)
    (rest : List (UInt16 × EndpointRef)) (limits : Tune) {n : Next}
    (hn : n = (s'.rejectEndpoint (.channel c)).andThen [.release (.channel c), .evict rest limits]) :
    Episode c s (some (.evict ((id, .channel c) :: rest) limits)) n (eventsOf c .connection n.log) := by
  subst hn
  have hev : eventsOf c .connection ((s'.rejectEndpoint (.channel c)).andThen
      [.release (.channel c), .evict rest limits]).log = [.error] := by
    simp [rejectEndpoint, Next.start, Next.andThen, eventsOf, ChannelEvent.of?]
  rw [hev]
  refine .error rfl ?_ ?_ (by simp [rejectEndpoint, Next.start, Next.andThen])
    (.after hp (turnsTo_detach _ c))
  · rw [errors_evict_cons]
    simp [rejectEndpoint, Next.start, Next.andThen, Task.errors, Nat.add_comm]
  · simp [rejectEndpoint, Next.start, Next.andThen, Task.closes]

/-- The channel is not the one that is turned away, but may be among the others. -/
theorem rejected_episode_of_ne {s' : Store} {e : EndpointRef} (he : e ≠ .channel c)
    (hp : s.PassesBy c s') (id : UInt16) (rest : List (UInt16 × EndpointRef)) (limits : Tune) {n : Next}
    (hn : n = (s'.rejectEndpoint e).andThen [.release e, .evict rest limits]) :
    Episode c s (some (.evict ((id, e) :: rest) limits)) n (eventsOf c .connection n.log) := by
  subst hn
  have hdue : errorsDue c [.evict ((id, e) :: rest) limits] = errorsDue c [.evict rest limits] := by
    rw [errorsDue_cons, errorsDue_cons, errors_evict_cons, if_neg he, Nat.zero_add]
  cases e with
  | custom k =>
    refine .aside hp ?_ (by simp [rejectEndpoint, Next.start, Next.andThen, Task.closes])
      (by simp [rejectEndpoint, Next.start, Next.andThen]) (by simp)
    show _ ≤ errorsDue c [_]
    rw [hdue]
    simp [rejectEndpoint, Next.start, Next.andThen, Task.errors]
  | channel d =>
    have hd : ¬ d = c := fun h => he (congrArg _ h)
    have hsilent : eventsOf c .connection ((s'.rejectEndpoint (.channel d)).andThen
        [.release (.channel d), .evict rest limits]).log = [] := by
      simp [rejectEndpoint, Next.start, Next.andThen, eventsOf, ChannelEvent.of?, hd]
    rw [hsilent]
    refine .aside (hp.trans (.mapChannel_of_ne hd _ _)) ?_
      (by simp [rejectEndpoint, Next.start, Next.andThen, Task.closes, hd])
      (by simp [rejectEndpoint, Next.start, Next.andThen]) (by simp)
    show _ ≤ errorsDue c [_]
    rw [hdue]
    simp [rejectEndpoint, Next.start, Next.andThen, Task.errors]

/-- The next of the channels over the limit is turned away. -/
theorem evictNext_episode (s : Store) (c : Nat) (surplus : List (UInt16 × EndpointRef)) (limits : Tune) :
    Episode c s (some (.evict surplus limits)) (s.evictNext surplus limits)
      (eventsOf c .connection (s.evictNext surplus limits).log) := by
  have hpass (id : UInt16) : s.PassesBy c (s.discard id).1 := .of_channels rfl
  have noted (id : UInt16) (n : Next) : eventsOf c .connection (n.noting (s.discard id).2).log =
      eventsOf c .connection n.log := by
    refine (eventsOf_append ..).trans ?_
    rw [eventsOf_eq_nil (fun cb hcb => ?_) (.inl rfl), List.nil_append]
    obtain ⟨f, -, hf⟩ := List.mem_map.1 hcb
    cases hf
  match surplus, s.evictNext surplus limits, s.evictsNext surplus limits with
  | _, _, .done => exact (reply_leavesAlone c s _ (by simp [Task.isAbout])).episode (by simp) (.inl rfl)
  | _, _, .rejected id (e := e) rest hl =>
    rw [noted]
    have hhold : s.PassesBy c ((s.discard id).1.hold e) := (hpass id).trans (.hold hl)
    by_cases he : e = .channel c
    · subst he
      exact (rejected_episode hhold id rest limits rfl).noting _
    · exact (rejected_episode_of_ne he hhold id rest limits rfl).noting _
  | _, _, .gone id (e := e) rest _ =>
    rw [noted]
    refine .aside (hpass id) ?_ ?_ (by simp [Next.follow, Next.noting]) (by simp)
    · show errorsDue c [_] ≤ errorsDue c [_]
      rw [errorsDue_cons, errorsDue_cons, errors_evict_cons]
      exact Nat.add_le_add_right (Nat.le_add_left _ _) _
    · simp [Next.follow, Next.noting, Task.closes]

end Store

/-! ## Tasks and calls -/

namespace Session

open Next (LeavesAlone)
open Store

variable {σ : Session} {t : Task} {rest : List Task} {n : Next} {c : Nat}

/-- A channel that work is left for is held. -/
theorem hasHolder_of_stake (hσ : σ.Reachable) (ht : t ∈ σ.tasks) (h : (t.stake c).held ≠ 0) :
    (σ.store.channel c).HasHolder := by
  obtain ⟨above, below, htasks⟩ := List.append_of_mem ht
  have hheld := (hσ.tracks c).held
  rw [htasks, stakes_append, stakes_cons] at hheld
  simp only [Stake.held_add] at hheld
  rw [Channel.HasHolder]
  omega

/-- At most one of the channels over the limit is the channel, and it has the id. -/
theorem count_surplus_le (hσ : σ.Reachable) (limits : Tune) (c : Nat) :
    let surplus := (σ.store.setLimits limits).connection.registry.surplus
    (surplus.map Prod.snd).count (.channel c) ≤ 1 ∧
      ((surplus.map Prod.snd).count (.channel c) ≠ 0 → ∃ id, σ.store.HasId c id) := by
  intro surplus
  have hown : ∀ x ∈ surplus, x.2 = .channel c → σ.store.HasId c x.1 := fun x hx he =>
    (Registry.mem_surplus hx).trans (congrArg some he)
  constructor
  · -- two entries for the channel would be two for its id
    have hids : ∀ x ∈ surplus.filter (·.2 = .channel c), x.1 = (σ.store.channel c).id := by
      intro x hx
      obtain ⟨hx, he⟩ := List.mem_filter.1 hx
      exact (((hσ.tracks c).named (hown x hx (of_decide_eq_true he))).2.1).symm
    have hnodup : ((surplus.filter (·.2 = .channel c)).map Prod.fst).Nodup :=
      List.Nodup.sublist (List.filter_sublist.map _) (Registry.nodup_map_fst_surplus _)
    have hlen : (surplus.filter (·.2 = .channel c)).length ≤ 1 := by
      generalize surplus.filter (·.2 = .channel c) = entries at hids hnodup
      match entries with
      | [] => exact Nat.zero_le _
      | [_] => exact Nat.le_refl _
      | x :: y :: _ =>
        have hxy : x.1 = y.1 := (hids x (by simp)).trans (hids y (by simp)).symm
        simp [hxy] at hnodup
    rw [List.count, List.countP_map, List.countP_eq_length_filter]
    exact hlen
  · intro hne
    obtain ⟨x, hx, he⟩ := List.mem_map.1 (List.count_pos_iff.1 (Nat.pos_of_ne_zero hne))
    exact ⟨x.1, hown x hx he⟩

theorem accepted_not_mem_log_report (s : Store) (v : Violation) (processed : Nat) (f : Frame) :
    .accepted f ∉ (s.report v processed).log :=
  match s.report v processed, s.reportsFault v processed with
  | _, .late _ => nofun
  | _, .shut _ => nofun

/-- What a frame comes to for a channel. -/
theorem parse_episode (hσ : σ.Reachable) {buffer : Bytes} {processed : Nat}
    (ht : σ.tasks = .parse buffer processed :: rest) (c : Nat) :
    Episode c σ.store (some (.parse buffer processed)) (σ.store.parse buffer processed)
      (eventsOf c (σ.source none) (σ.store.parse buffer processed).log) := by
  have hsource : σ.source none = match σ.routes? with
      | some (.channel c, _) => .channel c
      | _ => .connection := by simp only [source, ht]
  cases hf : σ.takes? with
  | none =>
    rcases parse_of_takes?_none ht hf with h | ⟨v, h⟩ <;> rw [h]
    · exact (LeavesAlone.follow (.refl c _) (endOfParse_isAbout c processed)).episode (by simp)
        (.inr (by simp))
    · exact (report_leavesAlone c _ v processed).episode (by simp)
        (.inr (accepted_not_mem_log_report _ v processed))
  | some f =>
    obtain ⟨p, hparse⟩ := parse_of_takes? hσ hf ht
    obtain ⟨e, n, hn, hr⟩ := σ.store.receive_takesIn f p
    have handled : NoneAbout c [.handled e p n.fault] := by simp [NoneAbout, Task.isAbout]
    have within (hn : LeavesAlone c σ.store n) : LeavesAlone c σ.store (n.within f e p) :=
      ⟨hn.toPassesBy, fun cb hcb => hn.silent cb ((List.mem_cons.1 hcb).resolve_left (by simp)),
        fun t ht => (List.mem_append.1 ht).elim (hn.tasks t) (handled t)⟩
    rw [hparse, hr]
    cases hn with
    | connection hz hn =>
      have hroute : σ.routes? = none := by simp [routes?, hf, hz]
      exact (within (hn.leavesAlone c)).episode (by simp) (.inl (by rw [hsource, hroute]; rfl))
    | ignored =>
      exact (within (.only (.refl c _))).episode (by simp) (.inr (by simp [Next.within, Next.only]))
    | @channel hz hi d he n hn =>
      have hroute : σ.routes? = some (.channel d, f) := routes?_eq_some_iff.2 ⟨hf, hz, hi, he⟩
      obtain ⟨hget, hlive⟩ := addressee?_eq_some_iff.1 he
      rw [hsource, hroute]
      by_cases hd : d = c
      · subst hd
        have hold : (σ.store.hold (.channel d)).connection = σ.store.connection := connection_hold ..
        refine Episode.more (n := n) ?_ rfl rfl handled
        refine Episode.after (hn.episode ⟨f.channel, ?_⟩ ?_) (.hold hlive) hold
        · rw [hasId_iff_of_connection hold]
          exact hget
        · show d < (σ.store.mapChannel d _).channels.length
          rw [length_mapChannel]
          exact lt_length_of_hasHolder (isLive_channel_iff.1 hlive)
      · exact (within (.after (.hold hlive) (hn.leavesAlone hd))).episode (by simp)
          (.inl (beq_eq_false_iff_ne.2 hd))
    | @custom hz hi k he =>
      have hroute : σ.routes? = some (.custom k, f) := routes?_eq_some_iff.2 ⟨hf, hz, hi, he⟩
      have hold : PassesBy c σ.store (σ.store.hold (.custom k)) := .of_channels rfl
      rw [hsource, hroute]
      exact (within (.start hold (by simp [Callback.endpoint?]) (by simp))).episode (by simp) (.inl rfl)

theorem source_eq (ht : σ.tasks = t :: rest) (hp : ∀ buffer processed, t ≠ .parse buffer processed) :
    σ.source none = t.source := by
  unfold source
  rw [ht]
  cases t with
  | parse buffer processed => exact absurd rfl (hp buffer processed)
  | _ => rfl

/-- A flow is answered, or it is too late for an answer. -/
theorem flowReply_episode (s : Store) (d : Nat) (active : Bool) :
    Episode d s (some (.flowReply d active)) (s.reply (.ofChannel (s.channel d).id (.flowOk active)) [])
      (eventsOf d (.channel d) (s.reply (.ofChannel (s.channel d).id (.flowOk active)) []).log) :=
  match s.reply _ [], s.replies (.ofChannel (s.channel d).id (.flowOk active)) [] with
  | _, .sent (n := m) hm => by
    have hleaves := send_leavesAlone d hm
    obtain ⟨-, -, ho, -⟩ := send_cases hm
    rw [show (m.andThen []).log = m.log from rfl, (eventsOf_send hm d).1]
    exact Episode.andThen (.flowOk ho hleaves.toPassesBy hleaves.tasks) (by simp [NoneAbout])
  | _, .unsent _ => (LeavesAlone.refuse s _).episode (by simp) (.inr (by simp))

/-- What a task comes to for a channel. -/
theorem Task.run_episode (hσ : σ.Reachable) (ht : σ.tasks = t :: rest) (hn : t.run σ.store = some n)
    (c : Nat) : Episode c σ.store (some t) n (eventsOf c (σ.source none) n.log) := by
  have hmem : t ∈ σ.tasks := by rw [ht]; exact List.mem_cons_self
  by_cases hp : ∃ buffer processed, t = .parse buffer processed
  · obtain ⟨buffer, processed, rfl⟩ := hp
    cases hn
    exact parse_episode hσ ht c
  rw [source_eq ht fun buffer processed h => hp ⟨buffer, processed, h⟩]
  by_cases hc : t.concerns c = false
  · refine (Task.run_leavesAlone (hσ.isProper t hmem) hc hn).episode (fun text he => ?_) (.inl ?_)
    · cases he
      exact beq_eq_false_iff_ne.1 hc rfl
    · unfold Task.source
      split
      · exact hc
      · exact hc
      · exact hc
      · rfl
  have hc : t.concerns c = true := by rwa [Bool.not_eq_false] at hc
  have holder : (t.stake c).held ≠ 0 → (σ.store.channel c).HasHolder := hasHolder_of_stake hσ hmem
  have notice : t.closes c = 1 → Episode c σ.store (some t) (.start σ.store (.channelClosed c) [])
      (eventsOf c .connection (Next.start σ.store (.channelClosed c) []).log) := by
    intro ht
    simp only [eventsOf_start, ChannelEvent.of?, ↓reduceIte, Option.toList_some]
    exact .closed ht (.refl c _) (by simp [NoneAbout, Next.start, Task.isAbout])
  -- most tasks do nothing once the connection is destroyed
  have dead : (∀ text, t ≠ .channelClosedByPeer c text) → ∀ src, Episode c σ.store (some t)
      (.only σ.store) (eventsOf c src (Next.only σ.store).log) := fun h src =>
    (LeavesAlone.only (.refl c _)).episode (fun text he => h text (Option.some.inj he)) (.inr (by simp))
  cases t with
  | tuned limits =>
    cases hn
    split
    · obtain ⟨hle, hid⟩ := count_surplus_le hσ limits c
      exact .tuned (.of_channels rfl) hle hid rfl (by simp [Next.follow])
    · exact dead (by simp) _
  | evict surplus limits =>
    cases hn
    split
    · exact evictNext_episode _ c surplus limits
    · exact dead (by simp) _
  | notify cb =>
    cases cb with
    | channelClosed d =>
      obtain rfl := beq_iff_eq.1 hc
      cases hn
      exact notice (if_pos rfl)
    | _ => cases hc
  | notifyAlive cb =>
    cases cb with
    | channelClosed d =>
      obtain rfl := beq_iff_eq.1 hc
      cases hn
      split
      · exact notice (if_pos rfl)
      · exact dead (by simp) _
    | _ => cases hc
  | release e =>
    cases e with
    | custom k => cases hc
    | channel d =>
      obtain rfl := beq_iff_eq.1 hc
      cases hn
      refine whenLost_episode (holder ?_) (.lose _ _) (by simp)
      rw [Task.stake, stake_self]
      exact Nat.one_ne_zero
  | closeEach es =>
    cases es with
    | nil => cases hc
    | cons e es =>
      cases e with
      | custom k => cases hc
      | channel d =>
        obtain rfl := beq_iff_eq.1 hc
        cases hn
        split
        · refine Episode.andThen (closeChannel_episode (holder ?_) ?_) (by simp [NoneAbout, Task.isAbout])
          · rw [Task.stake, List.count_cons_self]
            exact Nat.succ_ne_zero _
          · simp
        · refine LeavesAlone.episode ?_ (by simp) (.inr (by simp))
          refine .follow (.refl d _) ?_
          simp [Task.isAbout]
  | invalidateEach es =>
    cases es with
    | nil => cases hc
    | cons e es =>
      cases e with
      | custom k => cases hc
      | channel d =>
        obtain rfl := beq_iff_eq.1 hc
        cases hn
        refine .cut (turnsTo_detach _ d) ?_
        simp [NoneAbout, invalidateEndpoint, Next.only, Next.andThen, Task.isAbout]
  | channelClosedByPeer d text =>
    obtain rfl := beq_iff_eq.1 hc
    cases hn
    simp only [Task.source, eventsOf_start, ChannelEvent.of?, ↓reduceIte, Option.toList_some]
    refine .error rfl ?_ ?_ ?_ ((turnsTo_detach _ d).then (.of_channels rfl)) <;>
      simp [Next.start, Task.errors, Task.closes]
  | flowReply d active =>
    obtain rfl := beq_iff_eq.1 hc
    cases hn
    split
    · exact flowReply_episode σ.store d active
    · exact dead (by simp) _
  | handOver d =>
    obtain rfl := beq_iff_eq.1 hc
    cases hn
    refine LeavesAlone.episode ?_ (by simp) (.inl rfl)
    refine .only (.mapChannel (fun _ => rfl) fun _ => holder ?_)
    rw [Task.stake, stake_self]
    exact Nat.one_ne_zero
  | parse buffer processed => exact absurd ⟨_, _, rfl⟩ hp
  | handled e p v => cases e <;> cases v <;> cases hc
  | _ => cases hc

/-- A new channel is asked for, or cannot be opened. -/
theorem openChannel_episode (s : Store) (c : Nat) : Episode c s none (Call.run .openChannel s)
    (eventsOf c (.channel s.channels.length) (Call.run .openChannel s).log) := by
  have hlen : ∀ ch, s.channels.length < (s.holdHandle.withChannel ch).channels.length := by
    intro ch
    show _ < (s.channels ++ [ch]).length
    rw [List.length_append]
    exact Nat.lt_succ_self _
  have hch : ∀ ch, (s.holdHandle.withChannel ch).channel s.channels.length = ch :=
    s.holdHandle.channel_withChannel
  rw [show Call.run .openChannel s = s.holdHandle.openChannel.2.andThen
    [.releaseHandle, .answer (.opened s.channels.length s.holdHandle.openChannel.1)] from rfl]
  obtain ⟨e, h, -⟩ | ⟨id, r, n, -, -, hn, h⟩ := s.holdHandle.openChannel_cases
  · rw [h]
    by_cases hc : s.channels.length = c
    · subst hc
      exact .fails (Nat.le_refl _) (hch _) (hlen _) (by
        simp [NoneAbout, Next.only, Next.andThen, Task.isAbout]) (.alloc e) (by simp [Next.andThen])
    · refine LeavesAlone.episode ?_ (by simp) (.inr (by simp))
      refine LeavesAlone.andThen (.only ((PassesBy.holdHandle c s).trans ?_)) (by simp [Task.isAbout])
      exact passesBy_withChannel (s := s.holdHandle) hc _
  · rw [h]
    have hleaves : LeavesAlone c _ ((n.andThen [.handOver s.channels.length]).andThen
        [.releaseHandle, .answer (.opened s.channels.length (.ok ()))]) :=
      ((send_leavesAlone c hn).andThen (by simp [Task.isAbout])).andThen (by simp [Task.isAbout])
    by_cases hc : s.channels.length = c
    · subst hc
      dsimp only
      rw [show ((n.andThen _).andThen _).log = n.log from rfl, (eventsOf_send hn _).1]
      refine .asks (Nat.le_refl _) ?_ (hleaves.length.2 (hlen _)) hleaves.tasks
      exact hleaves.state.trans (congrArg Channel.state (hch _))
    · refine LeavesAlone.episode ?_ (by simp) (.inl (beq_eq_false_iff_ne.2 hc))
      refine LeavesAlone.after (PassesBy.trans ?_ (passesBy_withChannel (s := s.holdHandle.mapRegistry fun _ => r) hc _)) hleaves
      exact .of_channels rfl

theorem run_sendOn_of_ok {s : Store} {body : Body} (h : (s.hold (.channel c)).sendOn c body = .ok n) :
    Call.run (.sendOn c body) s = n.andThen [.release (.channel c), .answer (.channel (.ok ()))] := by
  simp only [Call.run, onChannel, h]

theorem run_sendOn_of_error {s : Store} {body : Body} {e : ChannelError}
    (h : (s.hold (.channel c)).sendOn c body = .error e) : Call.run (.sendOn c body) s =
      (Next.only (s.hold (.channel c))).andThen
        [.release (.channel c), .answer (.channel (.error e))] := by
  simp only [Call.run, onChannel, h]

/-- What a call comes to for a channel. -/
theorem Call.run_episode (σ : Session) {call : Call} (hl : call.isLegal σ.store = true) (c : Nat) :
    Episode c σ.store none (call.run σ.store)
      (eventsOf c (σ.source (some (.call call))) (call.run σ.store).log) := by
  by_cases hc : call.concerns c = false
  · refine (Call.run_leavesAlone hl hc).episode (by simp) (.inl ?_)
    unfold source
    split <;> rename_i h <;> cases h <;> first | exact hc | rfl | cases hc
  have hc : call.concerns c = true := by rwa [Bool.not_eq_false] at hc
  -- a call on a channel holds it meanwhile
  have held : ∀ {d : Nat} {x : Except ChannelError Unit} {n : Next} {evs : List ChannelEvent},
      σ.store.isLive (.channel d) = true → Episode c (σ.store.hold (.channel d)) none n evs →
      Episode c σ.store none (n.andThen [.release (.channel d), .answer (.channel x)]) evs :=
    fun hd h => ((h.after (.hold hd) (connection_hold ..)).andThen (by simp [NoneAbout, Task.isAbout]))
  have holder : ∀ {d : Nat}, σ.store.isLive (.channel d) = true →
      ((σ.store.hold (.channel d)).channel d).HasHolder := by
    intro d hd
    have hlt := lt_length_of_hasHolder (isLive_channel_iff.1 hd)
    rw [Store.hold, channel_mapChannel _ hlt, Channel.HasHolder]
    exact Nat.succ_ne_zero _
  cases call with
  | openChannel => exact openChannel_episode σ.store c
  | sendOn d body =>
    obtain rfl := beq_iff_eq.1 hc
    cases h : (σ.store.hold (.channel d)).sendOn d body with
    | ok n =>
      rw [run_sendOn_of_ok h]
      exact held hl (sendOn_episode (holder hl) h)
    | error e =>
      rw [run_sendOn_of_error h]
      refine held hl (LeavesAlone.episode ?_ (by simp) (.inr (by simp)))
      exact .only (.refl d _)
  | closeChannel d =>
    obtain rfl := beq_iff_eq.1 hc
    exact held hl (closeChannel_episode (holder hl) (by simp))
  | dropChannel d =>
    obtain rfl := beq_iff_eq.1 hc
    have hh : (σ.store.channel d).HasHolder := fun h =>
      bne_iff_ne.1 hl (Nat.eq_zero_of_add_eq_zero_right h)
    refine Episode.andThen (whenLost_episode hh ?_ ?_) (by simp [NoneAbout, Task.isAbout])
    · exact .mapChannel (fun _ => rfl) fun _ => hh
    · simp
  | cloneChannel d =>
    obtain rfl := beq_iff_eq.1 hc
    refine LeavesAlone.episode ?_ (by simp) (.inl rfl)
    refine .follow (.mapChannel ?_ fun _ => isLive_channel_iff.1 hl) ?_
    · exact fun _ => rfl
    · simp [Task.isAbout]
  | _ => cases hc

end Session

end AmqpSession
