/-
A session: a connection with everything that belongs to it, and the work on it that is not done.
Work goes on by itself (`tick`) until user code has to run; user code then calls an operation
(`call?`) or returns (`return?`). Work goes on exactly where user code does not run
(`tick_eq_none_iff`).
-/
import AmqpSession.Session.Step

namespace AmqpSession

open Wire

/-- A connection with the work that is under way on it. Its tasks are a stack: the first is done next,
and calls from a callback stand above the work that called it back. -/
structure Session where
  store : Store
  tasks : List Task
  /-- What happened, the latest first. -/
  log : List Event

namespace Session

/-! ## Work -/

/-- The fault of the frame being handled is noted where its handling ends. -/
def refuse (v : Violation) : List Task → List Task
  | .handled e p _ :: rest => .handled e p (some v) :: rest
  | tasks => tasks

/-- What follows a task, before the rest of the work. -/
def proceed (n : Next) (log : List Event) (rest : List Task) : Session where
  store := n.store
  tasks := n.tasks ++ match n.fault with
    | some v => refuse v rest
    | none => rest
  log := n.log.reverse ++ log

/-- One task; none while it is user code's turn. -/
def tick (σ : Session) : Option Session :=
  match σ.tasks with
  | [] => none
  | t :: rest => (t.run σ.store).map fun n => proceed n σ.log rest

/-- At most so many tasks. -/
def advance : Nat → Session → Session
  | 0, σ => σ
  | n + 1, σ =>
    match σ.tick with
    | some σ' => advance n σ'
    | none => σ

/-- User code runs, or nothing does. -/
def isIdle (σ : Session) : Bool :=
  match σ.tasks with
  | [] => true
  | .user _ :: _ => true
  | _ => false

/-- Either work goes on or it is user code's turn. -/
theorem tick_eq_none_iff (σ : Session) : σ.tick = none ↔ σ.isIdle = true := by
  unfold tick isIdle
  cases σ.tasks with
  | nil => simp
  | cons t rest =>
    rw [Option.map_eq_none_iff, Task.run_eq_none_iff]
    cases t <;> simp

/-! ## User code -/

/-- What user code can ask for. Handles of the connection and of its channels are its to copy and
to drop. -/
inductive Call where
  | parse (buffer : Bytes)
  | send (frame : Frame)
  | close
  | destroy
  | transportClosed
  | register (endpoint : Nat)
  | unregister (endpoint : Nat)
  | openChannel
  | sendOn (channel : Nat) (body : Body)
  | closeChannel (channel : Nat)
  | cloneHandle
  | dropHandle
  | cloneChannel (channel : Nat)
  | dropChannel (channel : Nat)
  | newEndpoint (id : UInt16)
  | setEndpointId (endpoint : Nat) (id : UInt16)
  | dropEndpoint (endpoint : Nat)
deriving DecidableEq, Repr

/-- A call on the connection needs a handle, one on a channel or endpoint needs it to be there, and
only what user code owns can be dropped. -/
def Call.isLegal (c : Call) (s : Store) : Bool :=
  match c with
  | .parse _ | .send _ | .close | .destroy | .transportClosed | .openChannel | .cloneHandle =>
    s.handles != 0
  | .register n | .unregister n => s.handles != 0 && s.isLive (.custom n)
  | .sendOn c _ | .closeChannel c | .cloneChannel c => s.isLive (.channel c)
  | .dropHandle => s.connection.owned != 0
  | .dropChannel c => (s.channel c).owned != 0
  | .newEndpoint _ => true
  | .setEndpointId n _ => s.isLive (.custom n)
  | .dropEndpoint n => (s.endpoint n).owned != 0

/-- The first part of a call on the connection, whose handle is held until the call returns. -/
def onConnection (s : Store) (n : Store → Next) : Next :=
  (n s.holdHandle).andThen [.releaseHandle, .answer .done]

/-- The first part of a call on the connection that may be refused. A refused call changes
nothing. -/
def tryOnConnection {ε : Type} (s : Store) (outcome : Except ε Unit → Outcome)
    (n : Store → Except ε Next) : Next :=
  match n s.holdHandle with
  | .ok n => n.andThen [.releaseHandle, .answer (outcome (.ok ()))]
  | .error e => .follow s [.answer (outcome (.error e))]

/-- The first part of a call on a channel, which is held until the call returns. -/
def onChannel (s : Store) (c : Nat) (n : Store → Except ChannelError Unit × Next) : Next :=
  let (result, n) := n (s.hold (.channel c))
  n.andThen [.release (.channel c), .answer (.channel result)]

/-- What a call sets going, with its answer at the end. -/
def Call.run (c : Call) (s : Store) : Next :=
  let done : Store → Next := fun s => .follow s [.answer .done]
  match c with
  | .parse buffer => .follow s.holdHandle [.parse buffer 0]
  | .send f => tryOnConnection s .sent (·.send f)
  | .close => tryOnConnection s .closed Store.close
  | .destroy => onConnection s Store.destroy
  | .transportClosed => onConnection s Store.transportClosed
  | .register n =>
    let (result, s) := s.register (.custom n)
    .follow s [.answer (.registered result)]
  | .unregister n => done (s.unregister (.custom n))
  | .openChannel =>
    let (result, n) := s.holdHandle.openChannel
    n.andThen [.releaseHandle, .answer (.opened s.channels.length result)]
  | .sendOn c body =>
    onChannel s c fun s => match s.sendOn c body with
      | .ok n => (.ok (), n)
      | .error e => (.error e, .only s)
  | .closeChannel c => onChannel s c (·.closeChannel c)
  | .cloneHandle => done (s.mapConnection fun k => { k with owned := k.owned + 1 })
  | .dropHandle =>
    .follow (s.mapConnection fun k => { k with owned := k.owned - 1, held := k.held + 1 })
      [.releaseHandle, .answer .done]
  | .cloneChannel c => done (s.mapChannel c fun ch => { ch with owned := ch.owned + 1 })
  | .dropChannel c =>
    let s := s.mapChannel c fun ch => { ch with owned := ch.owned - 1 }
    (s.whenLost (.channel c)).andThen [.answer .done]
  | .newEndpoint id =>
    .follow { s with endpoints := s.endpoints ++ [⟨id, 1, 0⟩] }
      [.answer (.endpoint s.endpoints.length)]
  | .setEndpointId n id => done (s.mapEndpoint n ({ · with id := id }))
  | .dropEndpoint n => done (s.mapEndpoint n fun en => { en with owned := en.owned - 1 })

/-- User code calls an operation. -/
def call? (σ : Session) (c : Call) : Option Session :=
  if σ.isIdle && c.isLegal σ.store then some (proceed (c.run σ.store) σ.log σ.tasks) else none

/-- The heartbeat interval that user code chose is the one agreed on. -/
def choose (seconds : UInt16) : List Task → List Task
  | .tuned limits :: rest => .tuned { limits with heartbeat := seconds } :: rest
  | tasks => tasks

/-- What a reply does to the work that waits for it. Only an endpoint can refuse a frame, and only
negotiation asks for an interval. -/
def answerWith (cb : Callback) (r : Reply) (rest : List Task) : List Task :=
  match cb, r with
  | .negotiate _, .interval seconds => choose seconds rest
  | .endpointFrame _ _, .refuse v => refuse v rest
  | _, _ => rest

/-- User code returns from the callback that it runs in. -/
def return? (σ : Session) (r : Reply) : Option Session :=
  match σ.tasks with
  | .user cb :: rest => some { σ with tasks := answerWith cb r rest }
  | _ => none

/-! ## The beginning -/

/-- A new connection hands the protocol header to its transport before user code has it. -/
def connect (o : Options) : Session :=
  proceed ((Store.new o).offer .greeting) [] [.handOverConnection, .answer .done]

end Session

end AmqpSession
