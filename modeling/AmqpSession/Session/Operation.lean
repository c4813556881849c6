/-
What the operations on a connection and on its channels do up to the first point where user code
runs, and the tasks that they leave for after it.
-/
import AmqpSession.Session.Task

namespace AmqpSession

open Wire

namespace Store

/-! ## Sending -/

/-- A frame goes out at once if nothing is held back or if negotiation needs it; otherwise it is
held back itself. -/
def sendsAtOnce (s : Store) (f : Frame) : Bool :=
  (s.connection.state = .connected && s.connection.queue.isEmpty) || f.isPartOfHandshake

/-- A frame goes out or is held back, unless the connection is on its way out or the frame cannot be
written. -/
def send (s : Store) (f : Frame) : Except SendError Next :=
  if s.connection.state = .closing ∨ s.connection.state = .closed then .error .closed
  else match f.toWire.result with
    | .error fault => .error (.encode fault)
    | .ok octets =>
      if s.sendsAtOnce f then
        .ok { store := s, tasks := [.user (.data octets)],
              log := [.accepted f, .handed f, .started (.data octets)] }
      else .ok { store := s.enqueue f, log := [.accepted f] }

/-- A frame that goes out if it can; its sender does not mind. -/
def offer (s : Store) (f : Frame) : Next :=
  match s.send f with
  | .ok n => n
  | .error _ => .only s

/-- A reply to the frame being handled, then the given tasks. -/
def reply (s : Store) (f : Frame) (tasks : List Task) : Next :=
  match s.send f with
  | .ok n => n.andThen tasks
  | .error e => .refuse s (.send e)

/-! ## Channels -/

/-- The close that a channel sends. -/
def channelClose (s : Store) (c : Nat) : Frame :=
  .ofChannel (s.channel c).id (.close (.plain replySuccess ""))

/-- The channel is on its way to be closed even if its close cannot be sent. -/
def closeChannel (s : Store) (c : Nat) : Except ChannelError Unit × Next :=
  match (s.channel c).state with
  | .closing => (.ok (), .only s)
  | .closed => (.error .notOpen, .only s)
  | .opening | .open =>
    if s.reaches c then
      let s := s.setChannelState c .closing
      match s.holdHandle.send (s.channelClose c) with
      | .ok n => (.ok (), n.andThen [.releaseHandle])
      | .error e => (.error (.send e), .only s)
    else (.error .detached, .only s)

/-- Sends a frame on a channel, under the channel's id. -/
def sendOn (s : Store) (c : Nat) (body : Body) : Except ChannelError Next :=
  if s.reaches c then
    match (s.channel c).state with
    | .opening | .open =>
      match s.holdHandle.send ⟨(s.channel c).id, body⟩ with
      | .ok n => .ok (n.andThen [.releaseHandle])
      | .error e => .error (.send e)
    | .closing | .closed => .error .notOpen
  else .error .detached

/-- Nobody holds the channel any more: it sends its close if it still can, and frees its id. -/
def dropChannel (s : Store) (c : Nat) : Next :=
  if s.reaches c then
    let s := s.holdHandle
    let n := match (s.channel c).state with
      | .opening | .open => s.offer (s.channelClose c)
      | .closing | .closed => .only s
    n.andThen [.unregister (.channel c), .releaseHandle]
  else .only s

/-- What follows when one holder of an endpoint let go of it. -/
def whenLost (s : Store) (e : EndpointRef) : Next :=
  match e with
  | .channel c => if s.isLive e then .only s else s.dropChannel c
  | .custom _ => .only s

/-- A channel that gives its id back is closed. -/
def retire (s : Store) (c : Nat) : Store := (s.detach c).unregister (.channel c)

/-- A new channel with an id of the registry. It is asked for before user code has it. -/
def openChannel (s : Store) : Except OpenChannelError Unit × Next :=
  let c := s.channels.length
  let s := { s with channels := s.channels ++ [Channel.new] }
  let failed := fun (s : Store) => (s.detach c).lose (.channel c)
  if s.connection.state = .closing ∨ s.connection.state = .closed then
    (.error (.alloc .illegalState), .only (failed s))
  else match s.connection.registry.register (.channel c) with
    | .error e => (.error (.alloc e), .only (failed s))
    | .ok (id, registry) =>
      let s := (s.mapRegistry fun _ => registry).mapChannel c ({ · with id := id })
      match s.send (.ofChannel id .openRequest) with
      | .ok n => (.ok (), n.andThen [.handOver c])
      | .error e => (.error (.send e), .only (failed (s.retire c)))

/-! ## The connection -/

/-- Gives an id to an endpoint, as long as the connection is not on its way out. -/
def register (s : Store) (e : EndpointRef) : Except AllocError UInt16 × Store :=
  if s.connection.state = .closing ∨ s.connection.state = .closed then (.error .illegalState, s)
  else match s.connection.registry.register e with
    | .error e => (.error e, s)
    | .ok (id, registry) => (.ok id, s.mapRegistry fun _ => registry)

/-- Every channel is closed, then the connection. -/
def sendClose (s : Store) : Next :=
  let (s, es) := s.holdRegistered
  .follow s [.closeEach es, .sendClose]

/-- During negotiation a close is only noted. -/
def close (s : Store) : Except CloseError Next :=
  if s.connection.closeRequested ∨ s.connection.state = .closed then .error .alreadyClosed
  else
    let s := s.mapConnection ({ · with closeRequested := true })
    .ok (if s.connection.state = .connected then s.sendClose else .only s)

/-- A close is tried, every channel is cut off, and nothing happens any more. -/
def destroy (s : Store) : Next :=
  if s.connection.alive then
    let n := match s.close with
      | .ok n => n
      | .error _ => .only s
    n.andThen [.clearRegistry, .destroyed]
  else .only s

/-- The last handle takes the connection with it. -/
def releaseHandle (s : Store) : Next :=
  if s.handles = 1 then s.destroy.andThen [.loseHandle] else .only s.loseHandle

/-- The transport is gone: the connection is closed, its channels are cut off, and user code is told
last. -/
def transportClosed (s : Store) : Next :=
  if s.connection.state = .closed then .only s
  else
    let (s, es) := s.shut
    .follow s [.invalidateEach es, .notifyAlive .closed]

end Store

end AmqpSession
