/-
The pieces that work is made of. User code may run in the middle of every operation and may then
call any other, so what is left of an operation is a value: a stack of tasks, the next one first.
-/
import AmqpSession.Store

namespace AmqpSession

open Wire

/-! ## User code -/

/-- A point where user code runs. -/
inductive Callback where
  /-- Octets for the transport. -/
  | data (octets : Bytes)
  | connected
  | error (text : String)
  | closed
  /-- User code chooses the heartbeat interval. -/
  | negotiate (interval : UInt16)
  | blocked (reason : String)
  | unblocked
  | channelReady (channel : Nat)
  | channelError (channel : Nat) (text : String)
  | channelClosed (channel : Nat)
  | channelFrame (channel : Nat) (body : Body)
  | channelFlow (channel : Nat) (active : Bool)
  | endpointFrame (endpoint : Nat) (frame : Frame)
  | endpointClose (endpoint : Nat)
  | endpointInvalidate (endpoint : Nat)
  | endpointReject (endpoint : Nat) (reason : String)
deriving DecidableEq, Repr

/-- What user code returns. An answer that a callback has no use for counts as `done`. -/
inductive Reply where
  /-- Nothing, or the offered heartbeat interval. -/
  | done
  | interval (seconds : UInt16)
  /-- An endpoint refuses the frame. -/
  | refuse (violation : Violation)
deriving DecidableEq, Repr

/-- What a call returns. -/
inductive Outcome where
  | done
  | consumed (count : Nat)
  | sent (result : Except SendError Unit)
  | closed (result : Except CloseError Unit)
  | registered (result : Except AllocError UInt16)
  | opened (channel : Nat) (result : Except OpenChannelError Unit)
  | channel (result : Except ChannelError Unit)
  | endpoint (number : Nat)

/-- What happens, in the order in which it happens. -/
inductive Event where
  /-- User code starts to run. -/
  | started (callback : Callback)
  /-- A call returns to user code. -/
  | answered (outcome : Outcome)
  /-- A frame was decoded and is now handled. -/
  | received (frame : Frame)
  /-- A frame will be sent, now or later. -/
  | accepted (frame : Frame)
  /-- An accepted frame goes to the transport. -/
  | handed (frame : Frame)
  /-- A frame that was held back will not be sent. -/
  | discarded (frame : Frame)

/-! ## Tasks -/

/-- A buffer whose first `size` octets are the frame being handled, after `processed` octets before
it. -/
structure Parsing where
  buffer : Bytes
  processed : Nat
  size : Nat
deriving DecidableEq, Repr

/-- A piece of work that is done without a break. Where user code runs in between, the rest is tasks of
its own. -/
inductive Task where
  /-- User code is running. -/
  | user (callback : Callback)
  | notify (callback : Callback)
  /-- Nothing once the connection is destroyed. -/
  | notifyAlive (callback : Callback)
  /-- A call returns. -/
  | answer (outcome : Outcome)
  /-- Let go of a handle; the connection is destroyed before the last one goes. -/
  | releaseHandle
  | loseHandle
  /-- Let go of an endpoint. -/
  | release (endpoint : EndpointRef)
  | unregister (endpoint : EndpointRef)
  /-- Go on with the frames in a buffer. -/
  | parse (buffer : Bytes) (processed : Nat)
  /-- A frame was handled, for the endpoint that is still held; `fault` tells how it went. -/
  | handled (endpoint : Option EndpointRef) (parsing : Parsing) (fault : Option Violation)
  /-- Limits are agreed on, with the heartbeat interval that user code chose. -/
  | tuned (limits : Tune)
  /-- Turn away channels over the limit, then announce the limits. -/
  | evict (surplus : List (UInt16 × EndpointRef)) (limits : Tune)
  | requestHost
  /-- Negotiation completed. -/
  | announce
  /-- Send what was held back. -/
  | flush
  | closeEach (endpoints : List EndpointRef)
  | sendClose
  | awaitCloseOk
  | clearRegistry
  | invalidateEach (endpoints : List EndpointRef)
  | destroyed
  /-- The answer to the peer's close is sent. -/
  | closedByPeer (reason : Close)
  /-- The answer to the peer's close of a channel is sent. -/
  | channelClosedByPeer (channel : Nat) (text : String)
  | flowReply (channel : Nat) (active : Bool)
  /-- A channel goes to the caller that opened it. -/
  | handOver (channel : Nat)
  /-- A connection goes to the caller that made it. -/
  | handOverConnection

/-- What a task leads to: a state, tasks that come before all others, and a fault of the frame
being handled. -/
structure Next where
  store : Store
  tasks : List Task := []
  log : List Event := []
  fault : Option Violation := none

namespace Next

/-- Nothing is left to do. -/
def only (s : Store) : Next where
  store := s

/-- The store as it is then, with the tasks that follow. -/
def follow (s : Store) (tasks : List Task) : Next where
  store := s
  tasks := tasks

/-- User code runs first. -/
def start (s : Store) (callback : Callback) (tasks : List Task) : Next where
  store := s
  tasks := .user callback :: tasks
  log := [.started callback]

/-- The frame being handled is a violation. -/
def refuse (s : Store) (v : Violation) : Next where
  store := s
  fault := some v

/-- The same, with more tasks at the end of its own. -/
def andThen (n : Next) (tasks : List Task) : Next := { n with tasks := n.tasks ++ tasks }

end Next

end AmqpSession
