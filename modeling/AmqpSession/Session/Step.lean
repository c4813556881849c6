/-
One task at a time. What is left of an operation after user code ran goes by the state that user
code left behind, and most of it is dropped once the connection is destroyed.
-/
import AmqpSession.Session.Receive
import AmqpSession.Wire.Frame.Decode

namespace AmqpSession

open Wire

namespace Store

/-- A call to `parse` ends, and lets go of its handle. -/
def endOfParse (processed : Nat) : List Task := [.releaseHandle, .answer (.consumed processed)]

/-- The peer broke the protocol: the connection is closed and user code told, unless it was
destroyed. The offending frame is not counted. -/
def report (s : Store) (v : Violation) (processed : Nat) : Next :=
  if s.connection.alive then
    let (s, es) := s.shut
    .follow s ([.invalidateEach es, .notify (.error v.message)] ++ endOfParse processed)
  else .follow s (endOfParse processed)

/-- Takes the next frame off a buffer, as long as the connection is there to handle it. -/
def parse (s : Store) (buffer : Bytes) (processed : Nat) : Next :=
  if buffer.isEmpty || !s.connection.alive || s.connection.state = .closed then
    .follow s (endOfParse processed)
  else match Frame.decode buffer s.connection.maxFrameSize with
    | .error fault => s.report (.frame fault) processed
    | .ok none => .follow s (endOfParse processed)
    | .ok (some r) => s.receive r.frame ⟨buffer, processed, r.size⟩

/-- The limits are in force before the first channel over them is turned away. -/
def setLimits (s : Store) (limits : Tune) : Store :=
  s.mapConnection fun k =>
    { k with
      maxFrameSize := limits.frameMax
      heartbeat := limits.heartbeat
      registry := { k.registry with channelMax := limits.channelMax } }

/-- Why a channel over the limit is turned away. -/
def surplusReason : String := "channel-max exceeded"

/-- Turns an endpoint away that has no room under the agreed limit. -/
def rejectEndpoint (s : Store) (e : EndpointRef) : Next :=
  match e with
  | .channel c =>
    .start (s.detach c) (.channelError c surplusReason) [.notifyAlive (.channelClosed c)]
  | .custom n => .start s (.endpointReject n surplusReason) []

/-- The frames held back for a channel will not be sent. -/
def discard (s : Store) (id : UInt16) : Store × List Event :=
  (s.mapConnection fun k => { k with queue := k.queue.filter (·.channel != id) },
    (s.connection.queue.filter (·.channel == id)).map .discarded)

/-- Turns away what is over the limit, one by one; the limits are confirmed when none is left. -/
def evictNext (s : Store) (surplus : List (UInt16 × EndpointRef)) (limits : Tune) : Next :=
  match surplus with
  | [] => s.reply (.ofConnection (.tuneOk limits)) [.requestHost]
  | (id, e) :: rest =>
    let (s, events) := s.discard id
    let n :=
      if s.isLive e then ((s.hold e).rejectEndpoint e).andThen [.release e, .evict rest limits]
      else .follow s [.evict rest limits]
    { n with log := events ++ n.log }

/-- Closes an endpoint: a channel sends its close, and one of user code is asked to. -/
def closeEndpoint (s : Store) (e : EndpointRef) : Next :=
  match e with
  | .channel c => (s.closeChannel c).2
  | .custom n => .start s (.endpointClose n) []

/-- Cuts an endpoint off. A channel is not told, one of user code is. -/
def invalidateEndpoint (s : Store) (e : EndpointRef) : Next :=
  match e with
  | .channel c => .only (s.detach c)
  | .custom n => .start s (.endpointInvalidate n) []

/-- The reply text of the close that this side sends. -/
def closeText : String := "shutdown"

/-- The close that this side sends for itself. -/
def connectionClose : Frame := .ofConnection (.close (.plain replySuccess closeText))

/-- What follows the answer to the peer's close. -/
def afterPeersClose (reason : Close) : List Task :=
  if reason.isSuccess then [.notify .closed]
  else [.notify (.error reason.replyText), .notifyAlive .closed]

end Store

/-- What a task leads to; none while user code runs. -/
def Task.run (t : Task) (s : Store) : Option Next :=
  let k := s.connection
  match t with
  | .user _ => none
  | .notify cb => some (.start s cb [])
  | .notifyAlive cb => some (if k.alive then .start s cb [] else .only s)
  | .answer outcome => some { store := s, log := [.answered outcome] }
  | .releaseHandle => some s.releaseHandle
  | .loseHandle => some (.only s.loseHandle)
  | .release e => some ((s.lose e).whenLost e)
  | .unregister e => some (.only (s.unregister e))
  | .parse buffer processed => some (s.parse buffer processed)
  | .handled (some e) p fault => some (.follow s [.release e, .handled none p fault])
  | .handled none p none => some (.follow s [.parse (p.buffer.drop p.size) (p.processed + p.size)])
  | .handled none p (some v) => some (s.report v p.processed)
  | .tuned limits =>
    some (if k.alive then
        let s := s.setLimits limits
        let surplus := s.connection.registry.surplus
        .follow (s.mapRegistry .evict) [.evict surplus limits]
      else .only s)
  | .evict surplus limits => some (if k.alive then s.evictNext surplus limits else .only s)
  | .requestHost =>
    some (if k.alive then s.reply (.ofConnection (.openRequest k.options.virtualHost)) []
      else .only s)
  | .announce => some (if k.alive then .start s .connected [.flush] else .only s)
  | .flush =>
    some (match k.queue with
      | f :: rest =>
        if k.alive then
          let octets := f.toWire.octets
          { store := s.mapConnection ({ · with queue := rest })
            tasks := [.user (.data octets), .flush]
            log := [.handed f, .started (.data octets)] }
        else .only s
      | [] => .only s)
  | .closeEach [] => some (.only s)
  | .closeEach (e :: es) =>
    some (if k.alive then (s.closeEndpoint e).andThen [.release e, .closeEach es]
      else .follow s ((e :: es).map .release))
  | .sendClose =>
    some (if k.alive then (s.offer Store.connectionClose).andThen [.awaitCloseOk] else .only s)
  | .awaitCloseOk => some (if k.alive then .only (s.setState .closing) else .only s)
  | .clearRegistry =>
    let (s, es) := s.clearRegistry
    some (.follow s [.invalidateEach es])
  | .invalidateEach [] => some (.only s)
  | .invalidateEach (e :: es) =>
    some ((s.invalidateEndpoint e).andThen [.release e, .invalidateEach es])
  | .destroyed => some (.only ((s.setState .closed).mapConnection ({ · with alive := false })))
  | .closedByPeer reason =>
    some (if k.alive then
        let (s, es) := s.shut
        .follow s (.invalidateEach es :: Store.afterPeersClose reason)
      else .only s)
  | .channelClosedByPeer c text =>
    some (.start (s.retire c) (.channelError c text) [.notifyAlive (.channelClosed c)])
  | .flowReply c active =>
    some (if k.alive then s.reply (.ofChannel (s.channel c).id (.flowOk active)) [] else .only s)
  | .handOver c =>
    some (.only (s.mapChannel c fun ch => { ch with held := ch.held - 1, owned := ch.owned + 1 }))
  | .handOverConnection =>
    some (.only (s.mapConnection fun k => { k with held := k.held - 1, owned := k.owned + 1 }))

/-- Only user code keeps a task waiting. -/
theorem Task.run_eq_none_iff (t : Task) (s : Store) : t.run s = none ↔ ∃ cb, t = .user cb := by
  unfold Task.run
  split <;> simp

end AmqpSession
