/-
What a received frame leads to. Channel 0 is for the connection; every other frame goes to the
endpoint that has the channel's id, or nowhere.
-/
import AmqpSession.Session.Operation

namespace AmqpSession

open Wire

namespace Store

/-! ## Methods of the connection -/

/-- A method that has no place in this state. -/
def unexpected (s : Store) (m : ConnectionMethod) : Next :=
  .refuse s (.unexpectedMethod connectionClass m.id s.connection.state)

/-- The locale that this side asks for. -/
def locale : String := "en_US"

/-- The answer to the server's offer, with what this side can do and its login. -/
def startOk (s : Store) : StartOk where
  clientProperties := .empty
  mechanism := Login.mechanism
  response := s.connection.options.login.initialResponse
  locale := locale

/-- Takes the offer up, or refuses it. The version is looked at before the mechanisms. -/
def receiveStart (s : Store) (offer : Start) : Next :=
  if offer.versionMajor ≠ 0 ∨ offer.versionMinor ≠ 9 then
    .refuse s (.versionMismatch offer.versionMajor offer.versionMinor)
  else if !offer.supportsMechanism Login.mechanism then
    .refuse s (.mechanismNotSupported Login.mechanism)
  else
    let s := s.setState .negotiatingTuning
    s.reply (.ofConnection (.startOk s.startOk)) []

/-- Settles the limits. The owner is asked for the heartbeat before anything else comes of them. -/
def receiveTune (s : Store) (theirs : Tune) : Next :=
  let limits := s.connection.options.agree theirs
  .start s (.negotiate limits.heartbeat) [.tuned limits]

/-- A close that was put off is carried out now, behind what is held back. -/
def receiveOpenOk (s : Store) : Next :=
  let s := s.setState .connected
  let n := if s.connection.closeRequested then s.sendClose else .only s
  n.andThen [.announce]

/-- The peer's close is confirmed whatever the state. -/
def receiveClose (s : Store) (reason : Close) : Next :=
  .start s (.data (Frame.ofConnection .closeOk).toWire.octets) [.closedByPeer reason]

/-- The peer confirms the close that was sent. -/
def receiveCloseOk (s : Store) : Next :=
  let (s, es) := s.shut
  .follow s [.invalidateEach es, .notifyAlive .closed]

/-- What a method on channel 0 leads to, by the state of the connection. -/
def receiveConnectionMethod (s : Store) (m : ConnectionMethod) : Next :=
  match m with
  | .start offer =>
    if s.connection.state = .negotiatingProtocol then s.receiveStart offer else s.unexpected m
  | .secure _ => .refuse s .challengeNotSupported
  | .tune limits =>
    if s.connection.state = .negotiatingTuning then s.receiveTune limits else s.unexpected m
  | .openOk => if s.connection.state = .negotiatingTuning then s.receiveOpenOk else s.unexpected m
  | .close reason => s.receiveClose reason
  | .closeOk => if s.connection.state = .closing then s.receiveCloseOk else s.unexpected m
  | .blocked reason => .start s (.blocked reason) []
  | .unblocked => .start s .unblocked []
  | .startOk _ | .secureOk _ | .tuneOk _ | .openRequest _ => s.unexpected m

/-! ## Frames of a channel -/

/-- A violation of the channel's rules. -/
def channelFault (s : Store) (c : Nat) (fault : ChannelFault) : Next :=
  .refuse s (.channel (s.channel c).id fault)

/-- What a method on a channel leads to, by the state of the channel. -/
def receiveChannelMethod (s : Store) (c : Nat) (m : ChannelMethod) : Next :=
  let state := (s.channel c).state
  match m with
  | .close reason =>
    s.reply (.ofChannel (s.channel c).id .closeOk) [.channelClosedByPeer c reason.replyText]
  | .openOk =>
    if state = .opening then .start (s.setChannelState c .open) (.channelReady c) []
    else s.channelFault c (.unexpectedMethod channelClass m.id state)
  | .closeOk =>
    if state = .closing then .start (s.retire c) (.channelClosed c) []
    else s.channelFault c (.unexpectedMethod channelClass m.id state)
  | .flow active =>
    if state = .open ∨ state = .closing then .start s (.channelFlow c active) [.flowReply c active]
    else s.channelFault c (.unexpectedMethod channelClass m.id state)
  | .openRequest | .flowOk _ => s.channelFault c (.unexpectedMethod channelClass m.id state)

/-- A closing channel passes over what the peer sent before it saw the close. -/
def receiveOnChannel (s : Store) (c : Nat) (body : Body) : Next :=
  match body with
  | .method (.channel m) => s.receiveChannelMethod c m
  | .method (.connection m) => s.channelFault c (.connectionMethod m.id)
  | body =>
    match (s.channel c).state with
    | .open => .start s (.channelFrame c body) []
    | .closing => .only s
    | .opening | .closed => s.channelFault c .beforeOpenOk

/-- The endpoint is held while it handles the frame. -/
def deliver (s : Store) (e : EndpointRef) (f : Frame) : Next :=
  match e with
  | .channel c => s.receiveOnChannel c f.body
  | .custom n => .start s (.endpointFrame n f) []

/-- The endpoint that a frame goes to. -/
def addressee? (s : Store) (f : Frame) : Option EndpointRef :=
  match s.connection.registry.get? f.channel with
  | some e => if s.isLive e then some e else none
  | none => none

/-- The frame is handled by the connection itself. -/
def receiveOnConnection (s : Store) (body : Body) : Next :=
  match body with
  | .heartbeat => .only s
  | .method (.connection m) => s.receiveConnectionMethod m
  | .method m => .refuse s (.unexpectedMethod m.classId m.methodId s.connection.state)
  | .protocolHeader _ | .header _ | .content _ => .refuse s .unexpectedContent

/-- Handles the frame at the front of a buffer. While closing, frames for channels are passed
over. -/
def receive (s : Store) (f : Frame) (p : Parsing) : Next :=
  let (holder, n) : Option EndpointRef × Next :=
    if f.channel = 0 then (none, s.receiveOnConnection f.body)
    else if f.body = .heartbeat ∨ s.connection.state = .closing then (none, .only s)
    else match s.addressee? f with
      | some e => (some e, (s.hold e).deliver e f)
      | none => (none, .only s)
  { n with
    tasks := n.tasks ++ [.handled holder p n.fault]
    log := .received f :: n.log
    fault := none }

end Store

end AmqpSession
