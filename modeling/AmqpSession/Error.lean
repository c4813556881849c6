/-
Why an operation is refused (`SendError`, `AllocError`, `CloseError`, `ChannelError`,
`OpenChannelError`), and what the peer may not do (`Violation`), each with its wording.
-/
import AmqpSession.Lifecycle
import AmqpSession.Wire.Fault

namespace AmqpSession

open Wire

/-- Why a frame is not sent. -/
inductive SendError where
  /-- The connection is closing or closed. -/
  | closed
  | encode (fault : EncodeFault)
deriving DecidableEq, Repr

/-- Why no channel id is given out. -/
inductive AllocError where
  /-- The connection is closing or closed. -/
  | illegalState
  /-- The limit is reached, or every id is in use. -/
  | channelMaxReached
deriving DecidableEq, Repr

/-- Why a connection is not closed. -/
inductive CloseError where
  | alreadyClosed
deriving DecidableEq, Repr

/-- Why an operation on a channel is refused. -/
inductive ChannelError where
  /-- The connection is gone. -/
  | detached
  | notOpen
  | send (error : SendError)
deriving DecidableEq, Repr

/-- Why no channel is opened: there is no id for it, or it cannot be asked for. -/
inductive OpenChannelError where
  | alloc (error : AllocError)
  | send (error : SendError)
deriving DecidableEq, Repr

/-- Why a channel refuses a frame. -/
inductive ChannelFault where
  | connectionMethod (methodId : UInt16)
  | unexpectedMethod (classId methodId : UInt16) (state : ChannelState)
  | beforeOpenOk
  /-- In the words of an endpoint of its own making. -/
  | described (text : String)
deriving DecidableEq, Repr

/-- What ends a connection: a frame that the peer should not have sent, or a reply to one of its
frames that cannot be sent. -/
inductive Violation where
  | frame (fault : DecodeFault)
  | unexpectedMethod (classId methodId : UInt16) (state : ConnectionState)
  | unexpectedContent
  | versionMismatch (major minor : UInt8)
  | mechanismNotSupported (mechanism : String)
  | challengeNotSupported
  | channel (id : UInt16) (fault : ChannelFault)
  | send (error : SendError)
deriving DecidableEq, Repr

/-! ## Wording -/

/-- The wording of a frame that is not sent. -/
def SendError.message : SendError → String
  | .closed => "Connection is closing or closed"
  | .encode fault => fault.message

/-- The wording of an id that is not given out. -/
def AllocError.message : AllocError → String
  | .illegalState => "Illegal local state"
  | .channelMaxReached => "Reached connection channel max"

/-- The wording of a close that is refused. -/
def CloseError.message : CloseError → String
  | .alreadyClosed => "Connection is already closed"

/-- The wording of an operation on a channel that is refused. -/
def ChannelError.message : ChannelError → String
  | .detached => "Channel is detached from its connection"
  | .notOpen => "Channel is not open"
  | .send error => error.message

/-- The wording of a channel that is not opened, in the words of what went wrong. -/
def OpenChannelError.message : OpenChannelError → String
  | .alloc error => error.message
  | .send error => error.message

/-- The wording of a frame that a channel refuses. The channel is named by `Violation.message`. -/
def ChannelFault.message : ChannelFault → String
  | .connectionMethod methodId => s!"connection method {methodId.toNat} on a channel"
  | .unexpectedMethod classId methodId state =>
    s!"unexpected method {classId.toNat}.{methodId.toNat} in state {state.name}"
  | .beforeOpenOk => "frame before channel.open-ok"
  | .described text => text

/-- The wording that user code is told when the connection ends. -/
def Violation.message : Violation → String
  | .frame fault => fault.message
  | .unexpectedMethod classId methodId state =>
    s!"Unexpected method {classId.toNat}.{methodId.toNat} in state {state.name}"
  | .unexpectedContent => "Unexpected content frame on channel 0"
  | .versionMismatch major minor =>
    s!"Server offered protocol version {major.toNat}-{minor.toNat}"
  | .mechanismNotSupported mechanism => s!"Server does not support the {mechanism} mechanism"
  | .challengeNotSupported => "SASL challenge is not supported"
  | .channel id fault => s!"Channel {id.toNat}: {fault.message}"
  | .send error => error.message

end AmqpSession
