/-
The states of a connection and of a channel, in the order in which they are meant to be passed.
-/

namespace AmqpSession

/-- How far a connection has come. -/
inductive ConnectionState where
  /-- The protocol header is sent. -/
  | negotiatingProtocol
  /-- The server's offer is answered; limits and virtual host are being settled. -/
  | negotiatingTuning
  | connected
  /-- A close is sent and not yet confirmed. -/
  | closing
  | closed
deriving DecidableEq, Repr

/-- How far a channel has come. -/
inductive ChannelState where
  | opening
  | «open»
  | closing
  | closed
deriving DecidableEq, Repr

/-- The place of a state in a connection's life. -/
def ConnectionState.rank : ConnectionState → Nat
  | .negotiatingProtocol => 0
  | .negotiatingTuning => 1
  | .connected => 2
  | .closing => 3
  | .closed => 4

/-- The place of a state in a channel's life. -/
def ChannelState.rank : ChannelState → Nat
  | .opening => 0
  | .open => 1
  | .closing => 2
  | .closed => 3

/-- The state as it stands in messages. -/
def ConnectionState.name : ConnectionState → String
  | .negotiatingProtocol => "NegotiatingProtocol"
  | .negotiatingTuning => "NegotiatingTuning"
  | .connected => "Connected"
  | .closing => "Closing"
  | .closed => "Closed"

/-- The state as it stands in messages. -/
def ChannelState.name : ChannelState → String
  | .opening => "Opening"
  | .open => "Open"
  | .closing => "Closing"
  | .closed => "Closed"

end AmqpSession
