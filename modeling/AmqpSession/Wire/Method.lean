/-
Methods: the payload of a method frame. The classes `connection` and `channel` are spelled out;
the arguments of every other class stay encoded.
-/
import AmqpSession.Text.Pieces
import AmqpSession.Wire.Argument

namespace AmqpSession.Wire

/-- The class of the methods that concern the connection as a whole. -/
def connectionClass : UInt16 := 10

/-- The class of the methods that concern one channel. -/
def channelClass : UInt16 := 20

/-- The offer that opens a negotiation. -/
structure Start where
  versionMajor : UInt8
  versionMinor : UInt8
  serverProperties : FieldTable
  /-- Names of security mechanisms, separated by single spaces. -/
  mechanisms : Bytes
  locales : Bytes
deriving DecidableEq, Repr

/-- The answer to the offer: a mechanism and what it needs, and a locale. -/
structure StartOk where
  clientProperties : FieldTable
  mechanism : String
  response : Bytes
  locale : String
deriving DecidableEq, Repr

/-- The limits of a connection; 0 stands for no limit. -/
structure Tune where
  channelMax : UInt16
  frameMax : UInt32
  heartbeat : UInt16
deriving DecidableEq, Repr

/-- Why a connection or a channel is closed, and the method that was the cause, if one was. -/
structure Close where
  replyCode : UInt16
  replyText : String
  classId : UInt16
  methodId : UInt16
deriving DecidableEq, Repr

/-- The methods of the class `connection`, without their reserved arguments. -/
inductive ConnectionMethod where
  | start (offer : Start)
  | startOk (choice : StartOk)
  | secure (challenge : Bytes)
  | secureOk (response : Bytes)
  | tune (limits : Tune)
  | tuneOk (limits : Tune)
  | openRequest (virtualHost : String)
  | openOk
  | close (reason : Close)
  | closeOk
  | blocked (reason : String)
  | unblocked
deriving DecidableEq, Repr

/-- The methods of the class `channel`, without their reserved arguments. -/
inductive ChannelMethod where
  | openRequest
  | openOk
  | flow (active : Bool)
  | flowOk (active : Bool)
  | close (reason : Close)
  | closeOk
deriving DecidableEq, Repr

/-- A method of a class that is spelled out, or of another one. -/
inductive Method where
  | connection (method : ConnectionMethod)
  | channel (method : ChannelMethod)
  | other (classId methodId : UInt16) (arguments : Bytes)
deriving DecidableEq, Repr

/-! ## Security mechanisms -/

/-- The mechanism is one of the names in the offer. -/
def Start.supportsMechanism (offer : Start) (mechanism : String) : Bool :=
  (Text.pieces (· == 0x20) offer.mechanisms).contains (Utf8.encode mechanism)

/-! ## Reply codes -/

/-- The reply code of a shutdown without an error. -/
def replySuccess : UInt16 := 200

namespace Close

/-- A close that no method caused. -/
def plain (replyCode : UInt16) (replyText : String) : Close := ⟨replyCode, replyText, 0, 0⟩

/-- The connection or channel is closed without an error. -/
def isSuccess (c : Close) : Bool := c.replyCode = replySuccess

end Close

/-! ## Numbers of the methods -/

/-- The number of a method in the class `connection`. -/
def ConnectionMethod.id : ConnectionMethod → UInt16
  | .start _ => 10
  | .startOk _ => 11
  | .secure _ => 20
  | .secureOk _ => 21
  | .tune _ => 30
  | .tuneOk _ => 31
  | .openRequest _ => 40
  | .openOk => 41
  | .close _ => 50
  | .closeOk => 51
  | .blocked _ => 60
  | .unblocked => 61

/-- The number of a method in the class `channel`. -/
def ChannelMethod.id : ChannelMethod → UInt16
  | .openRequest => 10
  | .openOk => 11
  | .flow _ => 20
  | .flowOk _ => 21
  | .close _ => 40
  | .closeOk => 41

namespace Method

/-- The number of a method's class. -/
def classId : Method → UInt16
  | .connection _ => connectionClass
  | .channel _ => channelClass
  | .other classId _ _ => classId

/-- The number of a method in its class. -/
def methodId : Method → UInt16
  | .connection m => m.id
  | .channel m => m.id
  | .other _ methodId _ => methodId

end Method

end AmqpSession.Wire
