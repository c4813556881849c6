/-
Frames and their form on the wire: type, channel, payload size, payload and the frame end octet.
The protocol header counts as a frame that is sent bare.
-/
import AmqpSession.Wire.Method.Encode
import AmqpSession.Wire.ProtocolHeader

namespace AmqpSession.Wire

/-- The head of a message; its property list stays encoded. -/
structure ContentHeader where
  classId : UInt16
  weight : UInt16
  /-- Size of the body frames that follow. -/
  bodySize : UInt64
  properties : Bytes
deriving DecidableEq, Repr

/-- What a frame carries. -/
inductive Body where
  | protocolHeader (header : ProtocolHeader)
  | method (method : Method)
  | header (header : ContentHeader)
  | content (data : Bytes)
  | heartbeat
deriving DecidableEq, Repr

/-- A frame and the channel that it belongs to; channel 0 is the connection itself. -/
structure Frame where
  channel : UInt16
  body : Body
deriving DecidableEq, Repr

/-! ## Layout -/

/-- The octet after the payload of every frame. -/
def frameEnd : UInt8 := 0xce

/-- Every peer accepts frames up to this size, whatever is agreed on. -/
def frameMinSize : UInt32 := 4096

/-- What the first octet of a frame tells of its payload. -/
inductive FrameType where
  | method
  | header
  | content
  | heartbeat
deriving DecidableEq, Repr

namespace FrameType

/-- The first octet of a frame of this type. -/
def toOctet : FrameType → UInt8
  | .method => 1
  | .header => 2
  | .content => 3
  | .heartbeat => 8

/-- The type that the first octet of a frame tells; most octets tell none. -/
def ofOctet? (b : UInt8) : Option FrameType :=
  match b.toNat with
  | 1 => some .method
  | 2 => some .header
  | 3 => some .content
  | 8 => some .heartbeat
  | _ => none

end FrameType

namespace Frame

/-! ## Common frames -/

/-- A method of the connection. -/
def ofConnection (m : ConnectionMethod) : Frame := ⟨0, .method (.connection m)⟩

/-- A method of a channel. -/
def ofChannel (channel : UInt16) (m : ChannelMethod) : Frame := ⟨channel, .method (.channel m)⟩

/-- What a client sends first. -/
def greeting : Frame := ⟨0, .protocolHeader .supported⟩

/-- A sign that this side is still there. -/
def heartbeat : Frame := ⟨0, .heartbeat⟩

/-! ## Encoding -/

/-- The protocol header has no frame end octet. -/
def needsTerminator (f : Frame) : Bool :=
  match f.body with
  | .protocolHeader _ => false
  | _ => true

/-- Frames that may be sent before the connection is established. The body alone decides. -/
def isPartOfHandshake (f : Frame) : Bool :=
  match f.body with
  | .protocolHeader _ => true
  | .method (.connection m) =>
    match m with
    | .startOk _ | .secureOk _ | .tuneOk _ | .openRequest _ => true
    | _ => false
  | _ => false

/-- Type, channel and payload size. -/
def head (type : FrameType) (channel : UInt16) (size : Nat) : Bytes :=
  type.toOctet :: (bigEndian 2 channel.toNat ++ bigEndian 4 size)

/-- The size is filled in last, so a frame whose payload fails shows size 0. -/
def encodePayload (type : FrameType) (channel : UInt16) (payload : Draft) : Draft :=
  match payload.fault with
  | some fault => ⟨head type channel 0 ++ payload.octets, some fault⟩
  | none =>
    let size := payload.octets.length
    if size < UInt32.size then .raw (head type channel size ++ payload.octets)
    else ⟨head type channel 0 ++ payload.octets, some (.payloadTooLarge size)⟩

/-- The frame without its frame end octet. -/
def encode (f : Frame) : Draft :=
  match f.body with
  | .protocolHeader h => .raw h.toBytes
  | .method m => encodePayload .method f.channel m.encode
  | .header h =>
    encodePayload .header f.channel
      (.short h.classId ++ .short h.weight ++ .longLong h.bodySize ++ .raw h.properties)
  | .content data => encodePayload .content f.channel (.raw data)
  | .heartbeat => encodePayload .heartbeat f.channel .empty

/-- The frame as it travels, the frame end octet included. -/
def toWire (f : Frame) : Draft :=
  f.encode ++ if f.needsTerminator then .octet frameEnd else .empty

end Frame

end AmqpSession.Wire
