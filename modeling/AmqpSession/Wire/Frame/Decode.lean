/-
The incremental decoder: from the octets that have arrived it takes the first frame, asks for
more (`none`), or reports a violation as soon as one can be seen.
-/
import AmqpSession.Wire.Frame
import AmqpSession.Wire.Method.Decode

namespace AmqpSession.Wire

/-- A frame and the number of octets that it took. -/
structure Received where
  frame : Frame
  size : Nat
deriving DecidableEq, Repr

namespace Reader

/-- The payload of a content header. The property list is whatever is left. -/
def contentHeader : Reader ContentHeader := return ⟨← short, ← short, ← longLong, ← rest⟩

end Reader

namespace Frame

/-- The body of a frame whose octets have all arrived. -/
def decodeBody (type : FrameType) (channel : UInt16) (payload : Bytes) : Except DecodeFault Body :=
  match type with
  | .method => .method <$> Method.decode payload
  | .header => (.header ·.1) <$> Reader.contentHeader payload
  | .content => .ok (.content payload)
  | .heartbeat => if channel = 0 then .ok .heartbeat else .error (.heartbeatOnChannel channel)

/-- Octets of a frame besides its payload: type, channel, payload size and frame end. -/
def overhead : Nat := 8

/-- A limit of 0 is none. -/
def exceeds (size : Nat) (max : UInt32) : Bool := 0 < max.toNat && max.toNat < size

/-- The rest of a frame once its head is known. -/
def decodeRest (type : FrameType) (channel : UInt16) (size : Nat) (rest : Bytes) :
    Except DecodeFault (Option Received) :=
  match rest.drop size with
  | [] => .ok none
  | last :: _ =>
    if last = frameEnd then do
      let body ← decodeBody type channel (rest.take size)
      return some ⟨⟨channel, body⟩, size + overhead⟩
    else .error (.frameEndMissing last)

/-- The first frame of `src`, `none` while it is incomplete. The first octet alone tells a
protocol header from a frame, and a size over `max` is refused before the payload arrives. -/
def decode (src : Bytes) (max : UInt32) : Except DecodeFault (Option Received) :=
  if src.head? = some 0x41 then
    if src.length < 8 then .ok none else .error (.protocolHeaderMismatch (src.take 8))
  else match src with
  | type :: c1 :: c0 :: s3 :: s2 :: s1 :: s0 :: rest =>
    let channel := UInt16.ofNat (ofBigEndian [c1, c0])
    let size := ofBigEndian [s3, s2, s1, s0]
    match FrameType.ofOctet? type with
    | none => .error (.unknownFrameType type)
    | some type =>
      if type = .heartbeat ∧ size ≠ 0 then .error (.heartbeatPayload (UInt32.ofNat size))
      else if exceeds (size + overhead) max then .error (.frameTooLarge (size + overhead) max)
      else decodeRest type channel size rest
  | _ => .ok none

end Frame

end AmqpSession.Wire
