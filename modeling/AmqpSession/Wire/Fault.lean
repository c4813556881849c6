/-
What can be wrong with octets received from the peer (`DecodeFault`) and with a frame about to be
sent (`EncodeFault`), each with its wording.
-/
import AmqpSession.Octets

namespace AmqpSession.Wire

/-- A violation of the wire format by the peer. -/
inductive DecodeFault where
  /-- The peer answers with eight octets of its own protocol header. -/
  | protocolHeaderMismatch (found : Bytes)
  | unknownFrameType (found : UInt8)
  /-- The declared size counts header and frame end. -/
  | frameTooLarge (size : Nat) (max : UInt32)
  | frameEndMissing (found : UInt8)
  | heartbeatOnChannel (channel : UInt16)
  | heartbeatPayload (size : UInt32)
  | truncated
  | trailingBytes (count : Nat)
  | unknownMethod (classId methodId : UInt16)
  | invalidUtf8
deriving DecidableEq, Repr

/-- A frame that has no form on the wire. -/
inductive EncodeFault where
  | shortStringTooLong (size : Nat)
  | payloadTooLarge (size : Nat)
deriving DecidableEq, Repr

/-- The two lower-case hexadecimal digits of an octet. -/
def hexOctet (b : UInt8) : String :=
  String.ofList [Nat.digitChar (b.toNat / 16), Nat.digitChar (b.toNat % 16)]

/-- The wording of octets that are no frame. -/
def DecodeFault.message : DecodeFault → String
  | .protocolHeaderMismatch found =>
    "Protocol header mismatch. Found [" ++ ", ".intercalate (found.map fun b => toString b.toNat) ++ "]"
  | .unknownFrameType found => s!"Unknown frame type {found.toNat}"
  | .frameTooLarge size max =>
    s!"Frame of {size} bytes exceeds the maximum frame size of {max.toNat} bytes"
  | .frameEndMissing found => s!"Frame end octet missing. Found 0x{hexOctet found}"
  | .heartbeatOnChannel channel => s!"Heartbeat frame received on channel {channel.toNat}"
  | .heartbeatPayload size => s!"Heartbeat frame with a payload of {size.toNat} bytes"
  | .truncated => "Truncated frame payload"
  | .trailingBytes count => s!"{count} unexpected trailing bytes after method arguments"
  | .unknownMethod classId methodId => s!"Unknown method {classId.toNat}.{methodId.toNat}"
  | .invalidUtf8 => "Short string is not valid UTF-8"

/-- The wording of a frame that cannot be encoded. -/
def EncodeFault.message : EncodeFault → String
  | .shortStringTooLong size => s!"Short string of {size} bytes exceeds 255 bytes"
  | .payloadTooLarge size => s!"Payload of {size} bytes cannot be encoded in a single frame"

end AmqpSession.Wire
