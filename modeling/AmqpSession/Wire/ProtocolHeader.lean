/-
The protocol header: the only thing on the wire that is not a frame. Reading accepts exactly what
writing produces (`ofBytes?_eq_some_iff`).
-/
import AmqpSession.Octets

namespace AmqpSession.Wire

/-- The protocol version that a peer asks for. -/
structure ProtocolHeader where
  major : UInt8
  minor : UInt8
  revision : UInt8
deriving DecidableEq, Repr

namespace ProtocolHeader

/-- Version 0-9-1, the one spoken here. -/
def supported : ProtocolHeader := ⟨0, 9, 1⟩

/-- The version is the one spoken here. -/
def isSupported (h : ProtocolHeader) : Bool := h = supported

/-- The letters `AMQP`, a zero octet and the version. -/
def toBytes (h : ProtocolHeader) : Bytes :=
  [0x41, 0x4d, 0x51, 0x50, 0, h.major, h.minor, h.revision]

/-- The version that a header asks for. -/
def ofBytes? : Bytes → Option ProtocolHeader
  | [0x41, 0x4d, 0x51, 0x50, 0, major, minor, revision] => some ⟨major, minor, revision⟩
  | _ => none

theorem ofBytes?_eq_some_iff {bs : Bytes} {h : ProtocolHeader} :
    ofBytes? bs = some h ↔ bs = h.toBytes := by
  constructor
  · intro e
    unfold ofBytes? at e
    split at e
    · cases e; rfl
    · cases e
  · rintro rfl; rfl

end ProtocolHeader

end AmqpSession.Wire
