/-
A frame codec over one buffer: frames are encoded at its end and decoded from its front.
-/
import AmqpSession.Wire.Frame.Decode

namespace AmqpSession.Wire

/-- A buffer of octets and the size limit of the frames read from it. -/
structure Codec where
  maxFrameSize : UInt32
  buffer : Bytes
deriving DecidableEq, Repr

/-- Why the end of the stream is not a clean one. -/
inductive StreamFault where
  | frame (fault : DecodeFault)
  /-- The stream ends inside a frame. -/
  | bytesRemaining
deriving DecidableEq, Repr

/-- The wording of an end that is not clean. -/
def StreamFault.message : StreamFault → String
  | .frame fault => fault.message
  | .bytesRemaining => "IO Error Custom \x7b kind: Other, error: \"bytes remaining on stream\" \x7d"

namespace Codec

/-- A codec with nothing in its buffer. -/
def new (maxFrameSize : UInt32) : Codec := ⟨maxFrameSize, []⟩

/-- Accepts what every peer may send before limits are agreed on. -/
def initial : Codec := new frameMinSize

/-- Octets that arrived go to the end of the buffer. -/
def feed (c : Codec) (data : Bytes) : Codec := { c with buffer := c.buffer ++ data }

/-- A frame that cannot be encoded leaves behind what was written of it. -/
def encode (c : Codec) (f : Frame) : Except EncodeFault Unit × Codec :=
  let d := f.toWire
  (d.result.map fun _ => (), c.feed d.octets)

/-- A decoded frame leaves the buffer; nothing else does. -/
def decode (c : Codec) : Except DecodeFault (Option Frame) × Codec :=
  match Frame.decode c.buffer c.maxFrameSize with
  | .error fault => (.error fault, c)
  | .ok none => (.ok none, c)
  | .ok (some r) => (.ok (some r.frame), { c with buffer := c.buffer.drop r.size })

/-- The next frame of a stream that has ended. -/
def decodeEof (c : Codec) : Except StreamFault (Option Frame) × Codec :=
  match c.decode with
  | (.error fault, c) => (.error (.frame fault), c)
  | (.ok (some f), c) => (.ok (some f), c)
  | (.ok none, c) => (if c.buffer.isEmpty then .ok none else .error .bytesRemaining, c)

end Codec

end AmqpSession.Wire
