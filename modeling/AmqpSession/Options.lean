/-
What a connection is set up with. A limit of 0 accepts whatever the server proposes.
-/
import AmqpSession.Login
import AmqpSession.Wire.Frame

namespace AmqpSession

/-- Login, virtual host and the limits that this side asks for. -/
structure Options where
  login : Login
  virtualHost : String
  channelMax : UInt16
  maxFrameSize : UInt32
  heartbeat : UInt16
deriving DecidableEq, Repr

namespace Options

/-- The defaults: no limit of channels, frames of up to 128 KiB and no heartbeat. -/
def standard : Options := ⟨.guest, "/", 0, 131072, 0⟩

/-- Frames of the least size are never too large, whatever limit is asked for. -/
def raiseFrameMax (size : UInt32) : UInt32 :=
  if size = 0 then 0 else if size < Wire.frameMinSize then Wire.frameMinSize else size

/-- The options with another limit on the size of frames, raised to the least one. -/
def withFrameMax (o : Options) (size : UInt32) : Options :=
  { o with maxFrameSize := raiseFrameMax size }

end Options

end AmqpSession
