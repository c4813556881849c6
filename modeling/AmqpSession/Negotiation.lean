/-
What two peers agree on: of two limits the smaller, where 0 stands for none.
-/
import AmqpSession.Options

namespace AmqpSession

open Wire

/-- The smaller of two limits; 0 gives way to the other. -/
def agree (ours theirs : Nat) : Nat :=
  if ours = 0 then theirs else if theirs = 0 then ours else min ours theirs

/-- The limits that follow from ours and the server's. A frame limit is never below the least
size. -/
def Options.agree (o : Options) (theirs : Tune) : Tune where
  channelMax := UInt16.ofNat (AmqpSession.agree o.channelMax.toNat theirs.channelMax.toNat)
  frameMax := Options.raiseFrameMax
    (UInt32.ofNat (AmqpSession.agree o.maxFrameSize.toNat theirs.frameMax.toNat))
  heartbeat := UInt16.ofNat (AmqpSession.agree o.heartbeat.toNat theirs.heartbeat.toNat)

end AmqpSession
