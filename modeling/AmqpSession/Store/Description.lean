/-
A connection and a channel as they are shown to somebody who looks for a mistake.
-/
import AmqpSession.Store
import AmqpSession.Text.Quoted
import AmqpSession.Text.Record

namespace AmqpSession

open Text

/-- A channel in words: its id and its state. -/
def Channel.description (ch : Channel) : String :=
  record "Channel" [("id", toString ch.id.toNat), ("state", ch.state.name)]

/-- The registry in words: the ids in use, without the endpoints behind them. -/
def Registry.description (r : Registry) : String :=
  record "ChannelRegistry"
    [("cursor", toString r.cursor.toNat), ("channel_max", toString r.channelMax.toNat),
      ("channels", sequence (r.ids.map fun id => toString id.toNat))]

/-- Frames that are held back, each with its channel and its octets. -/
def queueDescription (frames : List Wire.Frame) : String :=
  record "OutboundQueue"
    [("frames", sequence (frames.map fun f =>
      pair (toString f.channel.toNat) (quoteOctets f.toWire.octets)))]

/-- A part that changes while it is shared. -/
def changing (value : String) : String := record "RefCell" [("value", value)]

/-- The connection in words. The login is left out. -/
def Connection.description (k : Connection) : String :=
  record "Connection"
    [("state", k.state.name), ("closed", toString k.closeRequested),
      ("virtual_host", quote k.options.virtualHost),
      ("max_frame_size", toString k.maxFrameSize.toNat), ("heartbeat", toString k.heartbeat.toNat),
      ("registry", changing k.registry.description), ("queue", changing (queueDescription k.queue))]

end AmqpSession
