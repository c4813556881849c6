/-
A connection, its channels and the endpoints that user code provides. Who holds on to them is
part of the state: user code owns handles (`owned`), and so does work in progress for as long as it
needs them (`held`). A channel or endpoint without either is gone.
-/
import AmqpSession.Negotiation
import AmqpSession.Registry

namespace AmqpSession

open Wire

/-- A connection. Its limits are those in force; what it was set up with is in `options`. -/
structure Connection where
  options : Options
  state : ConnectionState
  /-- A close was asked for; during negotiation it is put off. -/
  closeRequested : Bool
  /-- The connection was not destroyed yet. -/
  alive : Bool
  maxFrameSize : UInt32
  heartbeat : UInt16
  registry : Registry
  /-- Frames held back until negotiation completes. -/
  queue : List Frame
  owned : Nat
  held : Nat

/-- A channel, by the place of its making. It keeps its id after the registry took it back. -/
structure Channel where
  id : UInt16
  state : ChannelState
  /-- The channel still knows its connection. -/
  attached : Bool
  owned : Nat
  held : Nat
deriving DecidableEq, Repr

/-- An endpoint of user code. Its id is whatever user code makes it. -/
structure Endpoint where
  id : UInt16
  owned : Nat
  held : Nat
deriving DecidableEq, Repr

/-- One connection with every channel and endpoint that was ever made for it. None is removed, so that
the number of one names it for good. -/
structure Store where
  connection : Connection
  channels : List Channel
  endpoints : List Endpoint

/-! ## Making -/

/-- A connection whose maker still holds the only handle. The limits are its own until the peer is
heard. -/
def Connection.new (o : Options) : Connection where
  options := o
  state := .negotiatingProtocol
  closeRequested := false
  alive := true
  maxFrameSize := o.maxFrameSize
  heartbeat := o.heartbeat
  registry := .empty o.channelMax
  queue := []
  owned := 0
  held := 1

/-- A connection before any channel or endpoint is made. -/
def Store.new (o : Options) : Store := ⟨.new o, [], []⟩

/-- A channel that has no id yet. -/
def Channel.new : Channel := ⟨0, .opening, true, 0, 1⟩

/-- What is left of a channel that nobody holds. -/
def Channel.gone : Channel := ⟨0, .closed, false, 0, 0⟩

/-- What is left of an endpoint that nobody holds. -/
def Endpoint.gone : Endpoint := ⟨0, 0, 0⟩

namespace Store

/-! ## The connection -/

/-- Changes the connection and leaves channels and endpoints alone. -/
def mapConnection (s : Store) (f : Connection → Connection) : Store :=
  { s with connection := f s.connection }

/-- The connection in another state, whatever it was in. -/
def setState (s : Store) (state : ConnectionState) : Store :=
  s.mapConnection ({ · with state := state })

/-- Changes the registry of the connection only. -/
def mapRegistry (s : Store) (f : Registry → Registry) : Store :=
  s.mapConnection fun k => { k with registry := f k.registry }

/-- Holds a frame back behind those that wait already. -/
def enqueue (s : Store) (f : Frame) : Store :=
  s.mapConnection fun k => { k with queue := k.queue ++ [f] }

/-- Handles of the connection. -/
def handles (s : Store) : Nat := s.connection.owned + s.connection.held

/-- Work in progress takes a handle of the connection. -/
def holdHandle (s : Store) : Store := s.mapConnection fun k => { k with held := k.held + 1 }

/-- Work in progress gives a handle back. What follows from it being the last is for `releaseHandle`. -/
def loseHandle (s : Store) : Store := s.mapConnection fun k => { k with held := k.held - 1 }

/-! ## Channels and endpoints -/

/-- The channel of this number. One that was never made looks like one that is gone. -/
def channel (s : Store) (c : Nat) : Channel := s.channels[c]?.getD .gone

/-- The endpoint of this number. One that was never made looks like one that is gone. -/
def endpoint (s : Store) (n : Nat) : Endpoint := s.endpoints[n]?.getD .gone

/-- Changes one channel; nothing happens to a store that has none of this number. -/
def mapChannel (s : Store) (c : Nat) (f : Channel → Channel) : Store :=
  { s with channels := s.channels.modify c f }

/-- Changes one endpoint; nothing happens to a store that has none of this number. -/
def mapEndpoint (s : Store) (n : Nat) (f : Endpoint → Endpoint) : Store :=
  { s with endpoints := s.endpoints.modify n f }

/-- The connection as its channel sees it: there, and not destroyed. -/
def reaches (s : Store) (c : Nat) : Bool := (s.channel c).attached && s.connection.alive

/-- The channel is closed and forgets its connection. -/
def detach (s : Store) (c : Nat) : Store :=
  s.mapChannel c fun ch => { ch with state := .closed, attached := false }

/-- The channel in another state. It stays attached, unlike with `detach`. -/
def setChannelState (s : Store) (c : Nat) (state : ChannelState) : Store :=
  s.mapChannel c fun ch => { ch with state := state }

/-- How many hold on to an endpoint. -/
def holders (s : Store) : EndpointRef → Nat
  | .channel c => (s.channel c).owned + (s.channel c).held
  | .custom n => (s.endpoint n).owned + (s.endpoint n).held

/-- Somebody holds the endpoint, so that the registry's reference to it still leads somewhere. -/
def isLive (s : Store) (e : EndpointRef) : Bool := s.holders e != 0

/-- The id that an endpoint goes by. It says nothing of what the registry has under this id. -/
def idOf (s : Store) : EndpointRef → UInt16
  | .channel c => (s.channel c).id
  | .custom n => (s.endpoint n).id

/-- Work in progress holds on to an endpoint. -/
def hold (s : Store) : EndpointRef → Store
  | .channel c => s.mapChannel c fun ch => { ch with held := ch.held + 1 }
  | .custom n => s.mapEndpoint n fun en => { en with held := en.held + 1 }

/-- Work in progress lets go of an endpoint. What follows for a channel is for `whenLost`. -/
def lose (s : Store) : EndpointRef → Store
  | .channel c => s.mapChannel c fun ch => { ch with held := ch.held - 1 }
  | .custom n => s.mapEndpoint n fun en => { en with held := en.held - 1 }

/-! ## The registry -/

/-- An endpoint can only give back its own id. -/
def unregister (s : Store) (e : EndpointRef) : Store :=
  s.mapRegistry (·.release (s.idOf e) e)

/-- The registered endpoints that are not gone, each held, in the order of their ids. -/
def holdRegistered (s : Store) : Store × List EndpointRef :=
  let es := s.connection.registry.endpoints.filter s.isLive
  (es.foldl hold s, es)

/-- No id is in use any more; the endpoints that had one are held. -/
def clearRegistry (s : Store) : Store × List EndpointRef :=
  let (s, es) := s.holdRegistered
  (s.mapRegistry .clear, es)

/-- The connection is closed, and so is every way to its channels. -/
def shut (s : Store) : Store × List EndpointRef := (s.setState .closed).clearRegistry

end Store

end AmqpSession
