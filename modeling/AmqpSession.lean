import AmqpSession.Liveness
import AmqpSession.Options.Json
import AmqpSession.Options.OfUri
import AmqpSession.Proofs.Blame
import AmqpSession.Proofs.Containment
import AmqpSession.Proofs.Delivery
import AmqpSession.Proofs.Departure
import AmqpSession.Proofs.Eviction
import AmqpSession.Proofs.Farewell
import AmqpSession.Proofs.Forward
import AmqpSession.Proofs.Fragments
import AmqpSession.Proofs.Independence
import AmqpSession.Proofs.LeastFrame
import AmqpSession.Proofs.Lifetime
import AmqpSession.Proofs.Order
import AmqpSession.Proofs.Output
import AmqpSession.Proofs.Peace
import AmqpSession.Proofs.Prefix
import AmqpSession.Proofs.Refusal
import AmqpSession.Proofs.Requests
import AmqpSession.Proofs.Routing
import AmqpSession.Proofs.Search
import AmqpSession.Proofs.Silence
import AmqpSession.Proofs.Stream
import AmqpSession.Proofs.Teardown
import AmqpSession.Session
import AmqpSession.Store.Description
import AmqpSession.Wire.Codec
