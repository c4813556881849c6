/-
Which parts of a store an operation leaves alone: what is done to channels and endpoints does not
touch the connection.
-/
import AmqpSession.Session

namespace AmqpSession.Store

open Wire

variable (s : Store)

@[simp] theorem connection_setState (state : ConnectionState) :
    (s.setState state).connection = { s.connection with state := state } := rfl

@[simp] theorem connection_mapRegistry (f : Registry → Registry) :
    (s.mapRegistry f).connection = { s.connection with registry := f s.connection.registry } := rfl

@[simp] theorem connection_holdHandle :
    s.holdHandle.connection = { s.connection with held := s.connection.held + 1 } := rfl

theorem holdHandle_loseHandle (h : s.connection.held ≠ 0) : s.loseHandle.holdHandle = s := by
  show ({ s with connection := { s.connection with held := s.connection.held - 1 + 1 } } : Store) = s
  rw [Nat.sub_one_add_one h]

@[simp] theorem connection_hold (e : EndpointRef) : (s.hold e).connection = s.connection := by
  cases e <;> rfl

@[simp] theorem connection_lose (e : EndpointRef) : (s.lose e).connection = s.connection := by
  cases e <;> rfl

@[simp] theorem connection_unregister (e : EndpointRef) :
    (s.unregister e).connection =
      { s.connection with registry := s.connection.registry.release (s.idOf e) e } := rfl

theorem connection_foldl_hold (es : List EndpointRef) :
    ∀ s : Store, (es.foldl hold s).connection = s.connection := by
  induction es with
  | nil => intro s; rfl
  | cons e es ih => intro s; rw [List.foldl_cons, ih, connection_hold]

@[simp] theorem connection_holdRegistered : s.holdRegistered.1.connection = s.connection :=
  connection_foldl_hold _ _

@[simp] theorem connection_clearRegistry :
    s.clearRegistry.1.connection = { s.connection with registry := s.connection.registry.clear } := by
  show (s.holdRegistered.1.mapRegistry .clear).connection = _
  rw [connection_mapRegistry, connection_holdRegistered]

@[simp] theorem connection_shut :
    s.shut.1.connection =
      { s.connection with state := .closed, registry := s.connection.registry.clear } := by
  show (s.setState .closed).clearRegistry.1.connection = _
  rw [connection_clearRegistry]; rfl

end AmqpSession.Store
