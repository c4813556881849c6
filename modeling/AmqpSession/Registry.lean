/-
The channels of a connection by id. Ids are given out in a circle, so that one that was released
comes back late. The registry does not own the endpoints it names.
-/
import AmqpSession.Error
import Std.Data.TreeMap

namespace AmqpSession

/-- An endpoint that frames are delivered to: a channel, or one that user code provides. Each kind
is numbered in the order of its making. -/
inductive EndpointRef where
  | channel (number : Nat)
  | custom (number : Nat)
deriving DecidableEq, Repr

/-- Which ids are in use, and by whom. -/
structure Registry where
  /-- Where the search for a free id begins. -/
  cursor : UInt16
  /-- How many ids may be in use; 0 is no limit. -/
  channelMax : UInt16
  entries : Std.TreeMap UInt16 EndpointRef

namespace Registry

/-- No id is in use, and the search begins with the first that can be. -/
def empty (channelMax : UInt16) : Registry := ⟨1, channelMax, ∅⟩

/-- How many ids are in use. -/
def size (r : Registry) : Nat := r.entries.size

/-- The endpoint that an id belongs to. -/
def get? (r : Registry) (id : UInt16) : Option EndpointRef := r.entries[id]?

/-- The ids in use, ascending. -/
def ids (r : Registry) : List UInt16 := r.entries.keys

/-- The endpoints in the order of their ids. -/
def endpoints (r : Registry) : List EndpointRef := r.entries.values

/-! ## Giving out ids -/

/-- Channel 0 is the connection itself. -/
def isFree (r : Registry) (id : UInt16) : Bool := id != 0 && !r.entries.contains id

/-- The first free id at or after `cursor` in the circle of 16-bit numbers, within so many steps. -/
def search (r : Registry) : Nat → UInt16 → Option UInt16
  | 0, _ => none
  | steps + 1, cursor => if r.isFree cursor then some cursor else search r steps (cursor + 1)

/-- As many ids as there can be. -/
def idCount : Nat := 65535

/-- The limit is reached, or every id is in use. -/
def isFull (r : Registry) : Bool :=
  (r.channelMax != 0 && r.channelMax.toNat ≤ r.size) || idCount ≤ r.size

/-- Gives `e` the next free id. The search goes on behind it the next time. -/
def register (r : Registry) (e : EndpointRef) : Except AllocError (UInt16 × Registry) :=
  if r.isFull then .error .channelMaxReached
  else match r.search 65536 r.cursor with
    | none => .error .channelMaxReached
    | some id => .ok (id, { r with cursor := id + 1, entries := r.entries.insert id e })

/-! ## Taking ids back -/

/-- Frees `id` if it belongs to `e`, so that no endpoint frees the id of another. -/
def release (r : Registry) (id : UInt16) (e : EndpointRef) : Registry :=
  if id ≠ 0 ∧ r.get? id = some e then { r with entries := r.entries.erase id } else r

/-- The entries over the limit, the highest id first. -/
def surplus (r : Registry) : List (UInt16 × EndpointRef) :=
  if r.channelMax = 0 then [] else (r.entries.toList.drop r.channelMax.toNat).reverse

/-- Frees every id over the limit. -/
def evict (r : Registry) : Registry :=
  { r with entries := r.surplus.foldl (fun t entry => t.erase entry.1) r.entries }

/-- Frees every id. The next search begins where it would have begun. -/
def clear (r : Registry) : Registry := { r with entries := ∅ }

end Registry

end AmqpSession
