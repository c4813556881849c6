/-
Watching whether an object still exists. A monitor follows the object that it was made from and
turns invalid with it for good; an object that is let go without a word leaves its monitors as
they are.
-/

namespace AmqpSession

/-- The objects ever watched, by the order in which they came, and whether each still exists. -/
structure Liveness where
  alive : List Bool
deriving DecidableEq, Repr

/-- An object that can be watched, or a monitor of one. -/
structure Watch where
  object : Nat
deriving DecidableEq, Repr

namespace Liveness

/-- Nothing is watched yet. -/
def none : Liveness := ⟨[]⟩

/-- A new object, alive. -/
def watchable (l : Liveness) : Watch × Liveness := (⟨l.alive.length⟩, ⟨l.alive ++ [true]⟩)

/-- The object of this monitor still exists. An object that never was does not. -/
def isValid (l : Liveness) (w : Watch) : Bool := l.alive.getD w.object false

/-- The object is gone, and every monitor of it with it. -/
def invalidate (l : Liveness) (w : Watch) : Liveness := ⟨l.alive.set w.object false⟩

theorem isValid_watchable (l : Liveness) : l.watchable.2.isValid l.watchable.1 = true := by
  simp [isValid, watchable]

/-- Invalidating one object leaves the monitors of every other one alone. -/
theorem isValid_invalidate (l : Liveness) (w v : Watch) :
    (l.invalidate w).isValid v = (l.isValid v && v.object != w.object) := by
  by_cases h : w.object = v.object
  · by_cases hlt : v.object < l.alive.length <;> simp [isValid, invalidate, h, hlt]
  · have h' : (v.object != w.object) = true := by simpa using fun e => h e.symm
    simp [isValid, invalidate, List.getElem?_set_ne h, h']

end Liveness

end AmqpSession
