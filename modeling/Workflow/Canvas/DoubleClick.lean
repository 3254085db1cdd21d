import Workflow.Graph.Edge
/-!
# Double clicks

An edge is deleted by the second click on it within a window of time.  The time of a click is told by
whoever reports it, in nanoseconds; a clock that goes back makes no time pass.
-/
namespace Workflow

inductive Click where
  | pending
  | confirmed
deriving DecidableEq, Repr

/-- A click on an edge that waits for a second one. -/
structure PendingClick where
  edge : Edge
  time : Int
deriving DecidableEq, Repr

/-- Which edge was clicked last, and how long a second click may take. -/
structure DoubleClick where
  window : Nat
  pending : Option PendingClick
deriving DecidableEq, Repr

namespace DoubleClick

def ofWindow (window : Nat) : DoubleClick := ⟨window, none⟩

def edge? (d : DoubleClick) : Option Edge := d.pending.map (·.edge)

def reset (d : DoubleClick) : DoubleClick := { d with pending := none }

/-- The time from one moment to a later one; none passes backwards. -/
def elapsed (since now : Int) : Nat := (now - since).toNat

/-- Forgets a click whose window is over. -/
def expire (d : DoubleClick) (now : Int) : DoubleClick :=
  match d.pending with
  | none => d
  | some p => if d.window < elapsed p.time now then d.reset else d

def click (d : DoubleClick) (e : Edge) (now : Int) : Click × DoubleClick :=
  let d := d.expire now
  if d.edge? = some e then (.confirmed, d.reset) else (.pending, { d with pending := some ⟨e, now⟩ })

end DoubleClick

end Workflow
