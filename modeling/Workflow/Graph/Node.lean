import Workflow.Graph.Edge
import Workflow.Json.Value
import Workflow.Plane.Point
import Workflow.Text
/-!
# Nodes

A node is an action placed on the canvas, with the data it runs on.  What it does is told by a tag that a
palette may or may not know; one tag is reserved for the node a workflow starts at.
-/
namespace Workflow

open Json (Object)

/-- What a node does. -/
inductive Kind where
  | start
  | action (tag : String)
deriving DecidableEq, Repr

namespace Kind

/-- The kind that a text names.  `action "start"` is a kind too, but no text names it. -/
def ofTag (tag : String) : Kind := if tag = "start" then .start else .action tag

def tag : Kind → String
  | .start => "start"
  | .action tag => tag

def isStart : Kind → Bool
  | .start => true
  | .action _ => false

theorem isStart_iff (k : Kind) : k.isStart = true ↔ k = .start := by
  cases k <;> simp [isStart]

@[simp]
theorem tag_ofTag (tag : String) : (ofTag tag).tag = tag := by
  rw [ofTag]
  split
  · next h => exact h.symm
  · rfl

theorem isStart_ofTag (tag : String) : (ofTag tag).isStart = true ↔ tag = "start" := by
  rw [ofTag]
  split <;> simp_all [isStart]

end Kind

/-- An action on the canvas, its top left corner at a logical position. -/
structure Node (α : Type) where
  id : NodeId
  kind : Kind
  position : Point α
  data : Object

namespace Node

variable {α : Type}

def isStart (n : Node α) : Bool := n.kind.isStart

/-- Start nodes have no input port. -/
def hasPort (n : Node α) (p : Port) : Bool := p.isOutput || !n.isStart

/-- The text of a field without the blanks around it, if it is text and some is left. -/
def textField (n : Node α) (name : String) : Option String :=
  match (n.data.get? name).bind (·.string?) with
  | none => none
  | some s => if Text.trim s = "" then none else some (Text.trim s)

/-- The step that a node is in a sequence: its data, with the kind under `type` whatever its data has there. -/
def step (n : Node α) : Object :=
  (Object.empty.insert "type" (.string n.kind.tag)).insertAll (n.data.filter (· != "type")).entries

end Node

end Workflow
