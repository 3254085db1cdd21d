import Workflow.Plane.Curve
import Workflow.Graph.Store
/-!
# Wiring

The wires drawn for the edges of a graph.  A `Wiring` remembers one wire for each edge it was asked to
route; it can be thrown away and routed again from the graph at any time (`Wiring.all`).
-/
namespace Workflow

structure Wire where
  curve : Curve
  /-- Where the label of the outcome is drawn. -/
  label : Point Float

structure Wiring where
  settings : WireSettings Float
  wires : Std.ExtTreeMap Edge Wire

/-- Where a port of a node at some position is: the input in the middle of the left side, the outputs at
their parts of the right side. -/
def WireSettings.portAt {α : Type} [Scalar α] (s : WireSettings α) (position : Point α) : Port → Point α
  | .input => ⟨position.x, position.y + s.nodeSize.height / 2.0⟩
  | .success => ⟨position.x + s.nodeSize.width, position.y + s.nodeSize.height * s.successPortRatio⟩
  | .error => ⟨position.x + s.nodeSize.width, position.y + s.nodeSize.height * s.errorPortRatio⟩

namespace Wiring

def empty (settings : WireSettings Float) : Wiring := ⟨settings, ∅⟩

variable (w : Wiring) (g : Graph Float)

def wire? (e : Edge) : Option Wire := w.wires[e]?

def size : Nat := w.wires.size

/-- The wire of an edge of the graph as it is now. -/
def route (e : Edge) : Option Wire :=
  if g.containsEdge e then
    match g.node? e.source, g.node? e.target with
    | some source, some target =>
      let start := w.settings.portAt source.position e.outcome.port
      let stop := w.settings.portAt target.position .input
      let middle := start.midpoint stop
      some ⟨.between w.settings start stop, ⟨middle.x, middle.y - w.settings.labelLift⟩⟩
    | _, _ => none
  else none

/-- Routes an edge again; one that is not in the graph is forgotten. -/
def reroute (e : Edge) : Wiring :=
  match w.route g e with
  | some wire => { w with wires := w.wires.insert e wire }
  | none => { w with wires := w.wires.erase e }

/-- Routes an edge again if it is in the graph. -/
def refresh (e : Edge) : Wiring :=
  match w.route g e with
  | some wire => { w with wires := w.wires.insert e wire }
  | none => w

def rerouteNode (id : NodeId) : Wiring := (g.edgesTouching id).foldl (fun w e => w.refresh g e) w

def clear : Wiring := { w with wires := ∅ }

/-- Forgets every wire and routes every edge of the graph. -/
def all : Wiring := g.edges.foldl (fun w e => w.refresh g e) w.clear

def forget (e : Edge) : Wiring := { w with wires := w.wires.erase e }

/-- The curve from an output port of a node to the pointer, drawn while a connection is being made. -/
def preview (source : NodeId) (outcome : Outcome) (cursor : Point Float) : Option Curve :=
  (g.node? source).map fun n => .between w.settings (w.settings.portAt n.position outcome.port) cursor

end Wiring

end Workflow
