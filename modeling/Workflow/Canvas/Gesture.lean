import Workflow.Canvas.Wiring
import Workflow.Plane.Viewport
/-!
# Gestures

The pointer drags nodes, pans the canvas and draws connections.  A `Hand` is always at one of these, or
idle; whatever happens, a release or a cancellation leaves it idle.

Every gesture answers together with the hand and the canvas it leaves.  Moves while dragging are measured
from where the drag began, not from the last move, so a node that was held at the border on the way ends up
where the pointer is.
-/
namespace Workflow

/-- What the pointer does, at screen points. -/
inductive Gesture where
  | beginDrag (id : NodeId) (point : Point Float)
  | beginPan (point : Point Float)
  | beginConnection (id : NodeId) (port : Port)
  | move (point : Point Float)
  /-- Released, over the input port of a node if one is named. -/
  | release (onto : Option NodeId)
  | cancel

inductive Activity where
  | idle
  /-- Dragging a node: the screen point and the position of the node at the beginning. -/
  | dragging (id : NodeId) (anchor origin : Point Float)
  /-- Panning: the screen point at the beginning less the pan then. -/
  | panning (anchor : Point Float)
  | connecting (source : NodeId) (outcome : Outcome)

inductive Response where
  | ignored
  | dragStarted (id : NodeId)
  | nodeMoved (id : NodeId) (position : Point Float)
  | dragEnded (id : NodeId)
  | panStarted
  | panned (pan : Point Float)
  | panEnded
  | connectionStarted (source : NodeId) (outcome : Outcome)
  | previewUpdated
  | edgeCreated (e : Edge)
  | connectionDiscarded
  | cancelled

def Gesture.name : Gesture → String
  | .beginDrag _ _ => "drag"
  | .beginPan _ => "pan"
  | .beginConnection _ _ => "connection"
  | .move _ => "move"
  | .release _ => "release"
  | .cancel => "cancel"

namespace Activity

def name : Activity → String
  | .idle => "idle"
  | .dragging _ _ _ => "dragging a node"
  | .panning _ => "panning"
  | .connecting _ _ => "drawing a connection"

def involves (a : Activity) (id : NodeId) : Bool :=
  match a with
  | .dragging dragged _ _ => dragged == id
  | .connecting source _ => source == id
  | _ => false

end Activity

inductive GestureError where
  | busy (gesture activity : String)
  | inputPort
  | graph (r : Graph.Rejection)
deriving DecidableEq, Repr

def GestureError.message : GestureError → String
  | .busy gesture activity => "Cannot start '" ++ gesture ++ "' while " ++ activity
  | .inputPort => "Connections can only be drawn from a success or error port"
  | .graph r => r.message

/-- All that a gesture can change besides the hand. -/
structure Canvas where
  graph : Graph Float
  viewport : Viewport Float
  wiring : Wiring

/-- What the pointer is at, and the curve drawn while it makes a connection. -/
structure Hand where
  activity : Activity
  preview : Option Curve

namespace Hand

def idle : Hand := ⟨.idle, none⟩

/-- Would a release over a node's input port try to connect to it? -/
def isDropTarget (h : Hand) (g : Graph Float) (id : NodeId) : Bool :=
  match h.activity with
  | .connecting source _ => source != id && (g.node? id).any (·.hasPort .input)
  | _ => false

/-- What a gesture answers, and the hand and the canvas it leaves. -/
abbrev Handled := Except GestureError Response × Hand × Canvas

def beginDrag (h : Hand) (c : Canvas) (id : NodeId) (point : Point Float) : Handled :=
  match c.graph.node? id with
  | none => (.error (.graph (.unknownNode id)), h, c)
  | some n => (.ok (.dragStarted id), { h with activity := .dragging id point n.position }, c)

def beginConnection (h : Hand) (c : Canvas) (id : NodeId) (port : Port) : Handled :=
  match port.outcome with
  | none => (.error .inputPort, h, c)
  | some outcome =>
    if c.graph.containsNode id then
      (.ok (.connectionStarted id outcome), ⟨.connecting id outcome, none⟩, c)
    else (.error (.graph (.unknownNode id)), h, c)

/-- Moves the dragged node by as much as the pointer moved since the drag began. -/
def drag (h : Hand) (c : Canvas) (id : NodeId) (anchor origin point : Point Float) : Handled :=
  match c.graph.moveNode id (origin + (point - anchor).scale (1 / c.viewport.zoom)) with
  | (.ok position, graph) =>
    (.ok (.nodeMoved id position), h, { c with graph, wiring := c.wiring.rerouteNode graph id })
  | (.error r, graph) => (.error (.graph r), idle, { c with graph })

/-- Pans by as much as the pointer moved since the pan began. -/
def pan (h : Hand) (c : Canvas) (anchor point : Point Float) : Handled :=
  let pan := point - anchor
  (.ok (.panned pan), h, { c with viewport := c.viewport.setPan pan, wiring := c.wiring.all c.graph })

/-- The node a connection is released over: one it may go to, or one that is unknown, which is for the graph
to refuse. -/
def target (h : Hand) (g : Graph Float) (onto : Option NodeId) : Option NodeId :=
  onto.filter fun id => !g.containsNode id || h.isDropTarget g id

def connect (h : Hand) (c : Canvas) (source : NodeId) (outcome : Outcome) (onto : Option NodeId) : Handled :=
  match h.target c.graph onto with
  | none => (.ok .connectionDiscarded, idle, c)
  | some target =>
    match c.graph.createEdge source target outcome with
    | (.ok e, graph) => (.ok (.edgeCreated e), idle, { c with graph, wiring := c.wiring.reroute graph e })
    | (.error r, graph) => (.error (.graph r), idle, { c with graph })

def handle (h : Hand) (c : Canvas) (gesture : Gesture) : Handled :=
  match h.activity, gesture with
  | .idle, .cancel => (.ok .ignored, idle, c)
  | _, .cancel => (.ok .cancelled, idle, c)
  | .idle, .beginDrag id point => h.beginDrag c id point
  | .idle, .beginPan point =>
    (.ok .panStarted, { h with activity := .panning (point - c.viewport.pan) }, c)
  | .idle, .beginConnection id port => h.beginConnection c id port
  | .idle, .move _ => (.ok .ignored, h, c)
  | .idle, .release _ => (.ok .ignored, h, c)
  | .dragging id anchor origin, .move point => h.drag c id anchor origin point
  | .dragging id _ _, .release _ => (.ok (.dragEnded id), idle, c)
  | .panning anchor, .move point => h.pan c anchor point
  | .panning _, .release _ => (.ok .panEnded, idle, c)
  | .connecting source outcome, .move point =>
    let cursor := c.viewport.toLogical point
    (.ok .previewUpdated, { h with preview := c.wiring.preview c.graph source outcome cursor }, c)
  | .connecting source outcome, .release onto => h.connect c source outcome onto
  | activity, gesture => (.error (.busy gesture.name activity.name), h, c)

end Hand

end Workflow
