import Workflow.Canvas.DoubleClick
import Workflow.Canvas.Gesture
import Workflow.Exchange.Import
import Workflow.Exchange.Settings
import Workflow.Layout
import Workflow.Validation
/-!
# Editing sessions

A session is one workflow on one canvas: the graph, what of it is seen and drawn, what the pointer is at,
which edge waits for a second click and which node is selected.

Every change keeps the wires in step with the graph, and lets go of whatever is no longer there: a deleted
node is neither selected nor held, and a deleted edge no longer waits for a click.  A change that is refused
answers why, and leaves graph, viewport and wires as they were.
-/
namespace Workflow

/-- An open workflow. -/
structure Session where
  settings : Settings Float
  mode : Mode
  canvas : Canvas
  hand : Hand
  clicks : DoubleClick
  selection : Option NodeId

/-- What came of loading a document: the shape it had, and the records left out. -/
structure Loaded where
  source : SourceFormat
  skipped : List Skipped

namespace Session

/-- The graph that a session of some mode begins with: a lone start node, or nothing. -/
def blankGraph (palette : Palette) (settings : Settings Float) : Mode → Graph Float
  | .create => .withStart palette settings.placement.startPosition
  | .edit => .empty palette

/-- Opens a session, if nothing is wrong with its settings. -/
def ofSettings (palette : Palette) (settings : Settings Float) (mode : Mode) :
    Except SettingsError Session := do
  settings.check
  return {
    settings, mode
    canvas := ⟨blankGraph palette settings mode, .ofBounds settings.zoom, .empty settings.wires⟩
    hand := .idle
    clicks := .ofWindow settings.deleteWindow
    selection := none }

/-! ## Parts -/

section Parts

variable (s : Session)

def graph : Graph Float := s.canvas.graph

def viewport : Viewport Float := s.canvas.viewport

def wiring : Wiring := s.canvas.wiring

def withGraph (graph : Graph Float) : Session := { s with canvas := { s.canvas with graph } }

def withViewport (viewport : Viewport Float) : Session := { s with canvas := { s.canvas with viewport } }

def withWiring (wiring : Wiring) : Session := { s with canvas := { s.canvas with wiring } }

def rerouteAll : Session := s.withWiring (s.wiring.all s.graph)

def isDropTarget (id : NodeId) : Bool := s.hand.isDropTarget s.graph id

def validate : Validation := s.graph.validate

/-- The workflow as a document, created at some moment if one is told. -/
def document (created : Option Timestamp) : Document := .ofGraph s.graph s.mode created

end Parts

/-! ## Gestures -/

/-- One gesture.  Beginning to drag a node selects it. -/
def handle (s : Session) (gesture : Gesture) : Except GestureError Response × Session :=
  match s.hand.handle s.canvas gesture with
  | (answer, hand, canvas) =>
    let selection := match answer with
      | .ok (.dragStarted id) => some id
      | _ => s.selection
    (answer, { s with hand, canvas, selection })

/-! ## Nodes -/

def createNode (s : Session) (kind : Kind) (position : Point Float) :
    Except Graph.Rejection NodeId × Session :=
  match s.graph.createNode kind position with
  | (answer, graph) => (answer, s.withGraph graph)

/-- Creates a node under the pointer, dropped there at a screen point, and selects it. -/
def dropNode (s : Session) (kind : Kind) (screen : Point Float) : Except Graph.Rejection NodeId × Session :=
  match s.createNode kind (s.viewport.toLogical screen - s.settings.placement.dropOffset) with
  | (.ok id, s) => (.ok id, { s with selection := some id })
  | (.error r, s) => (.error r, s)

/-- Lets go of an edge that is no longer in the graph. -/
def forgetEdge (s : Session) (e : Edge) : Session :=
  { s.withWiring (s.wiring.forget e) with
    clicks := if s.clicks.edge? = some e then s.clicks.reset else s.clicks }

/-- Lets go of a node that is no longer in the graph. -/
def forgetNode (s : Session) (id : NodeId) : Session :=
  { s with
    selection := if s.selection = some id then none else s.selection
    hand := if s.hand.activity.involves id then .idle else s.hand }

def deleteNode (s : Session) (id : NodeId) : Except Graph.Rejection (Graph.Removed Float) × Session :=
  match s.graph.deleteNode id with
  | (.error r, graph) => (.error r, s.withGraph graph)
  | (.ok removed, graph) => (.ok removed, (removed.edges.foldl forgetEdge (s.withGraph graph)).forgetNode id)

/-- Deletes the selected node.  With none selected, or the start node, nothing is deleted. -/
def deleteSelected (s : Session) : Except Graph.Rejection (Option (Graph.Removed Float)) × Session :=
  match s.selection.filter fun id => !s.graph.isStart id with
  | none => (.ok none, s)
  | some id =>
    match s.deleteNode id with
    | (answer, s) => (answer.map some, s)

def moveNode (s : Session) (id : NodeId) (position : Point Float) :
    Except Graph.Rejection (Point Float) × Session :=
  match s.graph.moveNode id position with
  | (.error r, graph) => (.error r, s.withGraph graph)
  | (.ok moved, graph) => (.ok moved, (s.withGraph graph).withWiring (s.wiring.rerouteNode graph id))

def updateField (s : Session) (id : NodeId) (name : String) (v : Json.Value) :
    Except Graph.Rejection (Option Json.Value) × Session :=
  match s.graph.updateField id name v with
  | (answer, graph) => (answer, s.withGraph graph)

/-! ## Selection -/

def select (s : Session) (id : NodeId) : Except Graph.Rejection Unit × Session :=
  if s.graph.containsNode id then (.ok (), { s with selection := some id })
  else (.error (.unknownNode id), s)

def clearSelection (s : Session) : Session := { s with selection := none }

/-! ## Edges -/

def createEdge (s : Session) (source target : NodeId) (outcome : Outcome) :
    Except Graph.Rejection Edge × Session :=
  match s.graph.createEdge source target outcome with
  | (.error r, graph) => (.error r, s.withGraph graph)
  | (.ok e, graph) => (.ok e, (s.withGraph graph).withWiring (s.wiring.reroute graph e))

def deleteEdge (s : Session) (e : Edge) : Except Graph.Rejection Unit × Session :=
  match s.graph.deleteEdge e with
  | (.error r, graph) => (.error r, s.withGraph graph)
  | (.ok _, graph) => (.ok (), (s.withGraph graph).forgetEdge e)

/-- An edge is clicked.  The second click within the window deletes it. -/
def clickEdge (s : Session) (e : Edge) (now : Int) : Except Graph.Rejection Click × Session :=
  if s.graph.containsEdge e then
    match s.clicks.click e now with
    | (.pending, clicks) => (.ok .pending, { s with clicks })
    | (.confirmed, clicks) =>
      match { s with clicks }.deleteEdge e with
      | (answer, s) => (answer.map fun _ => .confirmed, s)
  else (.error (.unknownEdge e), s)

/-- Time passes: a first click whose window is over is forgotten. -/
def expire (s : Session) (now : Int) : Session := { s with clicks := s.clicks.expire now }

/-! ## Viewport -/

/-- One notch of the wheel around the pointer: down zooms out, everything else in. -/
def wheel (s : Session) (anchor : Point Float) (deltaY : Float) : Session :=
  let step := s.settings.zoom.wheelStep
  let zoom := if 0 < deltaY then s.viewport.zoom - step else s.viewport.zoom + step
  (s.withViewport (s.viewport.zoomAt anchor zoom)).rerouteAll

def zoomIn (s : Session) : Session :=
  (s.withViewport (s.viewport.setZoom (s.viewport.zoom + s.settings.zoom.buttonStep))).rerouteAll

def zoomOut (s : Session) : Session :=
  (s.withViewport (s.viewport.setZoom (s.viewport.zoom - s.settings.zoom.buttonStep))).rerouteAll

/-- Goes back to the view that sessions begin with. -/
def resetView (s : Session) : Session := (s.withViewport s.viewport.reset).rerouteAll

/-! ## The whole workflow -/

/-- Lays out the graph and goes back to the view that sessions begin with. -/
def arrange (s : Session) : Layout.Report Float × Session :=
  match Layout.arrange s.graph s.settings.placement with
  | (report, graph) => (report, (s.withGraph graph).resetView)

/-- Replaces the graph by another.  Nothing of the one before is held, drawn or selected. -/
def restart (s : Session) (graph : Graph Float) : Session :=
  { s with
    canvas := { s.canvas with graph, wiring := s.wiring.clear }
    hand := .idle
    clicks := s.clicks.reset
    selection := none }

/-- Gives a session that authors a workflow a start node if it has none. -/
def ensureStart (s : Session) : Session :=
  match s.mode, s.graph.startId with
  | .create, none => (s.createNode .start s.settings.placement.startPosition).2
  | _, _ => s

/-- Empties the workflow; a session that authors one is given a fresh start node.  The view stays. -/
def clear (s : Session) : Session := (s.restart s.graph.clear).ensureStart

def install (s : Session) (i : Imported) : Loaded × Session :=
  (⟨i.source, i.skipped⟩, (s.restart i.graph).ensureStart.rerouteAll)

/-- Replaces the workflow by what an import gave; a refused import leaves it as it was. -/
def load (s : Session) (imported : Except ImportError Imported) : Except ImportError Loaded × Session :=
  match imported with
  | .error e => (.error e, s)
  | .ok i =>
    match s.install i with
    | (loaded, s) => (.ok loaded, s)

def loadText (s : Session) (text : String) : Except ImportError Loaded × Session :=
  s.load (Import.ofText s.graph.palette s.settings.placement text)

def loadValue (s : Session) (v : Json.Value) : Except ImportError Loaded × Session :=
  s.load (Import.ofValue s.graph.palette s.settings.placement v)

end Session

end Workflow
