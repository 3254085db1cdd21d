import Workflow.Canvas.Gesture
import Workflow.Proofs.Runs
/-!
# The protocol of gestures

A gesture changes a canvas in few ways, each a change of its graph with the wires it touches (`Canvas.moved` and the
like).  `Hand.Effect` is all that a gesture can answer and leave, together with what it takes for that: every gesture
does one of these (`effect_handle`), and what gestures do and leave alone is read off it.

The protocol holds on any canvas, from any state of the hand that gestures lead to.  The canvas may change in between,
nodes that the hand is at included, so nothing is assumed of it.
-/
namespace Workflow

def Gesture.isBegin : Gesture → Bool
  | .beginDrag _ _ => true
  | .beginPan _ => true
  | .beginConnection _ _ => true
  | _ => false

/-! ## Changes of a canvas -/

namespace Canvas

variable (c : Canvas)

def moved (id : NodeId) (position : Point Float) : Canvas :=
  let graph := (c.graph.moveNode id position).2
  { c with graph, wiring := c.wiring.rerouteNode graph id }

def connected (source target : NodeId) (outcome : Outcome) : Canvas :=
  let graph := (c.graph.createEdge source target outcome).2
  { c with graph, wiring := c.wiring.reroute graph ⟨source, target, outcome⟩ }

def disconnected (e : Edge) : Canvas := { c with graph := (c.graph.deleteEdge e).2, wiring := c.wiring.forget e }

/-- A node is taken out, and its edges are no longer drawn. -/
def without (id : NodeId) : Canvas :=
  { c with graph := (c.graph.deleteNode id).2, wiring := (c.graph.edgesTouching id).foldl Wiring.forget c.wiring }

/-- Everything is drawn anew, for a graph and a view. -/
def redrawn (graph : Graph Float) (viewport : Viewport Float) : Canvas := ⟨graph, viewport, c.wiring.all graph⟩

def panned (pan : Point Float) : Canvas := c.redrawn c.graph (c.viewport.setPan pan)

end Canvas

namespace Hand

/-! ## What gestures do -/

/-- Where a drag takes a node: as far from where it was as the pointer is from where it began. -/
def dragTarget (c : Canvas) (anchor origin point : Point Float) : Point Float :=
  origin + (point - anchor).scale (1 / c.viewport.zoom)

/-- What a gesture can answer, and the hand and the canvas it can leave. -/
inductive Effect (h : Hand) (c : Canvas) : Gesture → Handled → Prop
  | ignored (gesture : Gesture) (was : h.activity = .idle) : Effect h c gesture (.ok .ignored, h, c)
  | refused (gesture : Gesture) (e : GestureError) (begins : gesture.isBegin = true) :
    Effect h c gesture (.error e, h, c)
  /-- Whatever the hand was at is over. -/
  | ended (gesture : Gesture) (response : Response) (quiet : ∀ id, response ≠ .dragStarted id) :
    Effect h c gesture (.ok response, idle, c)
  /-- The node that was dragged is gone. -/
  | lost (id : NodeId) (anchor origin point : Point Float) (was : h.activity = .dragging id anchor origin)
    (gone : c.graph.node? id = none) : Effect h c (.move point) (.error (.graph (.unknownNode id)), idle, c)
  /-- A connection is refused by the graph. -/
  | declined (source : NodeId) (outcome : Outcome) (onto : Option NodeId) (r : Graph.Rejection)
    (was : h.activity = .connecting source outcome) : Effect h c (.release onto) (.error (.graph r), idle, c)
  | grabbed (id : NodeId) (point : Point Float) (n : Node Float) (was : h.activity = .idle)
    (found : c.graph.node? id = some n) :
    Effect h c (.beginDrag id point) (.ok (.dragStarted id), { h with activity := .dragging id point n.position }, c)
  | grasped (point : Point Float) (was : h.activity = .idle) :
    Effect h c (.beginPan point) (.ok .panStarted, { h with activity := .panning (point - c.viewport.pan) }, c)
  | drawn (id : NodeId) (port : Port) (outcome : Outcome) (out : port.outcome = some outcome)
    (found : id ∈ c.graph.nodes) : Effect h c (.beginConnection id port)
      (.ok (.connectionStarted id outcome), ⟨.connecting id outcome, none⟩, c)
  | dragged (id : NodeId) (anchor origin point : Point Float) (was : h.activity = .dragging id anchor origin) :
    Effect h c (.move point) (.ok (.nodeMoved id (dragTarget c anchor origin point).clamp), h,
      c.moved id (dragTarget c anchor origin point))
  | panned (anchor point : Point Float) (was : h.activity = .panning anchor) :
    Effect h c (.move point) (.ok (.panned (point - anchor)), h, c.panned (point - anchor))
  | previewed (source : NodeId) (outcome : Outcome) (point : Point Float) (preview : Option Curve)
    (was : h.activity = .connecting source outcome) :
    Effect h c (.move point) (.ok .previewUpdated, ⟨.connecting source outcome, preview⟩, c)
  | connected (source target : NodeId) (outcome : Outcome) (n : Node Float)
    (was : h.activity = .connecting source outcome) (found : c.graph.node? target = some n) (enters : n.isStart = false)
    (other : target ≠ source) (done : c.graph.createEdge source target outcome =
      (.ok ⟨source, target, outcome⟩, c.graph.addEdge ⟨source, target, outcome⟩)) :
    Effect h c (.release (some target)) (.ok (.edgeCreated ⟨source, target, outcome⟩), idle,
      c.connected source target outcome)

section

variable {h : Hand} (c : Canvas)

theorem effect_beginDrag (was : h.activity = .idle) (id : NodeId) (point : Point Float) :
    h.Effect c (.beginDrag id point) (h.beginDrag c id point) := by
  rw [beginDrag]
  split
  · exact .refused _ _ rfl
  · next n found => exact .grabbed id point n was found

theorem effect_beginConnection (h : Hand) (id : NodeId) (port : Port) :
    h.Effect c (.beginConnection id port) (h.beginConnection c id port) := by
  rw [beginConnection]
  split
  · exact .refused _ _ rfl
  · next outcome out =>
    split
    · next found => exact .drawn id port outcome out ((c.graph.containsNode_iff id).1 found)
    · exact .refused _ _ rfl

theorem effect_drag {id : NodeId} {anchor origin : Point Float} (was : h.activity = .dragging id anchor origin)
    (point : Point Float) : h.Effect c (.move point) (h.drag c id anchor origin point) := by
  cases found : c.graph.node? id with
  | none =>
    rw [drag, Graph.moveNode_of_unknown found]
    exact .lost id anchor origin point was found
  | some n =>
    have moved := Effect.dragged (c := c) id anchor origin point was
    rw [Canvas.moved, Graph.moveNode_of found] at moved
    rw [drag, Graph.moveNode_of found]
    exact moved

theorem isDropTarget_iff {source : NodeId} {outcome : Outcome} (was : h.activity = .connecting source outcome)
    (g : Graph Float) (id : NodeId) :
    h.isDropTarget g id = true ↔ id ≠ source ∧ ∃ n, g.node? id = some n ∧ n.isStart = false := by
  have port : ∀ n : Node Float, n.hasPort .input = !n.isStart := fun n => rfl
  rw [isDropTarget, was]
  show (source != id && (g.node? id).any (·.hasPort .input)) = true ↔ _
  rw [Bool.and_eq_true, bne_iff_ne, ne_comm]
  cases found : g.node? id with
  | none => simp
  | some n => simp [port]

theorem effect_connect {source : NodeId} {outcome : Outcome} (was : h.activity = .connecting source outcome)
    (onto : Option NodeId) : h.Effect c (.release onto) (h.connect c source outcome onto) := by
  rw [connect]
  split
  · exact .ended _ _ nofun
  · next target found =>
    obtain ⟨rfl, allowed⟩ := Option.filter_eq_some_iff.1 found
    rcases c.graph.createEdge_cases source target outcome with ⟨r, e⟩ | ⟨-, -, -, present, -, e⟩
    · rw [e]
      exact .declined source outcome _ r was
    · have drop : h.isDropTarget c.graph target = true := by
        simpa [(c.graph.containsNode_iff target).2 present] using allowed
      obtain ⟨other, n, there, enters⟩ := (isDropTarget_iff was c.graph target).1 drop
      have connected := Effect.connected source target outcome n was there enters other e
      rw [Canvas.connected, e] at connected
      rw [e]
      exact connected

/-- **Every gesture does one of these.** -/
theorem effect_handle (h : Hand) (gesture : Gesture) : h.Effect c gesture (h.handle c gesture) := by
  unfold handle
  cases was : h.activity with
  | idle =>
    cases gesture with
    | beginDrag id point => exact effect_beginDrag c was id point
    | beginPan point => exact .grasped point was
    | beginConnection id port => exact h.effect_beginConnection c id port
    | move _ | release _ => exact .ignored _ was
    | cancel => exact .ended _ _ nofun
  | dragging id anchor origin =>
    cases gesture with
    | beginDrag _ _ | beginPan _ | beginConnection _ _ => exact .refused _ _ rfl
    | move point => exact effect_drag c was point
    | release _ | cancel => exact .ended _ _ nofun
  | panning anchor =>
    cases gesture with
    | beginDrag _ _ | beginPan _ | beginConnection _ _ => exact .refused _ _ rfl
    | move point => exact .panned anchor point was
    | release _ | cancel => exact .ended _ _ nofun
  | connecting source outcome =>
    cases gesture with
    | beginDrag _ _ | beginPan _ | beginConnection _ _ => exact .refused _ _ rfl
    | move point => exact .previewed source outcome point _ was
    | release onto => exact effect_connect c was onto
    | cancel => exact .ended _ _ nofun

end

variable {h : Hand} {c : Canvas} {gesture : Gesture} {r : Handled}

/-- **What every request keeps, a gesture keeps.** -/
theorem Effect.induction {P : Graph Float → Prop}
    (kept : ∀ (g : Graph Float) (r : Graph.Request Float), P g → P (g.perform r).2) (effect : h.Effect c gesture r)
    (first : P c.graph) : P r.2.2.graph := by
  cases effect with
  | dragged id => exact kept c.graph (.moveNode id _) first
  | connected source target outcome => exact kept c.graph (.createEdge source target outcome) first
  | _ => exact first

/-! ## The hand -/

/-- The hands that gestures lead to, each on a canvas of its own.  A hand that is reset is a new one. -/
inductive Reached : Hand → Prop
  | idle : Reached .idle
  | handle {h : Hand} (c : Canvas) (gesture : Gesture) : Reached h → Reached (h.handle c gesture).2.1

/-- A preview is drawn only for a connection. -/
def Previews (h : Hand) : Prop := h.preview.isSome = true → ∃ source outcome, h.activity = .connecting source outcome

theorem Previews.eq_idle (previews : h.Previews) (was : h.activity = .idle) : h = idle := by
  rcases h with ⟨activity, preview⟩
  cases was
  cases preview with
  | none => rfl
  | some curve =>
    obtain ⟨source, outcome, connecting⟩ := previews rfl
    cases connecting

theorem Effect.previews (effect : h.Effect c gesture r) (previews : h.Previews) : r.2.1.Previews := by
  cases effect with
  | ignored | refused | dragged | panned => exact previews
  | ended | lost | declined | connected | drawn => exact nofun
  | grabbed id point n was =>
    rw [previews.eq_idle was]
    exact nofun
  | grasped point was =>
    rw [previews.eq_idle was]
    exact nofun
  | previewed source outcome => exact fun _ => ⟨source, outcome, rfl⟩

/-- **No hand that gestures lead to previews anything but a connection.** -/
theorem Reached.previews (reached : h.Reached) : h.Previews := by
  induction reached with
  | idle => exact nofun
  | @handle h c gesture _ ih => exact (h.effect_handle c gesture).previews ih

/-- **A release or a cancellation ends whatever the hand was at**, also when it is refused. -/
theorem Effect.eq_idle (effect : h.Effect c gesture r) (previews : h.Previews)
    (ends : (∃ onto, gesture = .release onto) ∨ gesture = .cancel) : r.2.1 = idle := by
  cases effect with
  | ignored gesture was => exact previews.eq_idle was
  | ended | lost | declined | connected => rfl
  | refused gesture e begins => rcases ends with ⟨onto, rfl⟩ | rfl <;> cases begins
  | grabbed | grasped | drawn | dragged | panned | previewed => rcases ends with ⟨onto, same⟩ | same <;> cases same

theorem handle_busy (begins : gesture.isBegin = true) (busy : h.activity ≠ .idle) (c : Canvas) :
    h.handle c gesture = (.error (.busy gesture.name h.activity.name), h, c) := by
  cases gesture with
  | move _ | release _ | cancel => cases begins
  | beginDrag _ _ | beginPan _ | beginConnection _ _ =>
    unfold handle
    cases was : h.activity with
    | idle => exact absurd was busy
    | dragging _ _ _ | panning _ | connecting _ _ => rfl

/-! ## The canvas -/

/-- **A refused gesture leaves the canvas**, and the hand at what it was at or idle. -/
theorem Effect.of_error (effect : h.Effect c gesture r) {e : GestureError} (refused : r.1 = .error e) :
    r.2.2 = c ∧ (r.2.1 = h ∨ r.2.1 = idle) := by
  cases effect with
  | refused => exact ⟨rfl, .inl rfl⟩
  | lost | declined => exact ⟨rfl, .inr rfl⟩
  | _ => cases refused

/-- What of a node no gesture changes. -/
def fixedPart (n : Node Float) : NodeId × Kind × Json.Object := (n.id, n.kind, n.data)

theorem Effect.order (effect : h.Effect c gesture r) : r.2.2.graph.order = c.graph.order := by
  cases effect with
  | dragged id anchor origin point =>
    rcases c.graph.moveNode_amends id (dragTarget c anchor origin point) with ⟨-, e⟩ | ⟨n, answer, -, e⟩ <;>
      rw [Canvas.moved, e]
  | connected source target outcome n was found enters other done =>
    rw [Canvas.connected, done]
    rfl
  | _ => rfl

theorem Effect.node? (effect : h.Effect c gesture r) (id : NodeId) : r.2.2.graph.node? id = c.graph.node? id ∨
    (∃ anchor origin point, h.activity = .dragging id anchor origin ∧ gesture = .move point) ∧
      (r.2.2.graph.node? id).map fixedPart = (c.graph.node? id).map fixedPart := by
  cases effect with
  | dragged dragged anchor origin point was =>
    have node? := (c.graph.moveNode_amends dragged (dragTarget c anchor origin point)).node? id
    by_cases same : dragged = id
    · subst same
      rw [if_pos rfl] at node?
      refine .inr ⟨⟨anchor, origin, point, was, rfl⟩, ?_⟩
      show ((c.graph.moveNode dragged (dragTarget c anchor origin point)).2.node? dragged).map fixedPart = _
      rw [node?, Option.map_map]
      rfl
    · rw [if_neg same] at node?
      exact .inl node?
  | connected source target outcome => exact .inl (c.graph.node?_createEdge source target outcome id)
  | _ => exact .inl rfl

theorem Effect.fixedParts (effect : h.Effect c gesture r) (id : NodeId) :
    (r.2.2.graph.node? id).map fixedPart = (c.graph.node? id).map fixedPart := by
  rcases effect.node? id with same | ⟨-, fixed⟩
  · rw [same]
  · exact fixed

theorem Effect.viewport (effect : h.Effect c gesture r) : r.2.2.viewport = c.viewport ∨ ∃ anchor point,
    h.activity = .panning anchor ∧ gesture = .move point ∧
      r.2.2.viewport = { c.viewport with pan := point - anchor } := by
  cases effect with
  | panned anchor point was => exact .inr ⟨anchor, point, was, rfl, rfl⟩
  | _ => exact .inl rfl

theorem Effect.edges (effect : h.Effect c gesture r) : r.2.2.graph.edges = c.graph.edges ∨
    ∃ source outcome target n, h.activity = .connecting source outcome ∧ gesture = .release (some target) ∧
      r.2.2.graph.edges = c.graph.edges ++ [⟨source, target, outcome⟩] ∧
      c.graph.node? target = some n ∧ n.isStart = false ∧ target ≠ source := by
  cases effect with
  | dragged id => exact .inl (c.graph.moveNode_amends id _).edges
  | connected source target outcome n was found enters other done =>
    refine .inr ⟨source, outcome, target, n, was, rfl, ?_, found, enters, other⟩
    rw [Canvas.connected, done]
    rfl
  | _ => exact .inl rfl

/-- **The protocol of gestures.**  On any canvas and from any hand that gestures led to: only connections are previewed;
a release or a cancellation leaves an idle hand; a hand that is at something begins nothing else; a refused gesture
leaves the canvas, and the hand as it was or idle.  Nodes are neither added nor removed nor given another kind or other
data, and no edge is removed.  Only a move while dragging changes a position, that of the dragged node; only a move
while panning changes the view, and of it the pan; only a release while connecting adds an edge, from the source to the
node released over, which is another node and has an input port. -/
theorem gesture_protocol (reached : h.Reached) (c : Canvas) (gesture : Gesture) :
    (h.preview.isSome = true → ∃ source outcome, h.activity = .connecting source outcome) ∧
    (((∃ onto, gesture = .release onto) ∨ gesture = .cancel) → (h.handle c gesture).2.1 = .idle) ∧
    (gesture.isBegin = true → h.activity ≠ .idle →
      h.handle c gesture = (.error (.busy gesture.name h.activity.name), h, c)) ∧
    (∀ e, (h.handle c gesture).1 = .error e → (h.handle c gesture).2.2 = c ∧
      ((h.handle c gesture).2.1 = h ∨ (h.handle c gesture).2.1 = .idle)) ∧
    (h.handle c gesture).2.2.graph.order = c.graph.order ∧
    (∀ id, ((h.handle c gesture).2.2.graph.node? id).map (fun n => (n.id, n.kind, n.data)) =
      (c.graph.node? id).map (fun n => (n.id, n.kind, n.data))) ∧
    (∀ id, (h.handle c gesture).2.2.graph.node? id ≠ c.graph.node? id →
      ∃ anchor origin point, h.activity = .dragging id anchor origin ∧ gesture = .move point) ∧
    ((h.handle c gesture).2.2.viewport = c.viewport ∨ ∃ anchor point, h.activity = .panning anchor ∧
      gesture = .move point ∧ (h.handle c gesture).2.2.viewport = { c.viewport with pan := point - anchor }) ∧
    ((h.handle c gesture).2.2.graph.edges = c.graph.edges ∨
      ∃ source outcome target n, h.activity = .connecting source outcome ∧ gesture = .release (some target) ∧
        (h.handle c gesture).2.2.graph.edges = c.graph.edges ++ [⟨source, target, outcome⟩] ∧
        c.graph.node? target = some n ∧ n.isStart = false ∧ target ≠ source) := by
  have effect := h.effect_handle c gesture
  refine ⟨reached.previews, effect.eq_idle reached.previews, fun begins busy => handle_busy begins busy c,
    fun e refused => effect.of_error refused, effect.order, effect.fixedParts, fun id changed => ?_, effect.viewport,
    effect.edges⟩
  rcases effect.node? id with same | ⟨dragging, -⟩
  · exact absurd same changed
  · exact dragging

theorem gesture_protocol_of_connecting : ∃ (h : Hand) (c : Canvas), h.Reached ∧
    h.activity = .connecting (.numbered 1) .success ∧ (h.handle c (.release (some (.numbered 2)))).2.1 = .idle ∧
    (h.handle c (.release (some (.numbered 2)))).2.2.graph.order = c.graph.order ∧
    h.handle c (.beginPan ⟨1, 2⟩) = (.error (.busy "pan" "drawing a connection"), h, c) := by
  let g : Graph Float := ((Graph.withStart ⟨∅⟩ ⟨5, 7⟩).createNode (.action "click") ⟨300, 7⟩).2
  let c : Canvas := ⟨g, .ofBounds .standard, .empty .standard⟩
  have reached : (idle.handle c (.beginConnection (.numbered 1) .success)).2.1.Reached := .handle c _ .idle
  have connecting : (idle.handle c (.beginConnection (.numbered 1) .success)).2.1 =
      ⟨.connecting (.numbered 1) .success, none⟩ := by
    have found : g.containsNode (.numbered 1) = true := by decide +kernel
    show (idle.beginConnection c (.numbered 1) .success).2.1 = _
    rw [beginConnection]
    simp [Port.outcome, c, found]
  rw [connecting] at reached
  have protocol := gesture_protocol reached c
  obtain ⟨-, released, -, -, order, -⟩ := protocol (.release (some (.numbered 2)))
  obtain ⟨-, -, busy, -⟩ := protocol (.beginPan ⟨1, 2⟩)
  exact ⟨_, c, reached, rfl, released (.inl ⟨_, rfl⟩), order, busy rfl fun same => by cases same⟩

end Hand

end Workflow
