import Workflow.Proofs.Places
/-!
# Outlines of sessions

The outline of a session is all of it but for places, views and curves.  What is seen of a step, its answer and the
session it leaves, is determined by the outline of the session before, whatever points are named (`perform_alike`).
So two histories that differ in points only lead to the same outline, and what is read off a graph without looking at
places is the same after both.
-/
namespace Workflow

open Workflow.Action (Reply Refusal)

/-- A session, but for places, views and curves. -/
structure Outline where
  mode : Mode
  graph : Graph Unit
  hand : Activity × Bool
  clicks : DoubleClick
  selection : Option NodeId

namespace Session

/-- What of a session has no place. -/
def outline (s : Session) : Outline := ⟨s.mode, s.graph.bare, s.hand.bare, s.clicks, s.selection⟩

section

variable {ε β γ : Type}

/-- What is seen of a step through a view of its answers. -/
def seen (view : β → γ) (step : Except ε β × Session) : Except ε γ × Outline := (step.1.map view, step.2.outline)

theorem seen_congr {view : β → γ} {x y : Except ε β × Session} (answer : x.1.map view = y.1.map view)
    (after : x.2.outline = y.2.outline) : seen view x = seen view y := Prod.ext answer after

theorem seen_cases {view : β → γ} {x y : Except ε β × Session} (same : seen view x = seen view y) :
    (∃ e s t, x = (.error e, s) ∧ y = (.error e, t) ∧ s.outline = t.outline) ∨
      ∃ a b s t, x = (.ok a, s) ∧ y = (.ok b, t) ∧ view a = view b ∧ s.outline = t.outline := by
  obtain ⟨answer, after⟩ := Prod.mk.inj same
  exact step_cases answer after

theorem seen_of {view : β → γ} {x y : Except ε β × Session} (same : seen view x = seen view y) (refusal : ε → Refusal)
    {reply : β → Reply} {shown : Reply → Reply} (through : ∀ a b, view a = view b → shown (reply a) = shown (reply b)) :
    seen shown (Reply.of refusal reply x) = seen shown (Reply.of refusal reply y) := by
  rcases seen_cases same with ⟨e, s, t, rfl, rfl, after⟩ | ⟨a, b, s, t, rfl, rfl, viewed, after⟩
  · exact seen_congr rfl after
  · exact seen_congr (congrArg Except.ok (through a b viewed)) after

end

variable {s t : Session}

theorem seen_sure (same : s.outline = t.outline) {shown : Reply → Reply} {reply reply' : Reply}
    (answer : shown reply = shown reply') : seen shown (Reply.sure reply s) = seen shown (Reply.sure reply' t) :=
  seen_congr (congrArg Except.ok answer) same

/-! ## Operations -/

theorem outline_withGraph (same : s.outline = t.outline) {g g' : Graph Float} (graph : g.bare = g'.bare) :
    (s.withGraph g).outline = (t.withGraph g').outline :=
  congrArg₂ (fun (o : Outline) graph => { o with graph }) same graph

theorem outline_withWiring (s : Session) (wiring : Wiring) : (s.withWiring wiring).outline = s.outline := rfl

theorem outline_withViewport (s : Session) (viewport : Viewport Float) :
    (s.withViewport viewport).outline = s.outline := rfl

theorem outline_rerouteAll (s : Session) : s.rerouteAll.outline = s.outline := s.outline_withWiring _

/-- Where the canvas is looked at is no part of the outline. -/
theorem outline_rerouteAll_withViewport (s : Session) (viewport : Viewport Float) :
    (s.withViewport viewport).rerouteAll.outline = s.outline := by
  rw [outline_rerouteAll, outline_withViewport]

theorem graph_alike (same : s.outline = t.outline) : s.graph.bare = t.graph.bare := congrArg (·.graph) same

def grabbed : Except GestureError Response → Option NodeId
  | .ok (.dragStarted id) => some id
  | _ => none

theorem handle_alike (same : s.outline = t.outline) (g : Gesture) :
    seen Response.bare (s.handle g) = seen Response.bare (t.handle g.bare) := by
  have grabbed_bare (answer : Except GestureError Response) : grabbed (answer.map Response.bare) = grabbed answer := by
    rcases answer with e | r
    · rfl
    · cases r <;> rfl
  have step (s : Session) (g : Gesture) : seen Response.bare (s.handle g) =
      let x := (s.hand.handle s.canvas g).bare
      (x.1, ⟨s.mode, x.2.2, x.2.1, s.clicks, (grabbed x.1).or s.selection⟩) := by
    rw [handle]
    simp only [Hand.Handled.bare, grabbed_bare]
    rcases s.hand.handle s.canvas g with ⟨e | r, hand, canvas⟩
    · rfl
    · cases r <;> rfl
  have hand : s.hand.bare = t.hand.bare := congrArg (·.hand) same
  have mode : s.mode = t.mode := congrArg (·.mode) same
  have clicks : s.clicks = t.clicks := congrArg (·.clicks) same
  have selection : s.selection = t.selection := congrArg (·.selection) same
  have graph : s.canvas.graph.bare = t.canvas.graph.bare := graph_alike same
  rw [step, step, Hand.handle_alike hand graph g, mode, clicks, selection]

theorem createNode_alike (same : s.outline = t.outline) (kind : Kind) (p p' : Point Float) :
    seen id (s.createNode kind p) = seen id (t.createNode kind p') := by
  obtain ⟨answer, after⟩ := Graph.createNode_alike (graph_alike same) kind p p'
  rw [createNode_eq, createNode_eq, answer]
  exact seen_congr rfl (outline_withGraph same after)

theorem dropNode_alike (same : s.outline = t.outline) (kind : Kind) (p p' : Point Float) :
    seen id (s.dropNode kind p) = seen id (t.dropNode kind p') := by
  rw [dropNode, dropNode]
  generalize s.viewport.toLogical p - s.settings.placement.dropOffset = q
  generalize t.viewport.toLogical p' - t.settings.placement.dropOffset = q'
  rcases seen_cases (createNode_alike same kind q q') with
    ⟨e, s', t', made, made', after⟩ | ⟨id, id', s', t', made, made', rfl, after⟩ <;> rw [made, made']
  · exact seen_congr rfl after
  · exact seen_congr rfl (congrArg (fun o : Outline => { o with selection := some id }) after)

theorem forgetEdge_alike (same : s.outline = t.outline) (e : Edge) :
    (s.forgetEdge e).outline = (t.forgetEdge e).outline :=
  congrArg (fun o : Outline => { o with clicks := if o.clicks.edge? = some e then o.clicks.reset else o.clicks }) same

theorem foldl_forgetEdge_alike (gone : List Edge) {s t : Session} (same : s.outline = t.outline) :
    (gone.foldl forgetEdge s).outline = (gone.foldl forgetEdge t).outline := by
  induction gone generalizing s t with
  | nil => exact same
  | cons e gone ih => exact ih (forgetEdge_alike same e)

theorem forgetNode_alike (same : s.outline = t.outline) (id : NodeId) :
    (s.forgetNode id).outline = (t.forgetNode id).outline := by
  have forget (s : Session) : (s.forgetNode id).outline = { s.outline with
      selection := if s.outline.selection = some id then none else s.outline.selection
      hand := if s.outline.hand.1.involves id then Hand.idle.bare else s.outline.hand } := by
    simp only [forgetNode, outline, Hand.bare, Activity.involves_bare]
    split <;> rfl
  rw [forget, forget, same]

theorem deleteNode_alike (same : s.outline = t.outline) (id : NodeId) :
    seen (·.placedAt nowhere) (s.deleteNode id) = seen (·.placedAt nowhere) (t.deleteNode id) := by
  obtain ⟨answer, after⟩ := Graph.deleteNode_alike (graph_alike same) id
  rw [deleteNode, deleteNode]
  rcases step_cases answer after with ⟨e, next, next', done, done', after⟩ |
    ⟨⟨n, gone⟩, ⟨n', gone'⟩, next, next', done, done', removed, after⟩ <;> rw [done, done']
  · exact seen_congr rfl (outline_withGraph same after)
  · have graph := outline_withGraph same after
    have edges : gone = gone' := congrArg (·.edges) removed
    subst edges
    exact seen_congr (congrArg Except.ok removed) (forgetNode_alike (foldl_forgetEdge_alike gone graph) id)

theorem deleteSelected_alike (same : s.outline = t.outline) :
    seen (Option.map (·.placedAt nowhere)) s.deleteSelected =
      seen (Option.map (·.placedAt nowhere)) t.deleteSelected := by
  have doomed : (s.selection.filter fun id => !s.graph.isStart id) = t.selection.filter fun id => !t.graph.isStart id :=
    congrArg (fun o : Outline => o.selection.filter fun id => !o.graph.isStart id) same
  rw [deleteSelected, deleteSelected, doomed]
  split
  · exact seen_congr rfl same
  · next id _ =>
    rcases seen_cases (deleteNode_alike same id) with
      ⟨e, s', t', done, done', after⟩ | ⟨r, r', s', t', done, done', removed, after⟩ <;> rw [done, done']
    · exact seen_congr rfl after
    · exact seen_congr (congrArg (Except.ok <| some ·) removed) after

theorem moveNode_alike (same : s.outline = t.outline) (id : NodeId) (p p' : Point Float) :
    seen (fun _ => nowhere) (s.moveNode id p) = seen (fun _ => nowhere) (t.moveNode id p') := by
  obtain ⟨answer, after⟩ := Graph.moveNode_alike (graph_alike same) id p p'
  rw [moveNode, moveNode]
  rcases step_cases answer after with
    ⟨e, next, next', moved, moved', after⟩ | ⟨q, q', next, next', moved, moved', -, after⟩ <;> rw [moved, moved']
  · exact seen_congr rfl (outline_withGraph same after)
  · exact seen_congr rfl (outline_withGraph same after)

theorem updateField_alike (same : s.outline = t.outline) (k : NodeId) (name : String) (v : Json.Value) :
    seen id (s.updateField k name v) = seen id (t.updateField k name v) := by
  obtain ⟨answer, after⟩ := Graph.updateField_alike (graph_alike same) k name v
  rw [updateField_eq, updateField_eq, answer]
  exact seen_congr rfl (outline_withGraph same after)

theorem select_alike (same : s.outline = t.outline) (k : NodeId) : seen id (s.select k) = seen id (t.select k) := by
  rw [select, select, Graph.containsNode_alike (graph_alike same)]
  split
  · exact seen_congr rfl (congrArg (fun o : Outline => { o with selection := some k }) same)
  · exact seen_congr rfl same

theorem createEdge_alike (same : s.outline = t.outline) (source target : NodeId) (outcome : Outcome) :
    seen id (s.createEdge source target outcome) = seen id (t.createEdge source target outcome) := by
  obtain ⟨answer, after⟩ := Graph.createEdge_alike (graph_alike same) source target outcome
  obtain ⟨r, next, next', made, made', after⟩ := exists_step answer after
  rw [createEdge, createEdge, made, made']
  cases r with
  | error _ | ok _ => exact seen_congr rfl (outline_withGraph same after)

theorem deleteEdge_alike (same : s.outline = t.outline) (e : Edge) :
    seen id (s.deleteEdge e) = seen id (t.deleteEdge e) := by
  obtain ⟨answer, after⟩ := Graph.deleteEdge_alike (graph_alike same) e
  obtain ⟨r, next, next', done, done', after⟩ := exists_step answer after
  rw [deleteEdge, deleteEdge, done, done']
  have graph := outline_withGraph same after
  cases r with
  | error _ => exact seen_congr rfl graph
  | ok _ => exact seen_congr rfl (forgetEdge_alike graph e)

theorem clickEdge_alike (same : s.outline = t.outline) (e : Edge) (now : Int) :
    seen id (s.clickEdge e now) = seen id (t.clickEdge e now) := by
  have contains : s.graph.containsEdge e = t.graph.containsEdge e := congrArg (·.graph.containsEdge e) same
  have click : s.clicks.click e now = t.clicks.click e now := congrArg (·.clicks.click e now) same
  rw [clickEdge, clickEdge, contains, click]
  split
  · split
    · next clicks _ => exact seen_congr rfl (congrArg (fun o : Outline => { o with clicks }) same)
    · next clicks _ =>
      have first : outline { s with clicks } = outline { t with clicks } :=
        congrArg (fun o : Outline => { o with clicks }) same
      rcases seen_cases (deleteEdge_alike first e) with
        ⟨r, s', t', done, done', after⟩ | ⟨_, _, s', t', done, done', -, after⟩ <;> rw [done, done']
      · exact seen_congr rfl after
      · exact seen_congr rfl after
  · exact seen_congr rfl same

theorem arrange_alike (same : s.outline = t.outline) : s.arrange.1.placedAt nowhere = t.arrange.1.placedAt nowhere ∧
    s.arrange.2.outline = t.arrange.2.outline := by
  obtain ⟨report, after⟩ :=
    Graph.arrange_alike (graph_alike same) s.settings.placement t.settings.placement
  have arranged (s : Session) :
      s.arrange.2.outline = (s.withGraph (Layout.arrange s.graph s.settings.placement).2).outline :=
    outline_rerouteAll_withViewport ..
  rw [arranged, arranged]
  exact ⟨report, outline_withGraph same after⟩

theorem started_alike (same : s.outline = t.outline) {g g' : Graph Float} (graph : g.bare = g'.bare) :
    (s.started g).bare = (t.started g').bare := by
  have mode : s.mode = t.mode := congrArg (·.mode) same
  have startId : g.startId = g'.startId := congrArg (·.startId) graph
  rw [started, started, mode, startId]
  split
  · exact (Graph.createNode_alike graph .start _ _).2
  · exact graph

theorem restarted_alike (same : s.outline = t.outline) {g g' : Graph Float} (graph : g.bare = g'.bare) :
    (s.restart g).ensureStart.outline = (t.restart g').ensureStart.outline := by
  have restarted : (s.restart g).outline = (t.restart g').outline :=
    congrArg₂ (fun (o : Outline) graph => Outline.mk o.mode graph Hand.idle.bare o.clicks.reset none) same graph
  rw [ensureStart_eq, ensureStart_eq]
  exact outline_withGraph restarted (started_alike restarted graph)

theorem clear_alike (same : s.outline = t.outline) : s.clear.outline = t.clear.outline := by
  have emptied (g : Graph Float) : g.clear.bare = g.bare.clear := Graph.bare_empty g.palette
  exact restarted_alike same (by rw [emptied, emptied, graph_alike same])

theorem load_alike (same : s.outline = t.outline) {i j : Except ImportError Imported}
    (imported : i.map Imported.bare = j.map Imported.bare) : seen id (s.load i) = seen id (t.load j) := by
  rcases except_map_cases imported with ⟨e, rfl, rfl⟩ | ⟨⟨g, source, skipped⟩, ⟨g', source', skipped'⟩, rfl, rfl, bare⟩
  · exact seen_congr rfl same
  · obtain ⟨graph, rest⟩ := Prod.mk.inj bare
    obtain ⟨rfl, rfl⟩ := Prod.mk.inj rest
    exact seen_congr rfl (restarted_alike same graph)

end Session

/-! ## Actions -/

/-- An action, but for points and distances. -/
def Action.bare : Action → Action
  | .gesture g => .gesture g.bare
  | .createNode kind _ => .createNode kind .origin
  | .dropNode kind _ => .dropNode kind .origin
  | .moveNode id _ => .moveNode id .origin
  | .wheel _ _ => .wheel .origin 0
  | other => other

def Action.Reply.bare : Reply → Reply
  | .response r => .response r.bare
  | .removed r => .removed (r.map (·.placedAt .origin))
  | .position _ => .position .origin
  | .layout r => .layout (r.placedAt .origin)
  | other => other

namespace Session

variable {s t : Session}

theorem perform_bare_alike (same : s.outline = t.outline) (a : Action) :
    seen Reply.bare (s.perform a) = seen Reply.bare (t.perform a.bare) := by
  cases a with
  | gesture g => exact seen_of (handle_alike same g) _ fun _ _ => congrArg Reply.response
  | createNode kind p => exact seen_of (createNode_alike same kind p .origin) _ fun _ _ => congrArg Reply.node
  | dropNode kind p => exact seen_of (dropNode_alike same kind p .origin) _ fun _ _ => congrArg Reply.node
  | deleteNode id =>
    exact seen_of (deleteNode_alike same id) _ fun _ _ removed =>
      congrArg (fun r : Graph.Removed Unit => Reply.removed (some (r.placedAt .origin))) removed
  | deleteSelected =>
    refine seen_of (deleteSelected_alike same) _ fun r r' removed => ?_
    have placed := congrArg (Option.map (·.placedAt (.origin : Point Float))) removed
    rw [Option.map_map, Option.map_map] at placed
    exact congrArg Reply.removed placed
  | moveNode id p => exact seen_of (moveNode_alike same id p .origin) _ fun _ _ _ => rfl
  | updateField id name v => exact seen_of (updateField_alike same id name v) _ fun _ _ => congrArg Reply.previous
  | select id => exact seen_of (select_alike same id) _ fun _ _ _ => rfl
  | clearSelection => exact seen_sure (congrArg (fun o : Outline => { o with selection := none }) same) rfl
  | createEdge source target outcome =>
    exact seen_of (createEdge_alike same source target outcome) _ fun _ _ => congrArg Reply.edge
  | deleteEdge e => exact seen_of (deleteEdge_alike same e) _ fun _ _ _ => rfl
  | clickEdge e now => exact seen_of (clickEdge_alike same e now) _ fun _ _ c => congrArg (Reply.click · e) c
  | expire now =>
    exact seen_sure (congrArg (fun o : Outline => { o with clicks := o.clicks.expire now }) same) rfl
  | wheel _ _ | zoomIn | zoomOut | resetView =>
    refine seen_sure ?_ rfl
    exact (outline_rerouteAll_withViewport ..).trans (same.trans (outline_rerouteAll_withViewport ..).symm)
  | arrange =>
    obtain ⟨report, after⟩ := arrange_alike same
    have placed := congrArg (·.placedAt (.origin : Point Float)) report
    rw [Layout.Report.placedAt_placedAt, Layout.Report.placedAt_placedAt] at placed
    exact seen_sure after (congrArg Reply.layout placed)
  | clear => exact seen_sure (clear_alike same) rfl
  | loadText text =>
    have palette : s.graph.palette = t.graph.palette := congrArg (·.graph.palette) same
    have imported := Import.ofText_alike s.graph.palette s.settings.placement t.settings.placement text
    exact seen_of (load_alike same (palette ▸ imported)) _ fun _ _ => congrArg Reply.loaded
  | loadValue v =>
    have palette : s.graph.palette = t.graph.palette := congrArg (·.graph.palette) same
    have imported := Import.ofValue_alike s.graph.palette s.settings.placement t.settings.placement v
    exact seen_of (load_alike same (palette ▸ imported)) _ fun _ _ => congrArg Reply.loaded

/-- **Two actions that differ in points only do the same**, but for points, to sessions of one outline. -/
theorem perform_alike (same : s.outline = t.outline) {a b : Action} (agree : a.bare = b.bare) :
    seen Reply.bare (s.perform a) = seen Reply.bare (t.perform b) := by
  rw [perform_bare_alike same a, agree, ← perform_bare_alike rfl b]

/-- **Two histories that differ in points only lead to one outline.** -/
theorem outline_after (same : s.outline = t.outline) {as bs : List Action}
    (agree : as.map Action.bare = bs.map Action.bare) : (s.after as).outline = (t.after bs).outline := by
  induction as generalizing s t bs with
  | nil =>
    rw [List.map_nil] at agree
    rw [List.map_eq_nil_iff.1 agree.symm]
    exact same
  | cons a as ih =>
    obtain ⟨b, bs, rfl, first, rest⟩ := List.map_eq_cons_iff.1 agree.symm
    exact ih (congrArg Prod.snd (perform_alike same first.symm)) rest.symm

theorem outline_ofSettings {palette : Palette} {settings settings' : Settings Float} {mode : Mode}
    (opened : ofSettings palette settings mode = .ok s) (opened' : ofSettings palette settings' mode = .ok t)
    (window : settings.deleteWindow = settings'.deleteWindow) : s.outline = t.outline := by
  have graph : (blankGraph palette settings mode).bare = (blankGraph palette settings' mode).bare := by
    cases mode with
    | create => exact (Graph.bare_withStart ..).trans (Graph.bare_withStart ..).symm
    | edit => rfl
  rw [ofSettings_eq opened, ofSettings_eq opened']
  exact congrArg₂ (fun g w => Outline.mk mode g Hand.idle.bare (.ofWindow w) none) graph window

end Session

/-! ## What is read off an outline -/

theorem Canvas.InStep.isSome_wire? {settings : WireSettings Float} {c : Canvas} (h : c.InStep settings) (e : Edge) :
    (c.wiring.wire? e).isSome = decide (e ∈ c.graph.edges) := by
  rw [h.wires]
  by_cases present : e ∈ c.graph.edges
  · obtain ⟨wire, routed⟩ := c.wiring.exists_route_of_mem h.reached.sound present
    rw [routed, decide_eq_true present]
    rfl
  · rw [c.wiring.route_of_not_mem h.reached.sound present, decide_eq_false present]
    rfl

/-- A document, but for positions and the moment of its creation. -/
def Document.bare (d : Document) : Document :=
  { d with
    nodes := d.nodes.map fun r => { r with position := .origin }
    metadata := d.metadata.map fun m => { m with created := none } }

theorem Document.bare_ofGraph {g g' : Graph Float} (same : g.bare = g'.bare) (mode : Mode)
    (created created' : Option Timestamp) : (ofGraph g mode created).bare = (ofGraph g' mode created').bare := by
  let record (g : Graph Unit) (n : Node Unit) : NodeRecord := ⟨n.id, n.kind, .origin, n.data, g.isStart n.id⟩
  have written (g : Graph Float) (created : Option Timestamp) : (ofGraph g mode created).bare =
      ⟨visualFormat, g.bare.nodeList.map (record g.bare), g.bare.edges, g.bare.startId,
        some ⟨none, .ofNat g.bare.nodeList.length, .ofNat g.bare.edges.length, some visualVersion, some mode⟩⟩ := by
    rw [Graph.nodeList_bare, List.length_map, List.map_map, bare, ofGraph]
    simp only [List.map_map, List.length_map]
    rfl
  rw [written, written, same]

namespace Session

/-- Two sessions agree in everything but where things are: their nodes, edges and numbering, what is selected, clicked
and held, which edges have wires, and all that is told of the workflow. -/
structure Agree (s t : Session) : Prop where
  nodes : s.graph.nodeList.map (fun n => (n.id, n.kind, n.data)) = t.graph.nodeList.map fun n => (n.id, n.kind, n.data)
  edges : s.graph.edges = t.graph.edges
  startId : s.graph.startId = t.graph.startId
  counter : s.graph.counter = t.graph.counter
  selection : s.selection = t.selection
  clicks : s.clicks = t.clicks
  activity : s.hand.activity.bare = t.hand.activity.bare
  previews : s.hand.preview.isSome = t.hand.preview.isSome
  wired : ∀ e, (s.wiring.wire? e).isSome = (t.wiring.wire? e).isSome
  issues : s.validate = t.validate
  steps : s.graph.steps = t.graph.steps
  documents : ∀ created created', (s.document created).bare = (t.document created').bare

variable {s t : Session}

theorem agree_of_outline (same : s.outline = t.outline) {settings settings' : WireSettings Float}
    (inStep : s.canvas.InStep settings) (inStep' : t.canvas.InStep settings') : Agree s t := by
  have graph := graph_alike same
  have edges : s.graph.edges = t.graph.edges := congrArg (·.edges) graph
  have mode : s.mode = t.mode := congrArg (·.mode) same
  have nodes (g : Graph Float) :
      g.nodeList.map (fun n => (n.id, n.kind, n.data)) = g.bare.nodeList.map fun n => (n.id, n.kind, n.data) := by
    rw [Graph.nodeList_bare, List.map_map]
    rfl
  exact {
    nodes := by rw [nodes, nodes, graph]
    edges
    startId := congrArg (·.startId) graph
    counter := congrArg (·.counter) graph
    selection := congrArg (·.selection) same
    clicks := congrArg (·.clicks) same
    activity := congrArg (·.hand.1) same
    previews := congrArg (·.hand.2) same
    wired e := by
      have drawn := inStep.isSome_wire? e
      have drawn' := inStep'.isSome_wire? e
      have edges : s.canvas.graph.edges = t.canvas.graph.edges := edges
      rw [wiring, wiring, drawn, drawn', edges]
    issues := by rw [validate, validate, ← Graph.validate_bare, graph, Graph.validate_bare]
    steps := by rw [← Graph.steps_bare, graph, Graph.steps_bare]
    documents created created' := by
      rw [document, document, mode]
      exact Document.bare_ofGraph graph t.mode created created' }

/-- **Geometry makes no difference to structure.**  Take two sessions of one palette and mode whose settings agree on
the time for a second click, and two histories that differ in points and distances only.  Then the sessions agree after
them in everything but where things are, and whatever is done next, at whatever points, is answered the same but for
points. -/
theorem geometry_makes_no_difference {palette : Palette} {settings settings' : Settings Float} {mode : Mode}
    (opened : ofSettings palette settings mode = .ok s) (opened' : ofSettings palette settings' mode = .ok t)
    (window : settings.deleteWindow = settings'.deleteWindow) {as bs : List Action}
    (alike : as.map Action.bare = bs.map Action.bare) :
    Agree (s.after as) (t.after bs) ∧ ∀ a b : Action, a.bare = b.bare →
      ((s.after as).perform a).1.map Reply.bare = ((t.after bs).perform b).1.map Reply.bare := by
  have same := outline_after (outline_ofSettings opened opened' window) alike
  refine ⟨agree_of_outline same (inStep_after (inStep_ofSettings opened) as)
    (inStep_after (inStep_ofSettings opened') bs), fun a b agree => ?_⟩
  exact congrArg Prod.fst (perform_alike same agree)

theorem geometry_makes_no_difference_to_dropping_and_dragging : ∃ s t,
    ofSettings ⟨∅⟩ .standard .create = .ok s ∧
    ofSettings ⟨∅⟩ { Settings.standard with zoom := ⟨0.5, 2, 0.25, 0.5⟩ } .create = .ok t ∧
    Agree (s.after [.wheel ⟨0, 0⟩ 1, .dropNode (.action "click") ⟨10, 20⟩, .gesture (.beginDrag (.numbered 2) ⟨10, 20⟩),
        .gesture (.move ⟨30, 5⟩)])
      (t.after [.wheel ⟨9, 9⟩ (-1), .dropNode (.action "click") ⟨7, 8⟩, .gesture (.beginDrag (.numbered 2) ⟨0, 0⟩),
        .gesture (.move ⟨-100, 0⟩)]) := by
  obtain ⟨s, opened⟩ := @exists_ofSettings .standard (by decide +kernel) ⟨∅⟩ .create
  obtain ⟨t, opened'⟩ := @exists_ofSettings { Settings.standard with zoom := ⟨0.5, 2, 0.25, 0.5⟩ }
    (by decide +kernel) ⟨∅⟩ .create
  refine ⟨s, t, opened, opened', (geometry_makes_no_difference opened opened' (by decide +kernel) ?_).1⟩
  simp only [List.map, Action.bare, Gesture.bare]

end Session

end Workflow
