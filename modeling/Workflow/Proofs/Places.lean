import Workflow.Proofs.Bare
import Workflow.Proofs.Wires
/-!
# The same done at other places

What becomes of two graphs that differ in the places of their nodes only differs in places only, and so do the answers
(`Graph.createNode_alike` and the like): each becomes what the bare graph becomes.  The same holds of what is imported
with different placements, and of the hand: it asks the canvas for places only to say where to.
-/
namespace Workflow

open Json (Object Value)

/-! ## Answers -/

section

variable {ε β γ σ τ : Type}

theorem except_map_cases {x y : Except ε β} {f : β → γ} (same : x.map f = y.map f) :
    (∃ e, x = .error e ∧ y = .error e) ∨ ∃ a b, x = .ok a ∧ y = .ok b ∧ f a = f b := by
  cases x with
  | error e =>
    cases y with
    | error e' => exact .inl ⟨e, rfl, congrArg Except.error (Except.error.inj same).symm⟩
    | ok b => cases same
  | ok a =>
    cases y with
    | error e' => cases same
    | ok b => exact .inr ⟨a, b, rfl, rfl, Except.ok.inj same⟩

theorem map_bind_congr (x : Except ε β) {k : γ → τ} {f f' : β → Except ε γ}
    (same : ∀ b, (f b).map k = (f' b).map k) : (x >>= f).map k = (x >>= f').map k := by
  cases x with
  | error e => rfl
  | ok b => exact same b

/-- Two steps that answer the same and leave states that look the same. -/
theorem exists_step {k : σ → τ} {x y : β × σ} (answer : x.1 = y.1) (after : k x.2 = k y.2) :
    ∃ r s t, x = (r, s) ∧ y = (r, t) ∧ k s = k t :=
  ⟨x.1, x.2, y.2, rfl, Prod.ext answer.symm rfl, after⟩

theorem step_cases {f : β → γ} {k : σ → τ} {x y : Except ε β × σ} (answer : x.1.map f = y.1.map f)
    (after : k x.2 = k y.2) : (∃ e s t, x = (.error e, s) ∧ y = (.error e, t) ∧ k s = k t) ∨
      ∃ a b s t, x = (.ok a, s) ∧ y = (.ok b, t) ∧ f a = f b ∧ k s = k t := by
  rcases x with ⟨x, s⟩
  rcases y with ⟨y, t⟩
  rcases except_map_cases answer with ⟨e, rfl, rfl⟩ | ⟨a, b, rfl, rfl, viewed⟩
  · exact .inl ⟨e, s, t, rfl, rfl, after⟩
  · exact .inr ⟨a, b, s, t, rfl, rfl, viewed, after⟩

end

/-! ## Graphs -/

namespace Graph

variable {g g' : Graph Float}

theorem node?_alike (same : g.bare = g'.bare) (id : NodeId) : g.node? id = none ∧ g'.node? id = none ∨
    ∃ n n', g.node? id = some n ∧ g'.node? id = some n' ∧ n.kind = n'.kind := by
  have found : (g.node? id).map (·.placedAt nowhere) = (g'.node? id).map (·.placedAt nowhere) := by
    rw [← node?_bare, ← node?_bare, same]
  cases hn : g.node? id with
  | none =>
    rw [hn, Option.map_none] at found
    exact .inl ⟨rfl, Option.map_eq_none_iff.1 found.symm⟩
  | some n =>
    rw [hn, Option.map_some] at found
    obtain ⟨n', hn', placed⟩ := Option.map_eq_some_iff.1 found.symm
    exact .inr ⟨n, n', rfl, hn', congrArg (fun m : Node Unit => m.kind) placed.symm⟩

theorem containsNode_alike (same : g.bare = g'.bare) (id : NodeId) : g.containsNode id = g'.containsNode id := by
  rw [← containsNode_bare, same, containsNode_bare]

theorem createNode_alike (same : g.bare = g'.bare) (kind : Kind) (p p' : Point Float) :
    (g.createNode kind p).1 = (g'.createNode kind p').1 ∧
      (g.createNode kind p).2.bare = (g'.createNode kind p').2.bare :=
  Prod.mk.inj ((g.createNode_bare kind p).symm.trans (same ▸ g'.createNode_bare kind p'))

theorem deleteNode_alike (same : g.bare = g'.bare) (id : NodeId) :
    (g.deleteNode id).1.map (·.placedAt nowhere) = (g'.deleteNode id).1.map (·.placedAt nowhere) ∧
      (g.deleteNode id).2.bare = (g'.deleteNode id).2.bare :=
  Prod.mk.inj ((g.deleteNode_bare id).symm.trans (same ▸ g'.deleteNode_bare id))

theorem moveNode_alike (same : g.bare = g'.bare) (id : NodeId) (p p' : Point Float) :
    (g.moveNode id p).1.map (fun _ => nowhere) = (g'.moveNode id p').1.map (fun _ => nowhere) ∧
      (g.moveNode id p).2.bare = (g'.moveNode id p').2.bare :=
  Prod.mk.inj ((g.moveNode_bare id p).symm.trans (same ▸ g'.moveNode_bare id p'))

theorem updateField_alike (same : g.bare = g'.bare) (id : NodeId) (name : String) (v : Value) :
    (g.updateField id name v).1 = (g'.updateField id name v).1 ∧
      (g.updateField id name v).2.bare = (g'.updateField id name v).2.bare :=
  Prod.mk.inj ((g.updateField_bare id name v).symm.trans (same ▸ g'.updateField_bare id name v))

theorem replaceData_alike (same : g.bare = g'.bare) (id : NodeId) (data : Object) :
    (g.replaceData id data).2.bare = (g'.replaceData id data).2.bare :=
  (Prod.mk.inj ((g.replaceData_bare id data).symm.trans (same ▸ g'.replaceData_bare id data))).2

theorem createEdge_alike (same : g.bare = g'.bare) (source target : NodeId) (outcome : Outcome) :
    (g.createEdge source target outcome).1 = (g'.createEdge source target outcome).1 ∧
      (g.createEdge source target outcome).2.bare = (g'.createEdge source target outcome).2.bare :=
  Prod.mk.inj ((g.createEdge_bare source target outcome).symm.trans (same ▸ g'.createEdge_bare source target outcome))

theorem deleteEdge_alike (same : g.bare = g'.bare) (e : Edge) :
    (g.deleteEdge e).1 = (g'.deleteEdge e).1 ∧ (g.deleteEdge e).2.bare = (g'.deleteEdge e).2.bare :=
  Prod.mk.inj ((g.deleteEdge_bare e).symm.trans (same ▸ g'.deleteEdge_bare e))

theorem arrange_alike (same : g.bare = g'.bare) (p p' : PlacementSettings Float) :
    (Layout.arrange g p).1.placedAt nowhere = (Layout.arrange g' p').1.placedAt nowhere ∧
      (Layout.arrange g p).2.bare = (Layout.arrange g' p').2.bare :=
  Prod.mk.inj ((g.arrange_bare p .standard).symm.trans (same ▸ g'.arrange_bare p' .standard))

end Graph

/-! ## Imports -/

/-- What is imported, but for places. -/
def Imported.bare (i : Imported) : Graph Unit × SourceFormat × List Skipped := (i.graph.bare, i.source, i.skipped)

namespace Import

def Chain.bare (c : Chain) : Graph Unit × List Skipped × Option NodeId :=
  (c.progress.graph.bare, c.progress.skipped, c.last)

variable {p p' : PlacementSettings Float} {c c' : Chain}

theorem link_alike {g g' : Graph Float} (same : g.bare = g'.bare) (skipped : List Skipped) (last : Option NodeId)
    (id : NodeId) (index : Nat) :
    (link ⟨g, skipped⟩ last id index).graph.bare = (link ⟨g', skipped⟩ last id index).graph.bare ∧
      (link ⟨g, skipped⟩ last id index).skipped = (link ⟨g', skipped⟩ last id index).skipped := by
  cases last with
  | none => exact ⟨same, rfl⟩
  | some source =>
    obtain ⟨answer, after⟩ := Graph.createEdge_alike same source id .success
    obtain ⟨r, next, next', made, made', after⟩ := exists_step answer after
    rw [link, link, made, made']
    cases r with
    | error _ | ok _ => exact ⟨after, rfl⟩

theorem extend_alike (same : c.bare = c'.bare) (members : List (String × Value)) (kind : Kind) (index : Nat) :
    (extend p c members kind index).bare = (extend p' c' members kind index).bare := by
  rcases c with ⟨⟨g, skipped⟩, last, y⟩
  rcases c' with ⟨⟨g', skipped'⟩, last', y'⟩
  obtain ⟨graph, rest⟩ := Prod.mk.inj same
  obtain ⟨rfl, rfl⟩ := Prod.mk.inj rest
  obtain ⟨answer, after⟩ := Graph.createNode_alike graph kind ⟨p.stepColumnX, y⟩ ⟨p'.stepColumnX, y'⟩
  obtain ⟨r, next, next', made, made', after⟩ := exists_step answer after
  rw [extend, extend, made, made']
  cases r with
  | error e => exact congrArg (·, _, _) after
  | ok id =>
    have palette : next.palette = next'.palette := congrArg (fun g : Graph Unit => g.palette) after
    have data := Graph.replaceData_alike after id (stepData members (next.palette.defaultData kind))
    obtain ⟨linked, skipped⟩ := link_alike data skipped last id index
    simp only [Chain.bare, palette] at linked skipped ⊢
    rw [linked, skipped]

theorem step_alike (same : c.bare = c'.bare) (entry : Value × Nat) :
    (step p c entry).bare = (step p' c' entry).bare := by
  have skip (reason : SkipReason) : Chain.bare { c with progress := c.progress.skip .step entry.2 reason } =
      Chain.bare { c' with progress := c'.progress.skip .step entry.2 reason } :=
    congrArg
      (fun b : Graph Unit × List Skipped × Option NodeId => (b.1, b.2.1 ++ [⟨.step, entry.2, reason⟩], b.2.2)) same
  rw [step, step]
  split
  · split
    · exact skip _
    · split
      · exact skip _
      · exact extend_alike same _ _ _
  · exact skip _

theorem steps_alike (palette : Palette) (p p' : PlacementSettings Float) (list : List Value) :
    (steps palette p list).bare = (steps palette p' list).bare := by
  have fold (entries : List (Value × Nat)) (c c' : Chain) (same : c.bare = c'.bare) :
      (entries.foldl (step p) c).bare = (entries.foldl (step p') c').bare := by
    induction entries generalizing c c' with
    | nil => exact same
    | cons e entries ih => exact ih _ _ (step_alike same e)
  have start : (Graph.withStart palette p.startPosition).bare = (Graph.withStart palette p'.startPosition).bare :=
    (Graph.bare_withStart ..).trans (Graph.bare_withStart ..).symm
  have whole := fold list.zipIdx ⟨⟨.withStart palette p.startPosition, []⟩, some (.numbered 1), p.firstStepY⟩
    ⟨⟨.withStart palette p'.startPosition, []⟩, some (.numbered 1), p'.firstStepY⟩ (congrArg (·, _, _) start)
  exact congrArg (fun b : Graph Unit × List Skipped × Option NodeId => (b.1, SourceFormat.steps, b.2.1)) whole

/-- **Where steps are placed makes no difference to what is imported.** -/
theorem ofValue_alike (palette : Palette) (p p' : PlacementSettings Float) (v : Value) :
    (ofValue palette p v).map Imported.bare = (ofValue palette p' v).map Imported.bare := by
  cases v with
  | array list =>
    rw [ofValue, ofValue, Except.map, Except.map, steps_alike palette p p']
  | object _ | null | bool _ | number _ | string _ => rw [ofValue, ofValue]

theorem ofText_alike (palette : Palette) (p p' : PlacementSettings Float) (text : String) :
    (ofText palette p text).map Imported.bare = (ofText palette p' text).map Imported.bare := by
  rw [ofText, ofText]
  exact map_bind_congr _ (ofValue_alike palette p p')

end Import

/-! ## Gestures -/

/-- An activity, but for points. -/
def Activity.bare : Activity → Activity
  | .dragging id _ _ => .dragging id .origin .origin
  | .panning _ => .panning .origin
  | other => other

def Gesture.bare : Gesture → Gesture
  | .beginDrag id _ => .beginDrag id .origin
  | .beginPan _ => .beginPan .origin
  | .move _ => .move .origin
  | other => other

def Response.bare : Response → Response
  | .nodeMoved id _ => .nodeMoved id .origin
  | .panned _ => .panned .origin
  | other => other

theorem Activity.involves_bare (a : Activity) (id : NodeId) : a.bare.involves id = a.involves id := by
  cases a <;> rfl

theorem Wiring.isSome_preview_alike {g g' : Graph Float} (same : g.bare = g'.bare) (w w' : Wiring) (source : NodeId)
    (outcome : Outcome) (p p' : Point Float) :
    (w.preview g source outcome p).isSome = (w'.preview g' source outcome p').isSome := by
  rw [preview, preview, Option.isSome_map, Option.isSome_map]
  rcases Graph.node?_alike same source with ⟨absent, absent'⟩ | ⟨n, n', found, found', -⟩
  · rw [absent, absent']
  · rw [found, found']
    rfl

namespace Hand

/-- What the hand is at, but for points and curves. -/
def bare (h : Hand) : Activity × Bool := (h.activity.bare, h.preview.isSome)

/-- What is seen of a gesture, but for places. -/
def Handled.bare (x : Handled) : Except GestureError Response × (Activity × Bool) × Graph Unit :=
  (x.1.map Response.bare, x.2.1.bare, x.2.2.graph.bare)

theorem Handled.bare_congr {x y : Handled} (answer : x.1.map Response.bare = y.1.map Response.bare)
    (hand : x.2.1.bare = y.2.1.bare) (graph : x.2.2.graph.bare = y.2.2.graph.bare) : x.bare = y.bare := by
  rw [Handled.bare, answer, hand, graph, Handled.bare]

variable {h h' : Hand} {c c' : Canvas}

theorem beginDrag_alike (hand : h.bare = h'.bare) (graph : c.graph.bare = c'.graph.bare) (id : NodeId)
    (p p' : Point Float) : (h.beginDrag c id p).bare = (h'.beginDrag c' id p').bare := by
  rw [beginDrag, beginDrag]
  have preview : h.preview.isSome = h'.preview.isSome := (Prod.mk.inj hand).2
  rcases Graph.node?_alike graph id with ⟨absent, absent'⟩ | ⟨n, n', found, found', -⟩
  · rw [absent, absent']
    exact Handled.bare_congr rfl hand graph
  · rw [found, found']
    exact Handled.bare_congr rfl (congrArg (Activity.dragging id .origin .origin, ·) preview) graph

theorem beginConnection_alike (hand : h.bare = h'.bare) (graph : c.graph.bare = c'.graph.bare) (id : NodeId)
    (port : Port) : (h.beginConnection c id port).bare = (h'.beginConnection c' id port).bare := by
  rw [beginConnection, beginConnection, Graph.containsNode_alike graph]
  split
  · exact Handled.bare_congr rfl hand graph
  · split
    · exact Handled.bare_congr rfl rfl graph
    · exact Handled.bare_congr rfl hand graph

theorem drag_alike (hand : h.bare = h'.bare) (graph : c.graph.bare = c'.graph.bare) (id : NodeId)
    (a o p a' o' p' : Point Float) : (h.drag c id a o p).bare = (h'.drag c' id a' o' p').bare := by
  rw [drag, drag]
  generalize o + (p - a).scale (1 / c.viewport.zoom) = q
  generalize o' + (p' - a').scale (1 / c'.viewport.zoom) = q'
  obtain ⟨answer, after⟩ := Graph.moveNode_alike graph id q q'
  rcases step_cases answer after with
    ⟨e, next, next', moved, moved', after⟩ | ⟨p, p', next, next', moved, moved', -, after⟩ <;> rw [moved, moved']
  · exact Handled.bare_congr rfl rfl after
  · exact Handled.bare_congr rfl hand after

theorem isDropTarget_alike (hand : h.bare = h'.bare) {g g' : Graph Float} (graph : g.bare = g'.bare) (id : NodeId) :
    h.isDropTarget g id = h'.isDropTarget g' id := by
  have port : (g.node? id).any (·.hasPort .input) = (g'.node? id).any (·.hasPort .input) := by
    rcases Graph.node?_alike graph id with ⟨absent, absent'⟩ | ⟨n, n', found, found', kind⟩
    · rw [absent, absent']
    · rw [found, found']
      simp [Node.hasPort, Node.isStart, kind]
  have bare (h : Hand) : h.isDropTarget g id = Hand.isDropTarget ⟨h.activity.bare, none⟩ g id := by
    rw [isDropTarget, isDropTarget]
    cases h.activity <;> rfl
  have activity : h.activity.bare = h'.activity.bare := (Prod.mk.inj hand).1
  rw [bare h, activity, ← bare h', isDropTarget, isDropTarget, port]

theorem connect_alike (hand : h.bare = h'.bare) (graph : c.graph.bare = c'.graph.bare) (source : NodeId)
    (outcome : Outcome) (onto : Option NodeId) :
    (h.connect c source outcome onto).bare = (h'.connect c' source outcome onto).bare := by
  have target : h.target c.graph onto = h'.target c'.graph onto := by
    rw [target, target]
    congr 1
    funext id
    rw [Graph.containsNode_alike graph, isDropTarget_alike hand graph]
  rw [connect, connect, target]
  split
  · exact Handled.bare_congr rfl rfl graph
  · next target _ =>
    obtain ⟨answer, after⟩ := Graph.createEdge_alike graph source target outcome
    obtain ⟨r, next, next', made, made', after⟩ := exists_step answer after
    rw [made, made']
    cases r with
    | error _ | ok _ => exact Handled.bare_congr rfl rfl after

/-- **Where the pointer is makes no difference to what a gesture does**, but for where it does it. -/
theorem handle_alike (hand : h.bare = h'.bare) (graph : c.graph.bare = c'.graph.bare) (gesture : Gesture) :
    (h.handle c gesture).bare = (h'.handle c' gesture.bare).bare := by
  obtain ⟨same, drawn⟩ := Prod.mk.inj hand
  rcases h with ⟨activity, preview⟩
  rcases h' with ⟨activity', preview'⟩
  cases activity <;> cases activity' <;> cases same
  case idle.idle.refl =>
    cases gesture with
    | beginDrag id point => exact beginDrag_alike hand graph id point .origin
    | beginPan point => exact Handled.bare_congr rfl (congrArg (Activity.panning .origin, ·) drawn) graph
    | beginConnection id port => exact beginConnection_alike hand graph id port
    | move _ | release _ => exact Handled.bare_congr rfl hand graph
    | cancel => exact Handled.bare_congr rfl rfl graph
  case dragging.dragging.refl id anchor origin anchor' origin' =>
    cases gesture with
    | beginDrag _ _ | beginPan _ | beginConnection _ _ => exact Handled.bare_congr rfl hand graph
    | move point => exact drag_alike hand graph id anchor origin point anchor' origin' .origin
    | release _ | cancel => exact Handled.bare_congr rfl rfl graph
  case panning.panning.refl =>
    cases gesture with
    | beginDrag _ _ | beginPan _ | beginConnection _ _ | move _ => exact Handled.bare_congr rfl hand graph
    | release _ | cancel => exact Handled.bare_congr rfl rfl graph
  case connecting.connecting.refl source outcome =>
    cases gesture with
    | beginDrag _ _ | beginPan _ | beginConnection _ _ => exact Handled.bare_congr rfl hand graph
    | move point =>
      have drawn := Wiring.isSome_preview_alike graph c.wiring c'.wiring source outcome (c.viewport.toLogical point)
        (c'.viewport.toLogical .origin)
      exact Handled.bare_congr rfl (congrArg (Activity.connecting source outcome, ·) drawn) graph
    | release onto => exact connect_alike hand graph source outcome onto
    | cancel => exact Handled.bare_congr rfl rfl graph

end Hand

end Workflow
