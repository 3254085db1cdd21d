import Mathlib.Data.List.Basic
import Workflow.Proofs.Changes
import Workflow.Validation
/-!
# Graphs without places

`Graph.bare` forgets where the nodes of a graph lie, by giving them coordinates that tell nothing.  Whatever is asked
of a graph can be asked of the bare one, and forgetting the places before or after makes no difference to what becomes
of the graph.  What a graph answers, steps and issues among it, is what the bare graph answers, but for places.
-/
namespace Workflow

open Json (Object Value)

/-- Coordinates that tell nothing. -/
instance : Scalar Unit where
  zero := ()
  one := ()
  add _ _ := ()
  sub _ _ := ()
  mul _ _ := ()
  div _ _ := ()
  lt _ _ := False
  le _ _ := True
  ofScientific _ _ _ := ()
  ofNat _ := ()
  decidableLT _ _ := isFalse id
  decidableLE _ _ := isTrue trivial

def nowhere : Point Unit := ⟨(), ()⟩

section

variable {α β : Type}

def Node.placedAt (p : Point β) (n : Node α) : Node β := ⟨n.id, n.kind, p, n.data⟩

def Graph.Removed.placedAt (p : Point β) (r : Removed α) : Removed β := ⟨r.node.placedAt p, r.edges⟩

def Layout.Report.placedAt (p : Point β) (r : Report α) : Report β :=
  ⟨r.placed.map fun e => (e.1, p), r.columns, r.untouched⟩

theorem Layout.Report.placedAt_placedAt {γ : Type} (r : Report α) (p : Point β) (q : Point γ) :
    (r.placedAt p).placedAt q = r.placedAt q := by
  simp [placedAt, Function.comp_def]

end

namespace Graph

variable {α : Type}

def bareNodes (nodes : Std.ExtTreeMap NodeId (Node α)) : Std.ExtTreeMap NodeId (Node Unit) :=
  nodes.map fun _ n => n.placedAt nowhere

/-- A graph without the places of its nodes. -/
def bare (g : Graph α) : Graph Unit :=
  ⟨g.palette, bareNodes g.nodes, g.order, g.edges, g.edgeSet, g.outgoing, g.startId, g.counter⟩

/-! ## Queries -/

section

variable (g : Graph α)

theorem node?_bare (id : NodeId) : g.bare.node? id = (g.node? id).map (·.placedAt nowhere) :=
  Std.ExtTreeMap.getElem?_map

theorem containsNode_bare (id : NodeId) : g.bare.containsNode id = g.containsNode id :=
  Std.ExtTreeMap.contains_map

theorem nodeList_bare : g.bare.nodeList = g.nodeList.map (·.placedAt nowhere) := by
  rw [nodeList, nodeList, List.map_filterMap]
  exact List.filterMap_congr fun id _ => g.node?_bare id

theorem map_id_nodeList_bare : g.bare.nodeList.map (·.id) = g.nodeList.map (·.id) := by
  rw [nodeList_bare, List.map_map]
  rfl

theorem levels_bare (start : NodeId) : g.bare.levels start = g.levels start := by
  rw [levels, containsNode_bare]
  rfl

theorem steps_bare : g.bare.steps = g.steps := by
  rw [steps, steps, List.filterMap_filterMap, List.filterMap_filterMap]
  refine List.filterMap_congr fun id _ => ?_
  rw [node?_bare]
  cases g.node? id <;> rfl

end

/-! ## Changes -/

theorem bareNodes_insert (nodes : Std.ExtTreeMap NodeId (Node α)) (id : NodeId) (n : Node α) :
    bareNodes (nodes.insert id n) = (bareNodes nodes).insert id (n.placedAt nowhere) := by
  refine Std.ExtTreeMap.ext_getElem? fun k => ?_
  simp only [bareNodes, Std.ExtTreeMap.getElem?_map, getElem?_insert_node]
  split <;> rfl

theorem bareNodes_erase (nodes : Std.ExtTreeMap NodeId (Node α)) (id : NodeId) :
    bareNodes (nodes.erase id) = (bareNodes nodes).erase id := by
  refine Std.ExtTreeMap.ext_getElem? fun k => ?_
  simp only [bareNodes, Std.ExtTreeMap.getElem?_map, getElem?_erase_node]
  split <;> rfl

theorem bare_empty (palette : Palette) : (empty palette : Graph α).bare = empty palette := by
  simp [bare, bareNodes, empty]

theorem bare_place (g : Graph α) (n : Node α) : (g.place n).bare = g.bare.place (n.placedAt nowhere) := by
  simp only [bare, place, bareNodes_insert]
  rfl

theorem bare_amend (g : Graph α) (id : NodeId) (n : Node α) :
    { g with nodes := g.nodes.insert id n }.bare =
      { g.bare with nodes := g.bare.nodes.insert id (n.placedAt nowhere) } := by
  simp only [bare, bareNodes_insert]

theorem bare_cut (doomed : List Edge) (g : Graph α) : (g.cut doomed).bare = g.bare.cut doomed := by
  induction doomed generalizing g with
  | nil => rfl
  | cons e doomed ih => exact ih (g.dropEdge e)

theorem nextId_bare (nodes : Std.ExtTreeMap NodeId (Node α)) (counter : Nat) :
    nextId (bareNodes nodes) counter = nextId nodes counter := by
  have contains (id : NodeId) : (bareNodes nodes).contains id = nodes.contains id := Std.ExtTreeMap.contains_map
  fun_induction nextId nodes counter with
  | case1 counter below id taken ih =>
    rw [nextId, dif_pos below]
    simp only [contains]
    rw [if_pos taken, ih]
  | case2 counter below id free =>
    rw [nextId, dif_pos below]
    simp only [contains]
    rw [if_neg free]
  | case3 counter full => rw [nextId, dif_neg full]

theorem deleteNode_bare (g : Graph α) (id : NodeId) :
    g.bare.deleteNode id = ((g.deleteNode id).1.map (·.placedAt nowhere), (g.deleteNode id).2.bare) := by
  by_cases start : g.isStart id = true
  · have start' : g.bare.isStart id = true := start
    rw [deleteNode, deleteNode, if_pos start, if_pos start']
    rfl
  · have start' : ¬ g.bare.isStart id = true := start
    rw [deleteNode, deleteNode, if_neg start, if_neg start', node?_bare]
    cases g.node? id with
    | none => rfl
    | some n =>
      have cut : (g.edgesTouching id).foldl dropEdge g.bare = ((g.edgesTouching id).foldl dropEdge g).bare :=
        (g.bare_cut (g.edgesTouching id)).symm
      have doomed : g.bare.edgesTouching id = g.edgesTouching id := rfl
      simp only [Option.map_some, doomed, cut]
      simp only [bare, bareNodes_erase]
      rfl

theorem updateField_bare (g : Graph α) (id : NodeId) (name : String) (v : Value) :
    g.bare.updateField id name v = ((g.updateField id name v).1, (g.updateField id name v).2.bare) := by
  rw [updateField, updateField, node?_bare]
  cases g.node? id with
  | none => rfl
  | some n =>
    simp only [Option.map_some, bare_amend]
    rfl

theorem replaceData_bare (g : Graph α) (id : NodeId) (data : Object) :
    g.bare.replaceData id data = ((g.replaceData id data).1, (g.replaceData id data).2.bare) := by
  rw [replaceData, replaceData, node?_bare]
  cases g.node? id with
  | none => rfl
  | some n =>
    simp only [Option.map_some, bare_amend]
    rfl

theorem createEdge_bare (g : Graph α) (source target : NodeId) (outcome : Outcome) :
    g.bare.createEdge source target outcome =
      ((g.createEdge source target outcome).1, (g.createEdge source target outcome).2.bare) := by
  have edge (e : Edge) : g.bare.containsEdge e = g.containsEdge e := rfl
  have cycle : g.bare.wouldCycle source target = g.wouldCycle source target := rfl
  simp only [createEdge, containsNode_bare, edge, cycle]
  repeat' split
  all_goals rfl

theorem deleteEdge_bare (g : Graph α) (e : Edge) :
    g.bare.deleteEdge e = ((g.deleteEdge e).1, (g.deleteEdge e).2.bare) := by
  have edge : g.bare.containsEdge e = g.containsEdge e := rfl
  rw [deleteEdge, deleteEdge, edge]
  split <;> rfl

variable [Scalar α]

theorem createNode_bare (g : Graph α) (kind : Kind) (position : Point α) :
    g.bare.createNode kind nowhere = ((g.createNode kind position).1, (g.createNode kind position).2.bare) := by
  have conflict : g.bare.startConflict kind = g.startConflict kind := rfl
  have allocate : g.bare.allocate = (g.allocate.1, g.allocate.2.bare) := by
    have next : nextId g.bare.nodes g.bare.counter = nextId g.nodes g.counter := nextId_bare g.nodes g.counter
    rw [Graph.allocate, Graph.allocate, next]
    rfl
  rw [createNode, createNode, conflict, allocate]
  cases g.startConflict kind with
  | some r => rfl
  | none =>
    rcases g.allocate with ⟨_ | id, next⟩
    · rfl
    · simp only [bare_place]
      rfl

theorem moveNode_bare (g : Graph α) (id : NodeId) (position : Point α) :
    g.bare.moveNode id nowhere =
      ((g.moveNode id position).1.map fun _ => nowhere, (g.moveNode id position).2.bare) := by
  rw [moveNode, moveNode, node?_bare]
  cases g.node? id with
  | none => rfl
  | some n =>
    simp only [Option.map_some, bare_amend]
    rfl

theorem bare_withStart (palette : Palette) (position : Point α) :
    (withStart palette position).bare = withStart palette nowhere := by
  have start : ({ (empty palette : Graph α) with counter := 1 }).bare = { empty palette with counter := 1 } := by
    rw [← bare_empty (α := α)]
    rfl
  rw [withStart, withStart, bare_place, start]
  rfl

/-! ## Layouts -/

def bareMoves (acc : List (NodeId × Point α) × Graph α) : List (NodeId × Point Unit) × Graph Unit :=
  (acc.1.map fun e => (e.1, nowhere), acc.2.bare)

theorem settle_bare (p : PlacementSettings α) (q : PlacementSettings Unit) (acc : List (NodeId × Point α) × Graph α)
    (n : NodeId × Nat × Nat) : Layout.settle q (bareMoves acc) n = bareMoves (Layout.settle p acc n) := by
  have cell : Layout.cell q n.2.1 n.2.2 = nowhere := rfl
  rw [Layout.settle, Layout.settle, cell, bareMoves, moveNode_bare]
  rcases acc.2.moveNode n.1 (Layout.cell p n.2.1 n.2.2) with ⟨_ | position, next⟩
  · rfl
  · simp [bareMoves, Except.map]

theorem arrange_bare (g : Graph α) (p : PlacementSettings α) (q : PlacementSettings Unit) :
    Layout.arrange g.bare q = ((Layout.arrange g p).1.placedAt nowhere, (Layout.arrange g p).2.bare) := by
  have fold (cells : List (NodeId × Nat × Nat)) (acc : List (NodeId × Point α) × Graph α) :
      cells.foldl (Layout.settle q) (bareMoves acc) = bareMoves (cells.foldl (Layout.settle p) acc) := by
    induction cells generalizing acc with
    | nil => rfl
    | cons n cells ih => rw [List.foldl_cons, List.foldl_cons, settle_bare p, ih]
  have start : g.bare.startId = g.startId := rfl
  rw [Layout.arrange, Layout.arrange, start]
  cases g.startId with
  | none =>
    simp only [map_id_nodeList_bare]
    rfl
  | some id =>
    have whole := fold (Layout.grid (g.levels id)) ([], g)
    rw [show bareMoves (([], g) : List (NodeId × Point α) × Graph α) = ([], g.bare) from rfl] at whole
    simp only [levels_bare, whole]
    rcases (Layout.grid (g.levels id)).foldl (Layout.settle p) ([], g) with ⟨placed, moved⟩
    have names : (placed.map fun e => (e.1, nowhere)).map (·.1) = placed.map (·.1) := by
      rw [List.map_map]
      rfl
    simp only [bareMoves, map_id_nodeList_bare, names, Layout.Report.placedAt]

end Graph

/-! ## Issues -/

namespace Validation

variable {α : Type}

theorem namesFrom_bare (g : Graph α) (kind field : String) : namesFrom g.bare kind field = namesFrom g kind field := by
  rw [namesFrom, namesFrom, Graph.nodeList_bare, List.filter_map, List.filterMap_map]
  rfl

theorem lookUp_bare (g : Graph α) (r : Palette.Reference) (produced : Produced) :
    lookUp g.bare r produced = lookUp g r produced := by
  rw [lookUp, lookUp, namesFrom_bare]

theorem checkReferences_bare (g : Graph α) (n : Node α) (fields : List (Palette.Field × Palette.Reference))
    (produced : Produced) :
    checkReferences g.bare (n.placedAt nowhere) fields produced = checkReferences g n fields produced := by
  have one (f : Palette.Field) (r : Palette.Reference) (produced : Produced) :
      checkReference g.bare (n.placedAt nowhere) produced f r = checkReference g n produced f r := by
    have text : (n.placedAt nowhere).textField f.name = n.textField f.name := rfl
    rw [checkReference, checkReference, text, lookUp_bare]
    rfl
  induction fields generalizing produced with
  | nil => rfl
  | cons f fields ih =>
    rw [checkReferences, checkReferences, one]
    simp only [ih]

theorem checkNodes_bare (g : Graph α) (nodes : List (Node α)) (produced : Produced) :
    checkNodes g.bare (nodes.map (·.placedAt nowhere)) produced = checkNodes g nodes produced := by
  have one (n : Node α) (produced : Produced) :
      checkNode g.bare (n.placedAt nowhere) produced = checkNode g n produced := by
    have known : g.bare.palette.get? (n.placedAt nowhere).kind = g.palette.get? n.kind := rfl
    rw [checkNode, checkNode, known]
    cases g.palette.get? n.kind with
    | none => rfl
    | some e =>
      simp only [checkReferences_bare]
      rfl
  induction nodes generalizing produced with
  | nil => rfl
  | cons n nodes ih =>
    rw [List.map_cons, checkNodes, checkNodes, one]
    simp only [ih]

end Validation

/-- **The issues of a graph do not depend on the places of its nodes.** -/
theorem Graph.validate_bare {α : Type} (g : Graph α) : g.bare.validate = g.validate := by
  have start : g.bare.startId.filter g.bare.containsNode = g.startId.filter g.containsNode := by
    have contains : g.bare.containsNode = g.containsNode := funext g.containsNode_bare
    rw [contains]
    rfl
  have reachable (id : NodeId) : g.bare.reachable id = g.reachable id := by
    rw [Graph.reachable, Graph.reachable, g.levels_bare]
  have fields : Validation.checkNodes g.bare g.bare.nodeList ∅ = Validation.checkNodes g g.nodeList ∅ := by
    rw [g.nodeList_bare, Validation.checkNodes_bare]
  simp only [Graph.validate, start, reachable, map_id_nodeList_bare, fields]

end Workflow
