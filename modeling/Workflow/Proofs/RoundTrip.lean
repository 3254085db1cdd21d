import Workflow.Proofs.Codec
import Workflow.Proofs.Runs
/-!
# Importing what was exported

The document of a sound graph is imported without loss.  Record by record the graph is rebuilt, and the graph rebuilt
so far is a part of the one that was exported (`Import.Rebuilds`); being a part of a sound graph is why no record is
refused: its identifiers are new, a second start node or an edge that closes a cycle would be one in the exported
graph too.
-/
namespace Workflow

open Json (Object Value)
open Relation (ReflTransGen TransGen)

namespace Graph

variable {α : Type} [Scalar α] {g : Graph α}

/-! ## Nodes in order -/

theorem Sound.mem_nodeList (h : g.Sound) (n : Node α) : n ∈ g.nodeList ↔ g.node? n.id = some n := by
  rw [nodeList, List.mem_filterMap]
  constructor
  · rintro ⟨id, -, found⟩
    rwa [h.id_of_node id n found]
  · intro found
    exact ⟨n.id, (h.mem_order n.id).2 ((g.mem_nodes_iff n.id).2 ⟨n, found⟩), found⟩

theorem Sound.map_id_filterMap (h : g.Sound) {ids : List NodeId} (present : ∀ id ∈ ids, id ∈ g.nodes) :
    (ids.filterMap g.node?).map (·.id) = ids := by
  induction ids with
  | nil => rfl
  | cons id ids ih =>
    obtain ⟨n, found⟩ := (g.mem_nodes_iff id).1 (present id List.mem_cons_self)
    rw [List.filterMap_cons_some found, List.map_cons, h.id_of_node id n found,
      ih fun other ho => present other (List.mem_cons_of_mem _ ho)]

theorem Sound.map_id_nodeList (h : g.Sound) : g.nodeList.map (·.id) = g.order :=
  h.map_id_filterMap fun id hm => (h.mem_order id).1 hm

end Graph

namespace Import

open Workflow.Graph (Sound)

/-! ## The graph rebuilt so far -/

/-- A graph is rebuilt from some nodes and edges in order, nothing was left out, and its counter is the largest number
of its nodes. -/
structure Rebuilds (nodes : List (Node Float)) (edges : List Edge) (p : Progress) : Prop where
  sound : p.graph.Sound
  order : p.graph.order = nodes.map (·.id)
  node : ∀ n ∈ nodes, p.graph.node? n.id = some n
  edges : p.graph.edges = edges
  counter_ge : ∀ id ∈ p.graph.nodes, ∀ n, id.number? = some n → n ≤ p.graph.counter
  counter_mem : p.graph.counter = 0 ∨ ∃ id ∈ p.graph.nodes, id.number? = some p.graph.counter
  skipped : p.skipped = []

theorem rebuilds_empty (palette : Palette) : Rebuilds [] [] ⟨.empty palette, []⟩ where
  sound := Graph.sound_empty palette
  order := rfl
  node _ hm := (List.not_mem_nil hm).elim
  edges := rfl
  counter_ge id hm := by simp [Graph.empty] at hm
  counter_mem := .inl rfl
  skipped := rfl

section Steps

variable {g : Graph Float} {p : Progress}

theorem Rebuilds.mem_nodes_iff {nodes : List (Node Float)} {edges : List Edge} (h : Rebuilds nodes edges p)
    (id : NodeId) : id ∈ p.graph.nodes ↔ id ∈ nodes.map (·.id) := by
  rw [← h.sound.mem_order, h.order]

theorem node?_of_split (sound : g.Sound) {done rest : List (Node Float)} {n : Node Float}
    (split : g.nodeList = done ++ n :: rest) {k : Node Float} (listed : k ∈ done ++ [n]) : g.node? k.id = some k := by
  rw [← sound.mem_nodeList, split, List.append_cons]
  exact List.mem_append_left _ listed

theorem not_mem_of_split (sound : g.Sound) {done rest : List (Node Float)} {n : Node Float}
    (split : g.nodeList = done ++ n :: rest) : n.id ∉ done.map (·.id) := by
  have nodup := sound.order_nodup
  rw [← sound.map_id_nodeList, split, List.map_append, List.map_cons] at nodup
  intro hm
  exact (List.nodup_append.1 nodup).2.2 n.id hm n.id List.mem_cons_self rfl

/-- A start node that was put back before would be another one of the exported graph. -/
theorem Rebuilds.startConflict_eq_none {done rest : List (Node Float)} {n : Node Float} (h : Rebuilds done [] p)
    (sound : g.Sound) (split : g.nodeList = done ++ n :: rest) : p.graph.startConflict n.kind = none := by
  rw [Graph.startConflict]
  split
  · next start =>
    cases noted : p.graph.startId with
    | none => rfl
    | some id =>
      obtain ⟨k, found, other⟩ := (h.sound.startId_iff id).1 noted
      have present : id ∈ p.graph.nodes := (p.graph.mem_nodes_iff id).2 ⟨k, found⟩
      obtain ⟨m, hm, rfl⟩ := List.mem_map.1 ((h.mem_nodes_iff id).1 present)
      have same : m = k := Option.some.inj ((h.node m hm).symm.trans found)
      have listed := node?_of_split sound split (List.mem_append_left [n] hm)
      have last := node?_of_split sound split (List.mem_append_right done List.mem_cons_self)
      have one : g.startId = some n.id := (sound.startId_iff n.id).2 ⟨n, last, start⟩
      have two : g.startId = some m.id := (sound.startId_iff m.id).2 ⟨m, listed, same ▸ other⟩
      have equal : n.id = m.id := Option.some.inj (one.symm.trans two)
      exact (not_mem_of_split sound split (equal ▸ List.mem_map.2 ⟨m, hm, rfl⟩)).elim
  · rfl

/-- **The next node is put back.** -/
theorem Rebuilds.restore {done rest : List (Node Float)} {n : Node Float} (h : Rebuilds done [] p) (sound : g.Sound)
    (split : g.nodeList = done ++ n :: rest) : ∃ next,
      p.graph.restoreNode n.id n.kind n.position n.data = (.ok (), next) ∧
        Rebuilds (done ++ [n]) [] { p with graph := next } := by
  have distinct := not_mem_of_split sound split
  have fresh : n.id ∉ p.graph.nodes := fun hm => distinct ((h.mem_nodes_iff n.id).1 hm)
  have free := h.startConflict_eq_none sound split
  have found := node?_of_split sound split (List.mem_append_right done List.mem_cons_self)
  have unmoved : n.position.clamp = n.position := by
    obtain ⟨q, e⟩ := sound.clamped n.id n found
    rw [e, Point.clamp_clamp]
  have accepted := p.graph.restoreNode_of fresh free n.position n.data
  rw [unmoved] at accepted
  refine ⟨_, accepted, ?_⟩
  have still := h.sound.restoreNode n.id n.kind n.position n.data
  rw [accepted] at still
  refine ⟨still, ?_, fun k hk => ?_, h.edges, fun id hm m numbered => ?_, ?_, h.skipped⟩
  · show p.graph.order ++ [n.id] = _
    rw [h.order, List.map_append]
    rfl
  · rw [Graph.node?_place]
    rcases List.mem_append.1 hk with hk | hk
    · have other : n.id ≠ k.id := fun same => distinct (same ▸ List.mem_map.2 ⟨k, hk, rfl⟩)
      rw [if_neg other]
      exact h.node k hk
    · rw [List.mem_singleton.1 hk, if_pos rfl]
  · show m ≤ max p.graph.counter (n.id.number?.getD 0)
    rcases (Graph.mem_insert_node ..).1 hm with same | hm
    · have same : n.id = id := same
      rw [same, numbered]
      exact Nat.le_max_right _ _
    · exact Nat.le_trans (h.counter_ge id hm m numbered) (Nat.le_max_left _ _)
  · show max p.graph.counter (n.id.number?.getD 0) = 0 ∨
      ∃ id ∈ p.graph.nodes.insert n.id n, id.number? = some (max p.graph.counter (n.id.number?.getD 0))
    rcases Nat.le_total p.graph.counter (n.id.number?.getD 0) with more | less
    · rw [Nat.max_eq_right more]
      cases numbered : n.id.number? with
      | none => exact .inl rfl
      | some m => exact .inr ⟨n.id, (Graph.mem_insert_node ..).2 (.inl rfl), numbered⟩
    · rw [Nat.max_eq_left less]
      rcases h.counter_mem with zero | ⟨id, hm, numbered⟩
      · exact .inl zero
      · exact .inr ⟨id, (Graph.mem_insert_node ..).2 (.inr hm), numbered⟩

/-- A path back from the target would be one in the exported graph, and the edge would close it there. -/
theorem Rebuilds.wouldCycle_eq_false {done rest : List Edge} {e : Edge} (h : Rebuilds g.nodeList done p)
    (sound : g.Sound) (split : g.edges = done ++ e :: rest) : p.graph.wouldCycle e.source e.target = false := by
  rw [Bool.eq_false_iff, Ne, h.sound.wouldCycle_iff]
  intro path
  have within : ReflTransGen g.Next e.target e.source := by
    refine ReflTransGen.mono ?_ _ _ path
    rintro u v ⟨k, hk, ends⟩
    rw [h.edges] at hk
    exact ⟨k, split ▸ List.mem_append_left _ hk, ends⟩
  have listed : e ∈ g.edges := split ▸ List.mem_append_right _ List.mem_cons_self
  exact sound.acyclic e.source (TransGen.head' ⟨e, listed, rfl, rfl⟩ within)

/-- **The next edge is put back.** -/
theorem Rebuilds.connect {done rest : List Edge} {e : Edge} (h : Rebuilds g.nodeList done p) (sound : g.Sound)
    (split : g.edges = done ++ e :: rest) : ∃ next,
      p.graph.createEdge e.source e.target e.outcome = (.ok e, next) ∧
        Rebuilds g.nodeList (done ++ [e]) { p with graph := next } := by
  have listed : e ∈ g.edges := split ▸ List.mem_append_right _ List.mem_cons_self
  have ends : ∀ id ∈ g.nodes, id ∈ p.graph.nodes := fun id hm => by
    rwa [h.mem_nodes_iff, sound.map_id_nodeList, sound.mem_order]
  obtain ⟨source, target⟩ := sound.ends e listed
  have new : e ∉ p.graph.edgeSet := by
    have nodup := sound.edges_nodup
    rw [split] at nodup
    rw [h.sound.mem_edgeSet, h.edges]
    exact fun hm => (List.nodup_append.1 nodup).2.2 e hm e List.mem_cons_self rfl
  have accepted := p.graph.createEdge_of (sound.no_loop e listed) new (ends _ source) (ends _ target)
    (h.wouldCycle_eq_false sound split)
  refine ⟨_, accepted, ?_⟩
  have still := h.sound.createEdge e.source e.target e.outcome
  rw [accepted] at still
  refine ⟨still, h.order, h.node, ?_, h.counter_ge, h.counter_mem, h.skipped⟩
  show p.graph.edges ++ [e] = _
  rw [h.edges]

/-- The record of a node; whether it says that it is a start node is not read back. -/
def recordOf (g : Graph Float) (n : Node Float) : NodeRecord := ⟨n.id, n.kind, n.position, n.data, g.isStart n.id⟩

theorem rebuilds_nodes (sound : g.Sound) (named : ∀ n ∈ g.nodeList, n.kind.Named)
    (finite : ∀ n ∈ g.nodeList, n.position.Finite) (rest : List (Node Float)) {done : List (Node Float)} (index : Nat)
    (h : Rebuilds done [] p) (split : g.nodeList = done ++ rest) :
    Rebuilds g.nodeList [] (((rest.map fun n => (recordOf g n).write sorted).zipIdx index).foldl node p) := by
  induction rest generalizing done index p with
  | nil =>
    rw [split, List.append_nil]
    exact h
  | cons n rest ih =>
    have listed : n ∈ g.nodeList := split ▸ List.mem_append_right _ List.mem_cons_self
    have read : readNodeRecord ((recordOf g n).write sorted) = .ok (recordOf g n) :=
      readNodeRecord_write (named n listed) (finite n listed)
    obtain ⟨next, accepted, rebuilt⟩ := h.restore sound split
    have granted : p.graph.restoreNode (recordOf g n).id (recordOf g n).kind (recordOf g n).position
        (recordOf g n).data = (.ok (), next) := accepted
    have step : node p ((recordOf g n).write sorted, index) = { p with graph := next } := by
      simp only [node, read, granted]
    rw [List.map_cons, List.zipIdx_cons, List.foldl_cons, step]
    exact ih (index + 1) rebuilt (by rw [split, List.append_cons])

theorem rebuilds_edges (sound : g.Sound) (rest : List Edge) {done : List Edge} (index : Nat)
    (h : Rebuilds g.nodeList done p) (split : g.edges = done ++ rest) :
    Rebuilds g.nodeList g.edges (((rest.map (·.write sorted)).zipIdx index).foldl connection p) := by
  induction rest generalizing done index p with
  | nil =>
    rw [split, List.append_nil]
    exact h
  | cons e rest ih =>
    obtain ⟨next, accepted, rebuilt⟩ := h.connect sound split
    have step : connection p (e.write sorted, index) = { p with graph := next } := by
      simp only [connection, readEdge_write, accepted]
    rw [List.map_cons, List.zipIdx_cons, List.foldl_cons, step]
    exact ih (index + 1) rebuilt (by rw [split, List.append_cons])

/-- **What is rebuilt of all nodes and edges is the graph**, but for the counter. -/
theorem Rebuilds.eq (h : Rebuilds g.nodeList g.edges p) (sound : g.Sound) :
    p.graph.order = g.order ∧ p.graph.nodes = g.nodes ∧ p.graph.startId = g.startId := by
  have order : p.graph.order = g.order := h.order.trans sound.map_id_nodeList
  have node : ∀ id, p.graph.node? id = g.node? id := fun id => by
    cases found : g.node? id with
    | none =>
      refine p.graph.node?_eq_none fun hm => ?_
      rw [← h.sound.mem_order, order, sound.mem_order, g.mem_nodes_iff] at hm
      obtain ⟨n, present⟩ := hm
      rw [found] at present
      cases present
    | some n =>
      have same := sound.id_of_node id n found
      subst same
      exact h.node n ((sound.mem_nodeList n).2 found)
  refine ⟨order, Std.ExtTreeMap.ext_getElem? node, Option.ext fun id => ?_⟩
  show p.graph.startId = some id ↔ g.startId = some id
  rw [h.sound.startId_iff, sound.startId_iff, node]

end Steps

end Import

/-! ## Documents -/

theorem member?_toValue (d : Document) :
    d.toValue.member? "workflow_type" = some (.string d.format) ∧
    d.toValue.member? "nodes" = some (.array (d.nodes.map (·.write sorted))) ∧
    d.toValue.member? "connections" = some (.array (d.connections.map (·.write sorted))) ∧
    d.toValue.member? "metadata" = d.metadata.map (·.write sorted) := by
  simp only [Document.toValue, Document.write, member?_sorted]
  cases d.metadata <;> simp [optionalMember, Object.lookup_entry]

theorem member?_version (m : Metadata) : (m.write sorted).member? "version" = m.version.map .string := by
  rw [Metadata.write, member?_sorted]
  cases m.created <;> cases m.version <;> cases m.mode <;> simp [optionalMember, Object.lookup_entry]

theorem isVisual_toValue {d : Document} (format : d.format = Document.visualFormat) :
    Import.isVisual d.toValue = true := by
  obtain ⟨tag, nodes, -⟩ := member?_toValue d
  rw [Import.isVisual, Import.formatTag, tag, nodes, format]
  rfl

/-- **A sound graph comes back from its document**, and nothing is left out. -/
theorem rebuilds_ofGraph {g : Graph Float} (sound : g.Sound) (named : ∀ n ∈ g.nodeList, n.kind.Named)
    (finite : ∀ n ∈ g.nodeList, n.position.Finite) (mode : Mode) (created : Option Timestamp) (palette : Palette)
    (placement : PlacementSettings Float) :
    ∃ p : Import.Progress,
      Import.ofValue palette placement (Document.ofGraph g mode created).toValue =
          .ok ⟨p.graph, .visual (some Document.visualVersion), p.skipped⟩ ∧
        Import.Rebuilds g.nodeList g.edges p := by
  let d := Document.ofGraph g mode created
  obtain ⟨-, nodes, connections, metadata⟩ := member?_toValue d
  have records : d.nodes.map (·.write sorted) = g.nodeList.map fun n => (Import.recordOf g n).write sorted :=
    List.map_map
  have rebuilt := Import.rebuilds_edges sound g.edges 0
    (Import.rebuilds_nodes sound named finite g.nodeList 0 (Import.rebuilds_empty palette) rfl) rfl
  refine ⟨_, ?_, rebuilt⟩
  have version : Import.versionOf d.toValue = some Document.visualVersion := by
    rw [Import.versionOf, metadata]
    show ((Metadata.write sorted _).member? "version").bind (·.string?) = _
    rw [member?_version]
    rfl
  have visual : Import.ofValue palette placement d.toValue = .ok (Import.visual palette d.toValue) :=
    if_pos (isVisual_toValue rfl)
  rw [visual, Import.visual, nodes, connections, version, records]
  rfl

/-- **Import undoes export.**  The document of a reachable graph with finite positions, of kinds that texts name, is
imported without loss: the same nodes, edges and start node in the same order, numbering going on above the largest
number among the nodes.  Exported again it makes the same document. -/
theorem import_undoes_export (g : Graph Float) (reached : g.Reachable) (named : ∀ n ∈ g.nodeList, n.kind.Named)
    (finite : ∀ n ∈ g.nodeList, n.position.Finite) (mode : Mode) (created : Option Timestamp)
    (palette : Palette) (placement : PlacementSettings Float) :
    ∃ i, Import.ofValue palette placement (Document.ofGraph g mode created).toValue = .ok i ∧
      i.skipped = [] ∧ i.source = .visual (some "2.0") ∧
      i.graph.nodeList = g.nodeList ∧ i.graph.nodes = g.nodes ∧ i.graph.edges = g.edges ∧
      i.graph.startId = g.startId ∧
      (∀ id ∈ g.nodes, ∀ n, id.number? = some n → n ≤ i.graph.counter) ∧
      (i.graph.counter = 0 ∨ ∃ id ∈ g.nodes, id.number? = some i.graph.counter) ∧
      ∀ mode created, Document.ofGraph i.graph mode created = Document.ofGraph g mode created := by
  have sound := reached.sound
  obtain ⟨p, imported, rebuilt⟩ := rebuilds_ofGraph sound named finite mode created palette placement
  obtain ⟨order, nodes, startId⟩ := rebuilt.eq sound
  have list : p.graph.nodeList = g.nodeList := by
    have same : p.graph.node? = g.node? := by
      funext id
      rw [Graph.node?, nodes, Graph.node?]
    rw [Graph.nodeList, order, same, Graph.nodeList]
  refine ⟨_, imported, rebuilt.skipped, rfl, list, nodes, rebuilt.edges, startId, ?_, ?_, fun mode created => ?_⟩
  · rw [← nodes]
    exact rebuilt.counter_ge
  · rw [← nodes]
    exact rebuilt.counter_mem
  · have start : p.graph.isStart = g.isStart := by
      funext id
      rw [Graph.isStart, startId, Graph.isStart]
    rw [Document.ofGraph, Document.ofGraph, list, start, rebuilt.edges, startId]

theorem import_undoes_export_of_connected_nodes : ∃ g : Graph Float, g.Reachable ∧
    g.edges = [⟨.numbered 1, .numbered 2, .success⟩] ∧ (∀ n ∈ g.nodeList, n.kind.Named) ∧
    (∀ n ∈ g.nodeList, n.position.Finite) ∧
    ∃ i, Import.ofValue ⟨∅⟩ .standard (Document.ofGraph g .create none).toValue = .ok i ∧ i.graph.edges = g.edges := by
  let g : Graph Float := (Graph.withStart ⟨∅⟩ ⟨5, -7⟩).after [.createNode (.action "click") ⟨1.5, 2⟩,
    .createEdge (.numbered 1) (.numbered 2) .success]
  have reached : g.Reachable := (Graph.Reachable.withStart ⟨∅⟩ ⟨5, -7⟩).after _
  have named : ∀ n ∈ g.nodeList, n.kind.Named := by decide +kernel
  have finite : ∀ n ∈ g.nodeList, n.position.Finite := by decide +kernel
  obtain ⟨i, imported, -, -, -, -, edges, -⟩ := import_undoes_export g reached named finite .create none ⟨∅⟩ .standard
  exact ⟨g, reached, by decide +kernel, named, finite, i, imported, edges⟩

end Workflow
