import Workflow.Layout
import Workflow.Proofs.Search
/-!
# Sound stores

`Graph.Sound` is what a store promises of its fields: the lists and the tables beside them tell the same, every edge
connects two different nodes of the graph, edges close no cycle, the start node is noted exactly if there is one, and
every node is where clamping put it, so none lies at a negative place (`Sound.nonNegative`).

Every change is made of a few steps (`place`, `addEdge`, `dropEdge`, a node amended in place, a node without edges
taken out), each under a condition that the change checks first.  A step keeps a sound store sound under its condition;
a change therefore does, whatever it is asked.
-/
namespace Workflow.Graph

open Relation (ReflTransGen TransGen)

variable {α : Type}

def Next (g : Graph α) (u v : NodeId) : Prop := ∃ e ∈ g.edges, e.source = u ∧ e.target = v

/-- **What a store promises of its fields.** -/
structure Sound [Scalar α] (g : Graph α) : Prop where
  order_nodup : g.order.Nodup
  mem_order : ∀ id, id ∈ g.order ↔ id ∈ g.nodes
  id_of_node : ∀ id n, g.node? id = some n → n.id = id
  edges_nodup : g.edges.Nodup
  mem_edgeSet : ∀ e, e ∈ g.edgeSet ↔ e ∈ g.edges
  successors_eq : ∀ id, g.successors id = g.edges.filter (·.source = id)
  ends : ∀ e ∈ g.edges, e.source ∈ g.nodes ∧ e.target ∈ g.nodes
  no_loop : ∀ e ∈ g.edges, e.source ≠ e.target
  acyclic : ∀ id, ¬ TransGen g.Next id id
  startId_iff : ∀ id, g.startId = some id ↔ ∃ n, g.node? id = some n ∧ n.isStart = true
  clamped : ∀ id n, g.node? id = some n → ∃ p : Point α, n.position = p.clamp

/-- **No node lies at a negative place**: each of its coordinates is zero or positive. -/
theorem Sound.nonNegative [Scalar α] {g : Graph α} (h : g.Sound) {id : NodeId} {n : Node α}
    (found : g.node? id = some n) :
    (n.position.x = 0 ∨ 0 < n.position.x) ∧ (n.position.y = 0 ∨ 0 < n.position.y) := by
  obtain ⟨p, clamped⟩ := h.clamped id n found
  rw [clamped]
  exact ⟨Scalar.nonNegative_cases p.x, Scalar.nonNegative_cases p.y⟩

/-! ## The table of edges -/

/-- The table of the edges that leave each node tells the same as the list of edges. -/
def Tabulated (g : Graph α) : Prop := ∀ id, g.successors id = g.edges.filter (·.source = id)

theorem Sound.tabulated [Scalar α] {g : Graph α} (h : g.Sound) : g.Tabulated := h.successors_eq

/-- A walk over the table goes along the edges. -/
theorem Tabulated.next_eq {g : Graph α} (h : g.Tabulated) : g.outgoing.Next = g.Next := by
  funext u v
  have row : ∀ e, e ∈ g.outgoing.successors u ↔ e ∈ g.edges ∧ e.source = u := fun e => by
    have row : g.outgoing.successors u = g.edges.filter (·.source = u) := h u
    rw [row, List.mem_filter, decide_eq_true_eq]
  simp only [Adjacency.Next, Next, row, and_assoc]

theorem Tabulated.addEdge {g : Graph α} (h : g.Tabulated) (e : Edge) : (g.addEdge e).Tabulated := by
  intro id
  show (g.outgoing.add e).successors id = (g.edges ++ [e]).filter (·.source = id)
  have row : g.outgoing.successors id = g.edges.filter (·.source = id) := h id
  rw [Adjacency.successors_add, row, List.filter_append]
  by_cases leaves : e.source = id
  · simp [leaves]
  · simp [leaves]

/-! ## Looking nodes and edges up -/

theorem mem_nodes_iff (g : Graph α) (id : NodeId) : id ∈ g.nodes ↔ ∃ n, g.node? id = some n := by
  rw [← Option.isSome_iff_exists, node?, Std.ExtTreeMap.isSome_getElem?_iff_mem]

theorem containsNode_iff (g : Graph α) (id : NodeId) : g.containsNode id = true ↔ id ∈ g.nodes :=
  Std.ExtTreeMap.contains_iff_mem

theorem containsEdge_iff (g : Graph α) (e : Edge) : g.containsEdge e = true ↔ e ∈ g.edgeSet :=
  Std.ExtTreeSet.contains_iff_mem

theorem node?_eq_none (g : Graph α) {id : NodeId} (absent : id ∉ g.nodes) : g.node? id = none :=
  Std.ExtTreeMap.getElem?_eq_none absent

theorem getElem?_insert_node (nodes : Std.ExtTreeMap NodeId (Node α)) (key id : NodeId) (n : Node α) :
    (nodes.insert key n)[id]? = if key = id then some n else nodes[id]? := by
  simp only [Std.ExtTreeMap.getElem?_insert, Std.LawfulEqCmp.compare_eq_iff_eq]

theorem mem_insert_node (nodes : Std.ExtTreeMap NodeId (Node α)) (key id : NodeId) (n : Node α) :
    id ∈ nodes.insert key n ↔ key = id ∨ id ∈ nodes := by
  rw [Std.ExtTreeMap.mem_insert, Std.LawfulEqCmp.compare_eq_iff_eq]

theorem getElem?_erase_node (nodes : Std.ExtTreeMap NodeId (Node α)) (key id : NodeId) :
    (nodes.erase key)[id]? = if key = id then none else nodes[id]? := by
  simp only [Std.ExtTreeMap.getElem?_erase, Std.LawfulEqCmp.compare_eq_iff_eq]

theorem mem_erase_node (nodes : Std.ExtTreeMap NodeId (Node α)) (key id : NodeId) :
    id ∈ nodes.erase key ↔ key ≠ id ∧ id ∈ nodes := by
  rw [Std.ExtTreeMap.mem_erase, Ne, Std.LawfulEqCmp.compare_eq_iff_eq]

theorem insert_insert_node (nodes : Std.ExtTreeMap NodeId (Node α)) (key : NodeId) (m n : Node α) :
    (nodes.insert key m).insert key n = nodes.insert key n := by
  refine Std.ExtTreeMap.ext_getElem? fun id => ?_
  rw [getElem?_insert_node, getElem?_insert_node, getElem?_insert_node]
  split <;> rfl

/-- A node is put where it is. -/
theorem insert_node_self {nodes : Std.ExtTreeMap NodeId (Node α)} {key : NodeId} {n : Node α}
    (there : nodes[key]? = some n) : nodes.insert key n = nodes := by
  refine Std.ExtTreeMap.ext_getElem? fun id => ?_
  rw [getElem?_insert_node]
  split
  · next same => exact same ▸ there.symm
  · rfl

/-- A node is put back where it was. -/
theorem insert_erase_node {nodes : Std.ExtTreeMap NodeId (Node α)} {key : NodeId} {n : Node α}
    (there : nodes[key]? = some n) : (nodes.erase key).insert key n = nodes := by
  refine Std.ExtTreeMap.ext_getElem? fun id => ?_
  rw [getElem?_insert_node, getElem?_erase_node]
  split
  · next same => exact same ▸ there.symm
  · rfl

theorem node?_place (g : Graph α) (n : Node α) (id : NodeId) :
    (g.place n).node? id = if n.id = id then some n else g.node? id :=
  getElem?_insert_node g.nodes n.id id n

/-! ## Steps -/

section Steps

variable [Scalar α] {g : Graph α}

theorem sound_empty (palette : Palette) : (empty palette : Graph α).Sound where
  order_nodup := List.nodup_nil
  mem_order id := by simp [empty]
  id_of_node id n h := by simp [empty, node?] at h
  edges_nodup := List.nodup_nil
  mem_edgeSet e := by simp [empty]
  successors_eq id := by simp [empty, successors]
  ends e he := (List.not_mem_nil he).elim
  no_loop e he := (List.not_mem_nil he).elim
  acyclic id cycle := by
    obtain ⟨v, ⟨e, he, -⟩, -⟩ := TransGen.head'_iff.1 cycle
    exact List.not_mem_nil he
  startId_iff id := by simp [empty, node?]
  clamped id n h := by simp [empty, node?] at h

/-- The counter is no part of what a store promises. -/
theorem Sound.withCounter (h : g.Sound) (counter : Nat) : { g with counter }.Sound :=
  ⟨h.order_nodup, h.mem_order, h.id_of_node, h.edges_nodup, h.mem_edgeSet, h.successors_eq, h.ends, h.no_loop,
    h.acyclic, h.startId_iff, h.clamped⟩

/-- **A new node can be placed**, a start node only where there is none. -/
theorem Sound.place (h : g.Sound) (n : Node α) (fresh : n.id ∉ g.nodes) (single : n.isStart = true → g.startId = none)
    (clamped : ∃ p : Point α, n.position = p.clamp) : (g.place n).Sound where
  order_nodup := by
    have absent : n.id ∉ g.order := fun hm => fresh ((h.mem_order n.id).1 hm)
    exact List.nodup_append.2 ⟨h.order_nodup, List.pairwise_singleton _ _, fun a ha b hb hab => by
      rw [List.mem_singleton.1 hb] at hab
      exact absent (hab ▸ ha)⟩
  mem_order id := by
    show id ∈ g.order ++ [n.id] ↔ id ∈ g.nodes.insert n.id n
    rw [List.mem_append, List.mem_singleton, h.mem_order, mem_insert_node, or_comm, eq_comm]
  id_of_node id m hm := by
    rw [node?_place] at hm
    split at hm
    · next same =>
      cases hm
      exact same
    · exact h.id_of_node id m hm
  edges_nodup := h.edges_nodup
  mem_edgeSet := h.mem_edgeSet
  successors_eq := h.successors_eq
  ends e he :=
    ⟨(mem_insert_node ..).2 (.inr (h.ends e he).1), (mem_insert_node ..).2 (.inr (h.ends e he).2)⟩
  no_loop := h.no_loop
  acyclic := h.acyclic
  startId_iff id := by
    show (if n.isStart then some n.id else g.startId) = some id ↔ _
    rw [node?_place]
    by_cases same : n.id = id
    · subst same
      have unset : g.startId ≠ some n.id := fun hs => by
        obtain ⟨m, hm, -⟩ := (h.startId_iff n.id).1 hs
        exact fresh ((mem_nodes_iff g n.id).2 ⟨m, hm⟩)
      by_cases start : n.isStart = true
      · simp [start]
      · simp [start, unset]
    · rw [if_neg same]
      by_cases start : n.isStart = true
      · -- no other node is a start node, since none was noted
        have unnoted := h.startId_iff id
        rw [single start] at unnoted
        rw [if_pos start, ← unnoted]
        simp [same]
      · rw [if_neg start]
        exact h.startId_iff id
  clamped id m hm := by
    rw [node?_place] at hm
    split at hm
    · cases hm
      exact clamped
    · exact h.clamped id m hm

/-- **A node can be amended in place**, as long as it keeps its identifier and stays, or not, a start node. -/
theorem Sound.amend (h : g.Sound) {id : NodeId} {n m : Node α} (present : g.node? id = some n) (same : m.id = n.id)
    (start : m.isStart = n.isStart) (clamped : ∃ p : Point α, m.position = p.clamp) :
    { g with nodes := g.nodes.insert id m }.Sound where
  order_nodup := h.order_nodup
  mem_order other := by
    rw [mem_insert_node, h.mem_order]
    refine ⟨.inr, fun hm => hm.elim (fun e => ?_) (·)⟩
    exact e ▸ (mem_nodes_iff g id).2 ⟨n, present⟩
  id_of_node other k hk := by
    rw [node?, getElem?_insert_node] at hk
    split at hk
    · next e =>
      cases hk
      rw [same, h.id_of_node id n present, e]
    · exact h.id_of_node other k hk
  edges_nodup := h.edges_nodup
  mem_edgeSet := h.mem_edgeSet
  successors_eq := h.successors_eq
  ends e he :=
    ⟨(mem_insert_node ..).2 (.inr (h.ends e he).1), (mem_insert_node ..).2 (.inr (h.ends e he).2)⟩
  no_loop := h.no_loop
  acyclic := h.acyclic
  startId_iff other := by
    show g.startId = some other ↔ _
    rw [h.startId_iff, node?, node?, getElem?_insert_node]
    by_cases e : id = other
    · subst e
      rw [if_pos rfl]
      rw [node?] at present
      simp [present, start]
    · rw [if_neg e]
  clamped other k hk := by
    rw [node?, getElem?_insert_node] at hk
    split at hk
    · cases hk
      exact clamped
    · exact h.clamped other k hk

/-- **An edge can be taken out.** -/
theorem Sound.dropEdge (h : g.Sound) (gone : Edge) : (g.dropEdge gone).Sound where
  order_nodup := h.order_nodup
  mem_order := h.mem_order
  id_of_node := h.id_of_node
  edges_nodup := h.edges_nodup.filter _
  mem_edgeSet e := by
    show e ∈ g.edgeSet.erase gone ↔ e ∈ g.edges.filter (· ≠ gone)
    rw [Std.ExtTreeSet.mem_erase, Ne, Std.LawfulEqCmp.compare_eq_iff_eq, h.mem_edgeSet, List.mem_filter,
      decide_eq_true_eq, and_comm, ne_comm]
  successors_eq id := by
    show (g.outgoing.remove gone).successors id = (g.edges.filter (· ≠ gone)).filter (·.source = id)
    have whole : g.outgoing.successors id = g.edges.filter (·.source = id) := h.successors_eq id
    rw [Adjacency.successors_remove, whole, List.filter_filter, List.filter_filter]
    split
    · exact List.filter_congr fun e _ => Bool.and_comm ..
    · next other =>
      refine List.filter_congr fun e _ => ?_
      by_cases leaves : e.source = id
      · have differs : e ≠ gone := fun same => other (same ▸ leaves)
        simp [differs]
      · simp [leaves]
  ends e he := h.ends e (List.mem_filter.1 he).1
  no_loop e he := h.no_loop e (List.mem_filter.1 he).1
  acyclic id cycle := by
    refine h.acyclic id (TransGen.mono ?_ _ _ cycle)
    rintro u v ⟨e, he, ends⟩
    exact ⟨e, (List.mem_filter.1 he).1, ends⟩
  startId_iff := h.startId_iff
  clamped := h.clamped

/-- **An edge between two nodes can be put in**, unless its target leads to its source. -/
theorem Sound.addEdge (h : g.Sound) (e : Edge) (new : e ∉ g.edges) (source : e.source ∈ g.nodes)
    (target : e.target ∈ g.nodes) (apart : ¬ ReflTransGen g.Next e.target e.source) : (g.addEdge e).Sound where
  order_nodup := h.order_nodup
  mem_order := h.mem_order
  id_of_node := h.id_of_node
  edges_nodup := List.nodup_append.2 ⟨h.edges_nodup, List.pairwise_singleton _ _, fun a ha b hb hab => by
    rw [List.mem_singleton.1 hb] at hab
    exact new (hab ▸ ha)⟩
  mem_edgeSet other := by
    show other ∈ g.edgeSet.insert e ↔ other ∈ g.edges ++ [e]
    rw [Std.ExtTreeSet.mem_insert, List.mem_append, List.mem_singleton, h.mem_edgeSet,
      Std.LawfulEqCmp.compare_eq_iff_eq, or_comm, eq_comm]
  successors_eq := h.tabulated.addEdge e
  ends other ho := by
    rcases List.mem_append.1 ho with ho | ho
    · exact h.ends other ho
    · rw [List.mem_singleton.1 ho]
      exact ⟨source, target⟩
  no_loop other ho := by
    rcases List.mem_append.1 ho with ho | ho
    · exact h.no_loop other ho
    · rw [List.mem_singleton.1 ho]
      intro same
      exact apart (same ▸ .refl)
  acyclic id cycle := by
    refine acyclic_insert h.acyclic apart id (TransGen.mono ?_ _ _ cycle)
    rintro u v ⟨other, ho, rfl, rfl⟩
    rcases List.mem_append.1 ho with ho | ho
    · exact .inl ⟨other, ho, rfl, rfl⟩
    · rw [List.mem_singleton.1 ho]
      exact .inr ⟨rfl, rfl⟩
  startId_iff := h.startId_iff
  clamped := h.clamped

/-- **A node that no edge touches can be taken out**, unless it is the start node. -/
theorem Sound.takeOut (h : g.Sound) (gone : NodeId) (kept : g.startId ≠ some gone)
    (untouched : ∀ e ∈ g.edges, e.source ≠ gone ∧ e.target ≠ gone) :
    { g with
      outgoing := g.outgoing.forget gone
      order := g.order.filter (· ≠ gone)
      nodes := g.nodes.erase gone }.Sound where
  order_nodup := h.order_nodup.filter _
  mem_order id := by
    rw [List.mem_filter, h.mem_order, mem_erase_node, decide_eq_true_eq, and_comm, ne_comm]
  id_of_node id n hn := by
    rw [node?, getElem?_erase_node] at hn
    split at hn
    · cases hn
    · exact h.id_of_node id n hn
  edges_nodup := h.edges_nodup
  mem_edgeSet := h.mem_edgeSet
  successors_eq id := by
    show (g.outgoing.forget gone).successors id = g.edges.filter (·.source = id)
    rw [Adjacency.successors_forget]
    split
    · next same =>
      refine (List.filter_eq_nil_iff.2 fun e he => ?_).symm
      simpa [same] using fun leaves => (untouched e he).1 (leaves.trans same.symm)
    · exact h.successors_eq id
  ends e he := by
    obtain ⟨source, target⟩ := h.ends e he
    obtain ⟨noSource, noTarget⟩ := untouched e he
    exact ⟨(mem_erase_node ..).2 ⟨noSource.symm, source⟩, (mem_erase_node ..).2 ⟨noTarget.symm, target⟩⟩
  no_loop := h.no_loop
  acyclic := h.acyclic
  startId_iff id := by
    show g.startId = some id ↔ _
    rw [node?, getElem?_erase_node]
    by_cases same : gone = id
    · subst same
      simp [kept]
    · rw [if_neg same]
      exact h.startId_iff id
  clamped id n hn := by
    rw [node?, getElem?_erase_node] at hn
    split at hn
    · cases hn
    · exact h.clamped id n hn

end Steps

end Workflow.Graph
