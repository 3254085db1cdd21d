import Mathlib.Data.List.SplitBy
import Mathlib.Tactic.TFAE
import Workflow.Proofs.RoundTrip
import Workflow.Proofs.Walks
import Workflow.Validation
/-!
# What the start node leads to

Four parts of a graph go by what the start node leads to: the sequential run, the automatic layout, the validation and
the cycle check.  Each asks a walk of its own, and on a sound store they all answer with the nodes a path of edges leads
to (`Workflow.Proofs.Walks`), once each.  So they agree (`traversals_agree`).
-/
namespace Workflow

open Relation (ReflTransGen)

namespace Graph

variable {α : Type} {g : Graph α} {start : NodeId}

theorem nodup_runOrder (g : Graph α) : g.runOrder.Nodup := by
  rw [runOrder]
  split
  · exact List.nodup_nil
  · exact (g.outgoing.explores_runOrder _ _).nodup

theorem steps_of_none (unset : g.startId = none) : g.steps = [] := by
  rw [steps, runOrder, unset]
  rfl

theorem reachable_eq (present : start ∈ g.nodes) :
    g.reachable start = g.outgoing.levelOrder ((∅ : NodeSet).insert start) [(start, 0)] := by
  rw [reachable, levels, if_pos ((g.containsNode_iff start).2 present), Adjacency.levelOrder]

theorem nodup_reachable (present : start ∈ g.nodes) : (g.reachable start).Nodup := by
  rw [reachable_eq present]
  exact (g.outgoing.levelOrder_singleton start).1

theorem Tabulated.mem_reachable (h : g.Tabulated) (present : start ∈ g.nodes) (v : NodeId) :
    v ∈ g.reachable start ↔ ReflTransGen g.Next start v := by
  rw [reachable_eq present, (g.outgoing.levelOrder_singleton start).2, h.next_eq]

theorem mem_of_path (ends : ∀ e ∈ g.edges, e.source ∈ g.nodes ∧ e.target ∈ g.nodes) {u v : NodeId}
    (path : ReflTransGen g.Next u v) (present : u ∈ g.nodes) : v ∈ g.nodes := by
  induction path with
  | refl => exact present
  | tail _ edge _ =>
    obtain ⟨e, he, -, rfl⟩ := edge
    exact (ends e he).2

variable [Scalar α]

/-! ## Walks over a sound store -/

theorem Sound.mem_of_path (h : g.Sound) {u v : NodeId} (path : ReflTransGen g.Next u v) (present : u ∈ g.nodes) :
    v ∈ g.nodes :=
  Graph.mem_of_path h.ends path present

theorem Sound.start_mem (h : g.Sound) (noted : g.startId = some start) : start ∈ g.nodes := by
  obtain ⟨n, found, -⟩ := (h.startId_iff start).1 noted
  exact (g.mem_nodes_iff start).2 ⟨n, found⟩

theorem Sound.mem_runOrder (h : g.Sound) (noted : g.startId = some start) (v : NodeId) :
    v ∈ g.runOrder ↔ ReflTransGen g.Next start v := by
  have order : g.runOrder = g.outgoing.runOrder ∅ [start] := by rw [runOrder, noted]
  rw [order, (g.outgoing.explores_runOrder ∅ [start]).mem_iff, h.tabulated.next_eq]

theorem Sound.mem_reachable (h : g.Sound) (present : start ∈ g.nodes) (v : NodeId) :
    v ∈ g.reachable start ↔ ReflTransGen g.Next start v :=
  h.tabulated.mem_reachable present v

theorem Sound.runOrder_perm (h : g.Sound) (noted : g.startId = some start) :
    g.runOrder.Perm (g.reachable start) := by
  have present := h.start_mem noted
  rw [List.perm_ext_iff_of_nodup g.nodup_runOrder (nodup_reachable present)]
  intro v
  rw [h.mem_runOrder noted, h.mem_reachable present]

theorem Sound.searchOrder_perm (h : g.Sound) (present : start ∈ g.nodes) :
    (g.outgoing.searchOrder ∅ [start]).Perm (g.reachable start) := by
  have walk := g.outgoing.explores_searchOrder ∅ [start]
  rw [List.perm_ext_iff_of_nodup walk.nodup (nodup_reachable present)]
  intro v
  rw [walk.mem_iff, h.tabulated.next_eq, h.mem_reachable present]

/-! ## Steps -/

theorem length_le_one_iff {l : List NodeId} (nodup : l.Nodup) {x : NodeId} (first : x ∈ l) :
    l.length ≤ 1 ↔ ∀ v ∈ l, v = x := by
  match l, nodup with
  | [], _ => cases first
  | [y], _ => simpa using fun v (same : v = y) => same.trans (List.mem_singleton.1 first).symm
  | y :: z :: l, nodup =>
    refine ⟨fun short => ?_, fun all => ?_⟩
    · simp at short
    · have differ : y ≠ z := fun same => (List.nodup_cons.1 nodup).1 (same ▸ List.mem_cons_self)
      have one : y = x := all y List.mem_cons_self
      have two : z = x := all z (List.mem_cons_of_mem _ List.mem_cons_self)
      exact absurd (one.trans two.symm) differ

theorem Sound.isStart_iff (h : g.Sound) (noted : g.startId = some start) {id : NodeId} {n : Node α}
    (found : g.node? id = some n) : n.isStart = true ↔ id = start := by
  constructor
  · intro isStart
    have also := (h.startId_iff id).2 ⟨n, found, isStart⟩
    exact Option.some.inj (also.symm.trans noted)
  · rintro rfl
    obtain ⟨m, there, isStart⟩ := (h.startId_iff id).1 noted
    rw [found] at there
    rw [Option.some.inj there]
    exact isStart

/-- The steps of some nodes are those of the nodes among them that are not the start node. -/
theorem Sound.steps_of (h : g.Sound) (noted : g.startId = some start) (ids : List NodeId) :
    ((ids.filterMap g.node?).filterMap fun n => if n.isStart then none else some n.step) =
      ((ids.filter (· ≠ start)).filterMap g.node?).map Node.step := by
  rw [List.filterMap_filterMap, List.filterMap_filter, List.map_filterMap]
  refine List.filterMap_congr fun id _ => ?_
  cases found : g.node? id with
  | none => simp
  | some n =>
    have isStart := h.isStart_iff noted found
    by_cases same : id = start
    · simp [isStart.2 same, same]
    · have other : n.isStart = false := Bool.eq_false_iff.2 fun yes => same (isStart.1 yes)
      simp [other, same]

theorem Sound.filter_nodeList (h : g.Sound) (p : NodeId → Bool) :
    g.nodeList.filter (fun n => p n.id) = (g.order.filter p).filterMap g.node? := by
  rw [nodeList, List.filter_filterMap, List.filterMap_filter]
  refine List.filterMap_congr fun id _ => ?_
  cases found : g.node? id with
  | none => simp
  | some n => rw [Option.filter_some, h.id_of_node id n found]

/-- **The steps of a graph are those of the nodes that the start node leads to**, in some order. -/
theorem Sound.steps_perm (h : g.Sound) (noted : g.startId = some start) : g.steps.Perm
    ((g.nodeList.filter fun n => n.id ∈ g.reachable start ∧ n.id ≠ start).map Node.step) := by
  have present := h.start_mem noted
  have filtered : (g.nodeList.filter fun n => n.id ∈ g.reachable start ∧ n.id ≠ start) =
      (g.order.filter fun id => id ∈ g.reachable start ∧ id ≠ start).filterMap g.node? :=
    h.filter_nodeList fun id => decide (id ∈ g.reachable start ∧ id ≠ start)
  rw [steps, h.steps_of noted, filtered]
  refine List.Perm.map _ (List.Perm.filterMap _ ?_)
  rw [List.perm_ext_iff_of_nodup (g.nodup_runOrder.filter _) (h.order_nodup.filter _)]
  intro v
  simp only [List.mem_filter, decide_eq_true_eq]
  have listed : v ∈ g.runOrder ↔ v ∈ g.order ∧ v ∈ g.reachable start := by
    rw [(h.runOrder_perm noted).mem_iff, h.mem_order]
    refine ⟨fun hv => ⟨?_, hv⟩, (·.2)⟩
    exact h.mem_of_path ((h.mem_reachable present v).1 hv) present
  rw [listed, and_assoc]

/-- **There are steps if the start node leads anywhere.** -/
theorem Sound.steps_eq_nil_iff (h : g.Sound) (noted : g.startId = some start) :
    g.steps = [] ↔ (g.reachable start).length ≤ 1 := by
  have present := h.start_mem noted
  have first : start ∈ g.reachable start := (h.mem_reachable present start).2 .refl
  rw [length_le_one_iff (nodup_reachable present) first, ← List.length_eq_zero_iff, (h.steps_perm noted).length_eq,
    List.length_eq_zero_iff, List.map_eq_nil_iff, List.filter_eq_nil_iff]
  simp only [decide_eq_true_eq, not_and, not_not]
  constructor
  · intro all v hv
    have inside := h.mem_of_path ((h.mem_reachable present v).1 hv) present
    obtain ⟨n, found⟩ := (g.mem_nodes_iff v).1 inside
    have same := h.id_of_node v n found
    subst same
    exact all n ((h.mem_nodeList n).2 found) hv
  · exact fun all n _ hn => all n.id hn

/-! ## Layout -/

theorem order_arrange (g : Graph α) (placement : PlacementSettings α) :
    (Layout.arrange g placement).2.order = g.order :=
  arrange_induction (P := fun next => next.order = g.order)
    (fun next id position same => (next.moveNode_amends id position).order.trans same) placement rfl

end Graph

namespace Layout

variable {α : Type} [Scalar α]

theorem map_fst_rows (column : List (NodeId × Nat)) : (rows column).map (·.1) = column.map (·.1) := by
  calc (rows column).map (·.1)
    _ = (column.zipIdx.map Prod.fst).map (·.1) := by
      rw [rows, List.map_map, List.map_map]
      rfl
    _ = column.map (·.1) := by rw [List.zipIdx_map_fst]

theorem map_fst_grid (levels : List (NodeId × Nat)) : (grid levels).map (·.1) = levels.map (·.1) := by
  have whole : (columns levels).flatten = levels := List.flatten_splitBy _ levels
  calc (grid levels).map (·.1)
    _ = (columns levels).flatMap fun column => (rows column).map (·.1) := List.map_flatMap
    _ = (columns levels).flatMap fun column => column.map (·.1) := by simp only [map_fst_rows]
    _ = (columns levels).flatten.map (·.1) := by rw [List.map_flatten, List.flatMap_def]
    _ = levels.map (·.1) := by rw [whole]

/-- A node of the graph is moved to its place. -/
theorem settle_of_mem (placement : PlacementSettings α) (placed : List (NodeId × Point α)) {g : Graph α}
    {n : NodeId × Nat × Nat} (present : n.1 ∈ g.nodes) : settle placement (placed, g) n =
      (placed ++ [(n.1, (cell placement n.2.1 n.2.2).clamp)], (g.moveNode n.1 (cell placement n.2.1 n.2.2)).2) := by
  obtain ⟨m, found⟩ := (g.mem_nodes_iff n.1).1 present
  rw [settle, Graph.moveNode, found]

theorem mem_moveNode (g : Graph α) (id : NodeId) (position : Point α) (k : NodeId) :
    k ∈ (g.moveNode id position).2.nodes ↔ k ∈ g.nodes := by
  rw [Graph.mem_nodes_iff, Graph.mem_nodes_iff, (g.moveNode_amends id position).node?]
  split
  · cases g.node? k <;> simp
  · rfl

/-- Nodes of the graph are moved to their places in turn. -/
theorem fst_foldl_settle (placement : PlacementSettings α) (cells : List (NodeId × Nat × Nat))
    (acc : List (NodeId × Point α) × Graph α) (present : ∀ n ∈ cells, n.1 ∈ acc.2.nodes) :
    (cells.foldl (settle placement) acc).1 =
      acc.1 ++ cells.map fun n => (n.1, (cell placement n.2.1 n.2.2).clamp) := by
  induction cells generalizing acc with
  | nil => exact (List.append_nil _).symm
  | cons n cells ih =>
    have step := settle_of_mem placement acc.1 (present n List.mem_cons_self)
    rw [List.foldl_cons, ih, step]
    · simp
    · intro k hk
      rw [step]
      exact (mem_moveNode acc.2 n.1 _ k.1).2 (present k (List.mem_cons_of_mem _ hk))

end Layout

namespace Graph

variable {α : Type} [Scalar α] {g : Graph α} {start : NodeId}

theorem Sound.mem_nodes_of_mem_grid (h : g.Sound) (noted : g.startId = some start) :
    ∀ n ∈ Layout.grid (g.levels start), n.1 ∈ g.nodes := by
  intro n hn
  have present := h.start_mem noted
  have reached : n.1 ∈ g.reachable start := by
    rw [reachable, ← Layout.map_fst_grid]
    exact List.mem_map_of_mem hn
  exact h.mem_of_path ((h.mem_reachable present n.1).1 reached) present

theorem Sound.placed_eq (h : g.Sound) (noted : g.startId = some start) (placement : PlacementSettings α) :
    (Layout.arrange g placement).1.placed = (Layout.grid (g.levels start)).map fun n =>
      (n.1, (Layout.cell placement n.2.1 n.2.2).clamp) := by
  have placed : (Layout.arrange g placement).1.placed =
      ((Layout.grid (g.levels start)).foldl (Layout.settle placement) ([], g)).1 := by
    rw [Layout.arrange, noted]
  rw [placed, Layout.fst_foldl_settle placement _ _ (h.mem_nodes_of_mem_grid noted), List.nil_append]

/-- **A layout places the nodes that the start node leads to**, in the order it comes by them. -/
theorem Sound.map_fst_placed (h : g.Sound) (noted : g.startId = some start) (placement : PlacementSettings α) :
    (Layout.arrange g placement).1.placed.map (·.1) = g.reachable start := by
  rw [h.placed_eq noted, List.map_map]
  exact Layout.map_fst_grid (g.levels start)

/-- **A layout leaves the other nodes where they are.** -/
theorem Sound.untouched_eq (h : g.Sound) (noted : g.startId = some start) (placement : PlacementSettings α) :
    (Layout.arrange g placement).1.untouched = g.order.filter (· ∉ g.reachable start) := by
  have untouched : (Layout.arrange g placement).1.untouched =
      ((Layout.arrange g placement).2.nodeList.map (·.id)).filter
        (· ∉ (.ofList ((Layout.arrange g placement).1.placed.map (·.1)) : NodeSet)) := by
    rw [Layout.arrange, noted]
  rw [untouched, (h.arrange placement).map_id_nodeList, g.order_arrange, h.map_fst_placed noted]
  exact List.filter_congr fun v _ => by simp only [Std.ExtTreeSet.mem_ofList, List.contains_iff_mem]

/-- **A layout accounts for every node once.** -/
theorem Sound.placed_append_untouched_perm (h : g.Sound) (noted : g.startId = some start)
    (placement : PlacementSettings α) :
    ((Layout.arrange g placement).1.placed.map (·.1) ++ (Layout.arrange g placement).1.untouched).Perm g.order := by
  have present := h.start_mem noted
  rw [h.map_fst_placed noted, h.untouched_eq noted]
  have nodup : (g.reachable start ++ g.order.filter (· ∉ g.reachable start)).Nodup := by
    refine List.nodup_append.2 ⟨nodup_reachable present, h.order_nodup.filter _, fun v hv w hw same => ?_⟩
    have out := of_decide_eq_true (List.mem_filter.1 hw).2
    exact out (same ▸ hv)
  rw [List.perm_ext_iff_of_nodup nodup h.order_nodup]
  intro v
  rw [List.mem_append, List.mem_filter, decide_eq_true_eq, h.mem_order]
  constructor
  · rintro (reached | ⟨inside, -⟩)
    · exact h.mem_of_path ((h.mem_reachable present v).1 reached) present
    · exact inside
  · intro inside
    by_cases reached : v ∈ g.reachable start
    · exact .inl reached
    · exact .inr ⟨inside, reached⟩

end Graph

/-! ## Validation -/

/-- An issue with the kind or the fields of a node. -/
def Issue.OfNode : Issue → Prop
  | .unknownKind _ _ | .missingField _ _ | .danglingReference _ _ _ => True
  | _ => False

namespace Validation

variable {α : Type}

theorem ofNode_checkReferences (g : Graph α) (n : Node α) (fields : List (Palette.Field × Palette.Reference))
    (produced : Produced) : ∀ i ∈ (checkReferences g n fields produced).1, i.OfNode := by
  induction fields generalizing produced with
  | nil => exact fun i hi => (List.not_mem_nil hi).elim
  | cons field fields ih =>
    obtain ⟨f, r⟩ := field
    intro i hi
    rw [checkReferences] at hi
    rcases List.mem_append.1 hi with hi | hi
    · rw [checkReference] at hi
      split at hi
      · cases hi
      · split at hi
        · cases hi
        · dsimp only at hi
          split at hi
          · cases hi
          · rw [List.mem_singleton.1 hi]
            trivial
    · exact ih _ i hi

theorem ofNode_checkNode (g : Graph α) (n : Node α) (produced : Produced) :
    ∀ i ∈ (checkNode g n produced).1, i.OfNode := by
  intro i hi
  rw [checkNode] at hi
  split at hi
  · dsimp only at hi
    split at hi
    · rw [List.mem_singleton.1 hi]
      trivial
    · cases hi
  · rcases List.mem_append.1 hi with hi | hi
    · obtain ⟨f, -, rfl⟩ := List.mem_map.1 hi
      trivial
    · exact ofNode_checkReferences g n _ produced i hi

/-- Checks of nodes find nothing but issues with their kinds and fields. -/
theorem ofNode_checkNodes (g : Graph α) (nodes : List (Node α)) (produced : Produced) :
    ∀ i ∈ (checkNodes g nodes produced).1, i.OfNode := by
  induction nodes generalizing produced with
  | nil => exact fun i hi => (List.not_mem_nil hi).elim
  | cons n nodes ih =>
    intro i hi
    rw [checkNodes] at hi
    rcases List.mem_append.1 hi with hi | hi
    · exact ofNode_checkNode g n produced i hi
    · exact ih _ i hi

end Validation

namespace Graph

variable {α : Type} {g : Graph α} {start : NodeId}

theorem validate_of_none (unset : g.startId = none) :
    g.validate.issues = [.missingStart] ++ (Validation.checkNodes g g.nodeList ∅).1 ++ [.noPath] := by
  simp [validate, unset]

theorem issues_eq_of_none (unset : g.startId = none) : ∃ fields : List Issue,
    (∀ i ∈ fields, i.OfNode) ∧ g.validate.issues = [.missingStart] ++ fields ++ [.noPath] :=
  ⟨_, Validation.ofNode_checkNodes g g.nodeList ∅, validate_of_none unset⟩

variable [Scalar α]

theorem Sound.validate_eq (h : g.Sound) (noted : g.startId = some start) : g.validate.issues =
    (g.order.filter (· ∉ g.reachable start)).map .unreachable ++ (Validation.checkNodes g g.nodeList ∅).1 ++
      if (g.reachable start).length ≤ 1 then [.noPath] else [] := by
  have present := h.start_mem noted
  have there : g.startId.filter g.containsNode = some start := by
    rw [noted, Option.filter_some, if_pos ((g.containsNode_iff start).2 present)]
  have size : (.ofList (g.reachable start) : NodeSet).size = (g.reachable start).length := by
    refine Std.ExtTreeSet.size_ofList ((nodup_reachable present).imp fun differ same => differ ?_)
    exact Std.LawfulEqCmp.eq_of_compare same
  have member : ∀ v, v ∈ (.ofList (g.reachable start) : NodeSet) ↔ v ∈ g.reachable start := fun v => by
    rw [Std.ExtTreeSet.mem_ofList, List.contains_iff_mem]
  simp only [validate, there, size, member, h.map_id_nodeList]

theorem Sound.issues_eq (h : g.Sound) (noted : g.startId = some start) : ∃ fields : List Issue,
    (∀ i ∈ fields, i.OfNode) ∧ g.validate.issues =
      (g.order.filter (· ∉ g.reachable start)).map .unreachable ++ fields ++
        if (g.reachable start).length ≤ 1 then [.noPath] else [] :=
  ⟨_, Validation.ofNode_checkNodes g g.nodeList ∅, h.validate_eq noted⟩

/-- **A node is reported if the start node does not lead to it.** -/
theorem Sound.unreachable_mem_iff (h : g.Sound) (noted : g.startId = some start) {n : NodeId} (inside : n ∈ g.nodes) :
    .unreachable n ∈ g.validate.issues ↔ n ∉ g.reachable start := by
  obtain ⟨fields, ofNode, issues⟩ := h.issues_eq noted
  rw [issues, List.mem_append, List.mem_append]
  constructor
  · rintro ((reported | field) | last)
    · obtain ⟨v, hv, same⟩ := List.mem_map.1 reported
      rw [← Issue.unreachable.inj same]
      exact of_decide_eq_true (List.mem_filter.1 hv).2
    · exact (ofNode _ field).elim
    · split at last
      · cases List.mem_singleton.1 last
      · cases last
  · intro unreached
    have listed : n ∈ g.order.filter (· ∉ g.reachable start) :=
      List.mem_filter.2 ⟨(h.mem_order n).2 inside, decide_eq_true unreached⟩
    exact .inl (.inl (List.mem_map_of_mem listed))

/-- **No path is reported if there are no steps.** -/
theorem Sound.noPath_mem_iff (h : g.Sound) (noted : g.startId = some start) :
    .noPath ∈ g.validate.issues ↔ g.steps = [] := by
  obtain ⟨fields, ofNode, issues⟩ := h.issues_eq noted
  rw [h.steps_eq_nil_iff noted, issues, List.mem_append, List.mem_append]
  constructor
  · rintro ((reported | field) | last)
    · obtain ⟨v, -, same⟩ := List.mem_map.1 reported
      cases same
    · exact (ofNode _ field).elim
    · split at last
      · next short => exact short
      · cases last
  · intro short
    rw [if_pos short]
    exact .inr List.mem_cons_self

/-- **All traversals agree on what the start node leads to.**  For a node of a reachable store with a start node it is
all one whether a path of edges leads there, the sequential run comes by it, it is listed as reachable, the layout
places it, the validation does not report it, and an edge from it to the start node would close a cycle.  Each walk
comes by each of these nodes once, so the steps are those of these nodes but the start node, the nodes a layout places
and those it leaves are all nodes, and a path is found missing just when there are no steps.  Without a start node there
are no steps, a layout changes nothing, and the validation reports that and nothing unreachable. -/
theorem traversals_agree (g : Graph α) (reached : g.Reachable) (placement : PlacementSettings α) :
    (∀ start, g.startId = some start →
      (∀ n ∈ g.nodes, [ReflTransGen g.Next start n, n ∈ g.runOrder, n ∈ g.reachable start,
        n ∈ (Layout.arrange g placement).1.placed.map (·.1), .unreachable n ∉ g.validate.issues,
        g.wouldCycle n start = true, n ∈ g.outgoing.searchOrder ∅ [start]].TFAE) ∧
      (g.reachable start).Nodup ∧ g.runOrder.Perm (g.reachable start) ∧
      (Layout.arrange g placement).1.placed.map (·.1) = g.reachable start ∧
      (g.outgoing.searchOrder ∅ [start]).Perm (g.reachable start) ∧
      g.steps.Perm ((g.nodeList.filter fun n => n.id ∈ g.reachable start ∧ n.id ≠ start).map Node.step) ∧
      ((Layout.arrange g placement).1.placed.map (·.1) ++ (Layout.arrange g placement).1.untouched).Perm g.order ∧
      (.noPath ∈ g.validate.issues ↔ g.steps = [])) ∧
    (g.startId = none →
      g.steps = [] ∧ Layout.arrange g placement = (⟨[], 0, g.nodeList.map (·.id)⟩, g) ∧
      .missingStart ∈ g.validate.issues ∧ .noPath ∈ g.validate.issues ∧
      ∀ n, .unreachable n ∉ g.validate.issues) := by
  have h := reached.sound
  refine ⟨fun start noted => ?_, fun unset => ?_⟩
  · have present := h.start_mem noted
    refine ⟨fun n inside => ?_, nodup_reachable present, h.runOrder_perm noted, h.map_fst_placed noted placement,
      h.searchOrder_perm present, h.steps_perm noted, h.placed_append_untouched_perm noted placement,
      h.noPath_mem_iff noted⟩
    tfae_have 2 ↔ 1 := h.mem_runOrder noted n
    tfae_have 3 ↔ 1 := h.mem_reachable present n
    tfae_have 4 ↔ 3 := by rw [h.map_fst_placed noted]
    tfae_have 5 ↔ 3 := by rw [h.unreachable_mem_iff noted inside, not_not]
    tfae_have 6 ↔ 1 := h.wouldCycle_iff n start
    tfae_have 6 ↔ 7 := g.outgoing.leadsTo_iff_mem (by simp) [start]
    tfae_finish
  · obtain ⟨fields, ofNode, issues⟩ := issues_eq_of_none unset
    refine ⟨steps_of_none unset, ?_, ?_, ?_, fun n reported => ?_⟩
    · rw [Layout.arrange, unset]
      rfl
    · simp [issues]
    · simp [issues]
    · rw [issues, List.mem_append, List.mem_append] at reported
      rcases reported with (missing | field) | last
      · cases List.mem_singleton.1 missing
      · exact ofNode _ field
      · cases List.mem_singleton.1 last

theorem traversals_agree_on_branching_graph : ∃ g : Graph Float, g.Reachable ∧ g.startId = some (.numbered 1) ∧
    .numbered 3 ∈ g.runOrder ∧ .numbered 3 ∈ (Layout.arrange g .standard).1.placed.map (·.1) ∧
    .numbered 4 ∉ g.runOrder ∧ .unreachable (.numbered 4) ∈ g.validate.issues := by
  let g : Graph Float := (withStart ⟨∅⟩ ⟨5, 7⟩).after [.createNode (.action "click") ⟨1, 2⟩,
    .createNode (.action "wait") ⟨3, 4⟩, .createNode (.action "stop") ⟨5, 6⟩,
    .createEdge (.numbered 1) (.numbered 2) .success, .createEdge (.numbered 1) (.numbered 3) .error,
    .createEdge (.numbered 2) (.numbered 3) .success]
  have reached : g.Reachable := (Reachable.withStart ⟨∅⟩ ⟨5, 7⟩).after _
  have noted : g.startId = some (.numbered 1) := by decide +kernel
  have third : .numbered 3 ∈ g.runOrder := by decide +kernel
  have fourth : .numbered 4 ∉ g.runOrder := by decide +kernel
  have agree := ((traversals_agree g reached .standard).1 (.numbered 1) noted).1
  have placed := ((agree (.numbered 3) (by decide +kernel)).out 1 3).1 third
  have reported := mt ((agree (.numbered 4) (by decide +kernel)).out 1 4).2 fourth
  exact ⟨g, reached, noted, third, placed, fourth, not_not.1 reported⟩

end Graph

end Workflow
