import Mathlib.Data.List.Range
import Mathlib.Order.MinMax
import Workflow.Proofs.Distances
/-!
# Layout in columns

A layout cuts the list of levels where the level changes, and numbers the rows of each piece from the top.  That gives
each level one column, with rows of its own, because the list is sorted and leaves no level out: the pieces are then the
levels themselves (`columns_eq`).  So the cell of a node is known without the cutting, by its distance from the start
node and its place among the nodes as far away (`grid_eq`), and the spot it goes to is a matter of arithmetic (`spot`).

Which cells there are is a matter of the edges, and a layout changes none.  Done again it moves every node to where it
is (`Sound.arrange_arrange`).
-/
namespace Workflow

open Relation (ReflTransGen)

namespace Layout

variable {levels : List (NodeId × Nat)}

/-! ## Columns of a sorted list -/

def column (levels : List (NodeId × Nat)) (level : Nat) : List (NodeId × Nat) := levels.filter (·.2 = level)

/-- The place of a node among the nodes of its level. -/
def row (levels : List (NodeId × Nat)) (n : NodeId × Nat) : Nat := (column levels n.2).idxOf n

theorem mem_column {level : Nat} {n : NodeId × Nat} : n ∈ column levels level ↔ n ∈ levels ∧ n.2 = level := by
  rw [column, List.mem_filter, decide_eq_true_eq]

theorem filter_lt_succ (sorted : levels.Pairwise fun m n => m.2 ≤ n.2) (level : Nat) :
    levels.filter (·.2 < level + 1) = levels.filter (·.2 < level) ++ column levels level := by
  induction levels with
  | nil => rfl
  | cons n levels ih =>
    obtain ⟨first, sorted⟩ := List.pairwise_cons.1 sorted
    have rest := ih sorted
    rw [column] at rest ⊢
    rw [List.filter_cons, List.filter_cons, List.filter_cons, rest]
    rcases Nat.lt_trichotomy n.2 level with less | same | more
    · have apart : n.2 < level + 1 ∧ n.2 ≠ level := by omega
      simp [apart, less]
    · -- a node of this level is the first, so none of the levels before it follows
      have none : levels.filter (·.2 < level) = [] := List.filter_eq_nil_iff.2 fun m hm => by
        have := first m hm
        simp only [decide_eq_true_eq]
        omega
      simp [same, none]
    · have apart : ¬ n.2 < level + 1 ∧ ¬ n.2 < level ∧ n.2 ≠ level := by omega
      simp [apart]

theorem flatMap_column (sorted : levels.Pairwise fun m n => m.2 ≤ n.2) (count : Nat) :
    (List.range count).flatMap (column levels) = levels.filter (·.2 < count) := by
  induction count with
  | zero => simp
  | succ count ih => rw [List.range_succ, List.flatMap_append, ih, List.flatMap_singleton, filter_lt_succ sorted]

/-- Columns up to one that all levels are below are the whole list. -/
theorem flatMap_column_of_lt (sorted : levels.Pairwise fun m n => m.2 ≤ n.2) {count : Nat}
    (most : ∀ n ∈ levels, n.2 < count) : (List.range count).flatMap (column levels) = levels := by
  rw [flatMap_column sorted]
  exact List.filter_eq_self.2 fun n hn => decide_eq_true (most n hn)

/-- **Each level is one column.** -/
theorem columns_eq (sorted : levels.Pairwise fun m n => m.2 ≤ n.2) {count : Nat}
    (used : ∀ level, level < count ↔ ∃ n ∈ levels, n.2 = level) :
    columns levels = (List.range count).map (column levels) := by
  have filled : ∀ level < count, column levels level ≠ [] := fun level below => by
    obtain ⟨n, hn, same⟩ := (used level).1 below
    exact List.ne_nil_of_mem (mem_column.2 ⟨hn, same⟩)
  refine List.splitBy_eq_iff.2 ⟨?_, fun empty => ?_, fun c hc => ?_, ?_⟩
  · rw [← List.flatMap_def]
    exact (flatMap_column_of_lt sorted fun n hn => (used n.2).2 ⟨n, hn, rfl⟩).symm
  · obtain ⟨level, below, none⟩ := List.mem_map.1 empty
    exact filled level (List.mem_range.1 below) none
  · obtain ⟨level, -, rfl⟩ := List.mem_map.1 hc
    refine List.Pairwise.isChain (List.pairwise_of_forall_mem_list fun m hm n hn => ?_)
    rw [(mem_column.1 hm).2, (mem_column.1 hn).2]
    exact beq_self_eq_true level
  · rw [List.isChain_map]
    refine (List.isChain_range _ _).2 fun level below => ?_
    refine ⟨filled level (by omega), filled (level + 1) (by omega), ?_⟩
    rw [(mem_column.1 (List.getLast_mem _)).2, (mem_column.1 (List.head_mem _)).2]
    simp

theorem nodup_column (nodup : levels.Nodup) (level : Nat) : (column levels level).Nodup := nodup.filter _

theorem zipIdx_eq_map_idxOf {l : List (NodeId × Nat)} (nodup : l.Nodup) :
    l.zipIdx = l.map fun n => (n, l.idxOf n) := by
  refine List.ext_getElem (by simp) fun i _ _ => ?_
  simp [nodup.idxOf_getElem]

theorem map_row (nodup : levels.Nodup) (level : Nat) :
    (column levels level).map (row levels) = List.range (column levels level).length := by
  have rows : (column levels level).map (row levels) = (column levels level).zipIdx.map Prod.snd := by
    rw [zipIdx_eq_map_idxOf (nodup_column nodup level), List.map_map]
    refine List.map_congr_left fun n hn => ?_
    obtain ⟨-, rfl⟩ := mem_column.1 hn
    rfl
  rw [rows, List.zipIdx_map_snd, List.range_eq_range']

theorem rows_column (nodup : levels.Nodup) (level : Nat) :
    rows (column levels level) = (column levels level).map fun n => (n.1, n.2, row levels n) := by
  rw [rows, zipIdx_eq_map_idxOf (nodup_column nodup level), List.map_map]
  refine List.map_congr_left fun n hn => ?_
  obtain ⟨-, rfl⟩ := mem_column.1 hn
  rfl

/-- **The cell of a node is told by its level and its place there.** -/
theorem grid_eq (nodup : levels.Nodup) (sorted : levels.Pairwise fun m n => m.2 ≤ n.2) {count : Nat}
    (used : ∀ level, level < count ↔ ∃ n ∈ levels, n.2 = level) :
    grid levels = levels.map fun n => (n.1, n.2, row levels n) :=
  calc grid levels
    _ = (List.range count).flatMap fun level => rows (column levels level) := by
      rw [grid, columns_eq sorted used, List.flatMap_map]
    _ = ((List.range count).flatMap (column levels)).map fun n => (n.1, n.2, row levels n) := by
      simp only [rows_column nodup, List.map_flatMap]
    _ = levels.map fun n => (n.1, n.2, row levels n) := by
      rw [flatMap_column_of_lt sorted fun n hn => (used n.2).2 ⟨n, hn, rfl⟩]

/-! ## The number of columns -/

theorem lt_foldl_iff (levels : List (NodeId × Nat)) (count level : Nat) :
    level < levels.foldl (fun n l => max n (l.2 + 1)) count ↔ level < count ∨ ∃ n ∈ levels, level ≤ n.2 := by
  induction levels generalizing count with
  | nil => simp
  | cons n levels ih =>
    rw [List.foldl_cons, ih, lt_max_iff, Nat.lt_succ_iff, or_assoc]
    simp

/-- A list that goes up a step at a time leaves no level out. -/
theorem exists_level (chain : levels.IsChain fun m n => m.2 ≤ n.2 ∧ n.2 ≤ m.2 + 1) {first : NodeId × Nat}
    (head : levels.head? = some first) {n : NodeId × Nat} (hn : n ∈ levels) {level : Nat} (least : first.2 ≤ level)
    (most : level ≤ n.2) : ∃ m ∈ levels, m.2 = level := by
  induction levels generalizing first with
  | nil => cases hn
  | cons m levels ih =>
    cases head
    rcases Nat.eq_or_lt_of_le least with same | more
    · exact ⟨m, List.mem_cons_self, same⟩
    · obtain ⟨step, chain⟩ := List.isChain_cons.1 chain
      rcases List.mem_cons.1 hn with rfl | hn
      · omega
      · obtain ⟨next, rest⟩ := List.exists_cons_of_ne_nil (List.ne_nil_of_mem hn)
        obtain ⟨rest, rfl⟩ := rest
        have near := step next rfl
        obtain ⟨k, hk, same⟩ := ih chain rfl hn (by omega)
        exact ⟨k, List.mem_cons_of_mem _ hk, same⟩

/-! ## Moves -/

section Moves

variable {α : Type} [Scalar α] {g : Graph α} (placement : PlacementSettings α)

theorem snd_foldl_settle_cons (n : NodeId × Nat × Nat) (cells : List (NodeId × Nat × Nat))
    (acc : List (NodeId × Point α) × Graph α) :
    ∃ placed, (n :: cells).foldl (settle placement) acc =
      cells.foldl (settle placement) (placed, (acc.2.moveNode n.1 (cell placement n.2.1 n.2.2)).2) :=
  ⟨(settle placement acc n).1, by rw [List.foldl_cons, ← Graph.settle_snd]⟩

/-- Nodes that are not to be moved stay. -/
theorem node?_foldl_settle_of_not_mem (cells : List (NodeId × Nat × Nat)) (acc : List (NodeId × Point α) × Graph α)
    {id : NodeId} (other : id ∉ cells.map (·.1)) :
    (cells.foldl (settle placement) acc).2.node? id = acc.2.node? id := by
  induction cells generalizing acc with
  | nil => rfl
  | cons n cells ih =>
    rw [List.map_cons, List.mem_cons, not_or] at other
    obtain ⟨placed, step⟩ := snd_foldl_settle_cons placement n cells acc
    rw [step, ih _ other.2, (acc.2.moveNode_amends n.1 _).node?, if_neg (Ne.symm other.1)]

/-- **Each node goes to the place of its cell**, and keeps all else. -/
theorem node?_foldl_settle (cells : List (NodeId × Nat × Nat)) (acc : List (NodeId × Point α) × Graph α)
    (distinct : (cells.map (·.1)).Nodup) {n : NodeId × Nat × Nat} (hn : n ∈ cells) :
    (cells.foldl (settle placement) acc).2.node? n.1 =
      (acc.2.node? n.1).map fun m => { m with position := (cell placement n.2.1 n.2.2).clamp } := by
  induction cells generalizing acc with
  | nil => cases hn
  | cons k cells ih =>
    rw [List.map_cons, List.nodup_cons] at distinct
    obtain ⟨placed, step⟩ := snd_foldl_settle_cons placement k cells acc
    rw [step]
    rcases List.mem_cons.1 hn with rfl | hn
    · rw [node?_foldl_settle_of_not_mem placement cells _ distinct.1, (acc.2.moveNode_amends n.1 _).node?, if_pos rfl]
    · have other : k.1 ≠ n.1 := fun same => distinct.1 (same ▸ List.mem_map_of_mem hn)
      rw [ih _ distinct.2 hn, (acc.2.moveNode_amends k.1 _).node?, if_neg other]

theorem moveNode_eq_self {id : NodeId} {position : Point α} {n : Node α} (found : g.node? id = some n)
    (there : n.position = position.clamp) : (g.moveNode id position).2 = g := by
  rw [Graph.moveNode, found]
  show { g with nodes := g.nodes.insert id { n with position := position.clamp } } = g
  rw [← there, Graph.insert_node_self found]

/-- **Nodes that are where they are to go are moved nowhere.** -/
theorem snd_foldl_settle_of_placed (cells : List (NodeId × Nat × Nat)) (placed : List (NodeId × Point α))
    (there : ∀ n ∈ cells, ∃ m, g.node? n.1 = some m ∧ m.position = (cell placement n.2.1 n.2.2).clamp) :
    (cells.foldl (settle placement) (placed, g)).2 = g := by
  induction cells generalizing placed with
  | nil => rfl
  | cons n cells ih =>
    obtain ⟨m, found, position⟩ := there n List.mem_cons_self
    obtain ⟨placed', step⟩ := snd_foldl_settle_cons placement n cells (placed, g)
    rw [step, moveNode_eq_self found position]
    exact ih placed' fun k hk => there k (List.mem_cons_of_mem _ hk)

end Moves

/-! ## Where a report says a node is -/

theorem lookup_map_of_mem {β : Type} (f : NodeId × Nat → β) (distinct : (levels.map (·.1)).Nodup) {n : NodeId × Nat}
    (hn : n ∈ levels) : (levels.map fun n => (n.1, f n)).lookup n.1 = some (f n) := by
  induction levels with
  | nil => cases hn
  | cons m levels ih =>
    rw [List.map_cons, List.nodup_cons] at distinct
    rw [List.map_cons, List.lookup_cons]
    rcases List.mem_cons.1 hn with rfl | hn
    · rw [beq_self_eq_true]
    · have other : (n.1 == m.1) = false :=
        beq_eq_false_iff_ne.2 fun same => distinct.1 (same ▸ List.mem_map_of_mem hn)
      rw [other]
      exact ih distinct.2 hn

/-- The spot of a node of some level: from the origin of the layout, a level's width to the right for each level
before it, and a node's pitch down for each node before it on its level.  A coordinate that this would make negative is
zero. -/
def spot {α : Type} [Scalar α] (placement : PlacementSettings α) (levels : List (NodeId × Nat)) (n : NodeId × Nat) :
    Point α :=
  ⟨Scalar.nonNegative (placement.layoutOrigin.x + Scalar.ofNat n.2 * placement.levelWidth),
    Scalar.nonNegative (placement.layoutOrigin.y + Scalar.ofNat (row levels n) * placement.nodePitch)⟩

theorem clamp_cell {α : Type} [Scalar α] (placement : PlacementSettings α) (n : NodeId × Nat) :
    (cell placement n.2 (row levels n)).clamp = spot placement levels n := rfl

/-- **What a layout comes to.**  Each node that the start node leads to goes to the spot of its distance and of its
place among the nodes as far away, and nothing else changes. -/
structure Arranged {α : Type} [Scalar α] (g : Graph α) (start : NodeId) (placement : PlacementSettings α)
    (report : Report α) (next : Graph α) : Prop where
  reached : ∀ v, v ∈ g.reachable start ↔ ReflTransGen g.Next start v
  distance : ∀ n ∈ g.levels start, IsLeast { count | Hops g.Next start count n.1 } n.2
  /-- The rows of a column are used from the top, each once. -/
  rows : ∀ level, (column (g.levels start) level).map (row (g.levels start)) =
    List.range (column (g.levels start) level).length
  columns : ∃ n ∈ g.levels start, report.columns = n.2 + 1 ∧ ∀ m ∈ g.levels start, m.2 ≤ n.2
  /-- No column is empty. -/
  filled : ∀ level < report.columns, ∃ n ∈ g.levels start, n.2 = level
  placed : report.placed = (g.levels start).map fun n => (n.1, spot placement (g.levels start) n)
  untouched : report.untouched = g.order.filter (· ∉ g.reachable start)
  moved : ∀ n ∈ g.levels start, ∃ m, g.node? n.1 = some m ∧
    next.node? n.1 = some { m with position := spot placement (g.levels start) n }
  agrees : ∀ n ∈ g.levels start, report.positionOf n.1 = (next.node? n.1).map (·.position)
  still : ∀ id ∉ g.reachable start, next.node? id = g.node? id ∧ report.positionOf id = none
  rest : ∃ nodes, next = { g with nodes }

attribute [ext] Report

end Layout

namespace Graph

variable {α : Type} {g : Graph α} {start : NodeId}

/-! ## The layout of a sound store -/

theorem lt_columns_iff (present : start ∈ g.nodes) (level : Nat) :
    level < (g.levels start).foldl (fun n l => max n (l.2 + 1)) 0 ↔ ∃ n ∈ g.levels start, n.2 = level := by
  rw [Layout.lt_foldl_iff]
  constructor
  · rintro (less | ⟨n, hn, most⟩)
    · exact absurd less (Nat.not_lt_zero level)
    · exact Layout.exists_level (g.isChain_levels start) (head?_levels present) hn (Nat.zero_le level) most
  · rintro ⟨n, hn, rfl⟩
    exact .inr ⟨n, hn, Nat.le_refl _⟩

theorem nodup_levels (present : start ∈ g.nodes) : (g.levels start).Nodup := (nodup_reachable present).of_map

theorem grid_levels (present : start ∈ g.nodes) : Layout.grid (g.levels start) =
    (g.levels start).map fun n => (n.1, n.2, Layout.row (g.levels start) n) :=
  Layout.grid_eq (nodup_levels present) (Adjacency.sorted_of_isChain (g.isChain_levels start)) (lt_columns_iff present)

theorem mem_grid (present : start ∈ g.nodes) {n : NodeId × Nat} (hn : n ∈ g.levels start) :
    (n.1, n.2, Layout.row (g.levels start) n) ∈ Layout.grid (g.levels start) := by
  rw [grid_levels present]
  exact List.mem_map_of_mem hn

variable [Scalar α]

theorem exists_arrange_eq (g : Graph α) (placement : PlacementSettings α) :
    ∃ nodes, (Layout.arrange g placement).2 = { g with nodes } := by
  refine arrange_induction (P := fun next => ∃ nodes, next = { g with nodes }) (fun next id position h => ?_) placement
    ⟨g.nodes, rfl⟩
  obtain ⟨nodes, rfl⟩ := h
  rcases ({ g with nodes } : Graph α).moveNode_amends id position with ⟨-, e⟩ | ⟨n, answer, -, e⟩ <;> rw [e]
  · exact ⟨nodes, rfl⟩
  · exact ⟨_, rfl⟩

theorem arrange_snd (noted : g.startId = some start) (placement : PlacementSettings α) :
    (Layout.arrange g placement).2 = ((Layout.grid (g.levels start)).foldl (Layout.settle placement) ([], g)).2 := by
  rw [Layout.arrange, noted]

theorem arrange_columns (noted : g.startId = some start) (placement : PlacementSettings α) :
    (Layout.arrange g placement).1.columns = (g.levels start).foldl (fun n l => max n (l.2 + 1)) 0 := by
  rw [Layout.arrange, noted]

theorem Sound.lt_columns_arrange (h : g.Sound) (noted : g.startId = some start) (placement : PlacementSettings α)
    (level : Nat) : level < (Layout.arrange g placement).1.columns ↔ ∃ n ∈ g.levels start, n.2 = level := by
  rw [arrange_columns noted]
  exact lt_columns_iff (h.start_mem noted) level

/-- A layout has a column for each distance up to the largest. -/
theorem Sound.columns_arrange (h : g.Sound) (noted : g.startId = some start) (placement : PlacementSettings α) :
    ∃ n ∈ g.levels start, (Layout.arrange g placement).1.columns = n.2 + 1 ∧ ∀ m ∈ g.levels start, m.2 ≤ n.2 := by
  have count := h.lt_columns_arrange noted placement
  have first : (start, 0) ∈ g.levels start := List.mem_of_head? (head?_levels (h.start_mem noted))
  have some : 0 < (Layout.arrange g placement).1.columns := (count 0).2 ⟨_, first, rfl⟩
  obtain ⟨n, hn, last⟩ := (count ((Layout.arrange g placement).1.columns - 1)).1 (by omega)
  refine ⟨n, hn, by omega, fun m hm => ?_⟩
  have := (count m.2).2 ⟨m, hm, rfl⟩
  omega

/-- A layout reports the spots of the nodes, in the order of the levels. -/
theorem Sound.placed_arrange (h : g.Sound) (noted : g.startId = some start) (placement : PlacementSettings α) :
    (Layout.arrange g placement).1.placed = (g.levels start).map fun n =>
      (n.1, Layout.spot placement (g.levels start) n) := by
  rw [h.placed_eq noted, grid_levels (h.start_mem noted), List.map_map]
  exact List.map_congr_left fun n _ => congrArg (n.1, ·) (Layout.clamp_cell placement n)

/-- **A layout moves a node to its spot.** -/
theorem Sound.node?_arrange (h : g.Sound) (noted : g.startId = some start) (placement : PlacementSettings α)
    {n : NodeId × Nat} (hn : n ∈ g.levels start) : ∃ m, g.node? n.1 = some m ∧
      (Layout.arrange g placement).2.node? n.1 =
        some { m with position := Layout.spot placement (g.levels start) n } := by
  have present := h.start_mem noted
  have listed : n.1 ∈ g.reachable start := List.mem_map_of_mem hn
  obtain ⟨m, found⟩ := (g.mem_nodes_iff n.1).1 (h.mem_of_path ((h.mem_reachable present n.1).1 listed) present)
  have distinct : ((Layout.grid (g.levels start)).map (·.1)).Nodup := by
    rw [Layout.map_fst_grid]
    exact nodup_reachable present
  refine ⟨m, found, ?_⟩
  rw [arrange_snd noted, Layout.node?_foldl_settle placement _ ([], g) distinct (mem_grid present hn), found,
    Layout.clamp_cell]
  rfl

/-- **A layout leaves a node that the start node does not lead to.** -/
theorem Sound.arrange_of_not_mem (h : g.Sound) (noted : g.startId = some start) (placement : PlacementSettings α)
    {id : NodeId} (other : id ∉ g.reachable start) : (Layout.arrange g placement).2.node? id = g.node? id ∧
      (Layout.arrange g placement).1.positionOf id = none := by
  constructor
  · rw [arrange_snd noted]
    refine Layout.node?_foldl_settle_of_not_mem placement _ _ ?_
    rwa [Layout.map_fst_grid]
  · rw [Layout.Report.positionOf, List.lookup_eq_none_iff]
    intro e he
    have listed : e.1 ∈ g.reachable start := by
      rw [← h.map_fst_placed noted placement]
      exact List.mem_map_of_mem he
    simpa using fun same : id = e.1 => other (same ▸ listed)

/-- **A layout goes by columns and rows.** -/
theorem Sound.arranged (h : g.Sound) (noted : g.startId = some start) (placement : PlacementSettings α) :
    Layout.Arranged g start placement (Layout.arrange g placement).1 (Layout.arrange g placement).2 where
  reached := h.mem_reachable (h.start_mem noted)
  distance _ hn := h.tabulated.isLeast_of_mem_levels (h.start_mem noted) hn
  rows := Layout.map_row (nodup_levels (h.start_mem noted))
  columns := h.columns_arrange noted placement
  filled level below := (h.lt_columns_arrange noted placement level).1 below
  placed := h.placed_arrange noted placement
  untouched := h.untouched_eq noted placement
  moved _ hn := h.node?_arrange noted placement hn
  agrees n hn := by
    obtain ⟨m, -, found⟩ := h.node?_arrange noted placement hn
    rw [found, Layout.Report.positionOf, h.placed_arrange noted,
      Layout.lookup_map_of_mem _ (nodup_reachable (h.start_mem noted)) hn]
    rfl
  still _ other := h.arrange_of_not_mem noted placement other
  rest := g.exists_arrange_eq placement

theorem Sound.levels_arrange (h : g.Sound) (noted : g.startId = some start) (placement : PlacementSettings α) :
    (Layout.arrange g placement).2.startId = some start ∧
      (Layout.arrange g placement).2.levels start = g.levels start := by
  obtain ⟨nodes, same⟩ := g.exists_arrange_eq placement
  have startId : (Layout.arrange g placement).2.startId = some start := by
    rw [same]
    exact noted
  have outgoing : (Layout.arrange g placement).2.outgoing = g.outgoing := by rw [same]
  refine ⟨startId, ?_⟩
  rw [levels_eq (h.start_mem noted), levels_eq ((h.arrange placement).start_mem startId), outgoing]

/-- **A layout that is done again changes nothing and says the same.** -/
theorem Sound.arrange_arrange (h : g.Sound) (noted : g.startId = some start) (placement : PlacementSettings α) :
    Layout.arrange (Layout.arrange g placement).2 placement = Layout.arrange g placement := by
  obtain ⟨startId, levels⟩ := h.levels_arrange noted placement
  have h' := h.arrange placement
  refine Prod.ext (Layout.Report.ext ?_ ?_ ?_) ?_
  · rw [h'.placed_arrange startId, h.placed_arrange noted, levels]
  · rw [arrange_columns startId, arrange_columns noted, levels]
  · rw [h'.untouched_eq startId, h.untouched_eq noted, reachable, levels, order_arrange]
    rfl
  · rw [arrange_snd startId, levels]
    refine Layout.snd_foldl_settle_of_placed placement _ _ fun n hn => ?_
    rw [grid_levels (h.start_mem noted)] at hn
    obtain ⟨k, hk, rfl⟩ := List.mem_map.1 hn
    obtain ⟨m, -, found⟩ := h.node?_arrange noted placement hk
    exact ⟨_, found, rfl⟩

/-- **Laying out is exact, and done once for all.**  The nodes that the start node leads to go to the spots of their
distances and of their places among the nodes as far away; the report says where, in the order they are come by; nothing
else changes.  Laying out again changes nothing and reports the same. -/
theorem laid_out_in_columns (g : Graph α) (reached : g.Reachable) {start : NodeId} (noted : g.startId = some start)
    (placement : PlacementSettings α) :
    Layout.Arranged g start placement (Layout.arrange g placement).1 (Layout.arrange g placement).2 ∧
    Layout.arrange (Layout.arrange g placement).2 placement = Layout.arrange g placement :=
  ⟨reached.sound.arranged noted placement, reached.sound.arrange_arrange noted placement⟩

theorem laid_out_in_columns_of_shortcut : ∃ g : Graph Float, g.Reachable ∧ g.startId = some (.numbered 1) ∧
    let p : PlacementSettings Float := { PlacementSettings.standard with layoutOrigin := ⟨-100, 50⟩ }
    (Layout.arrange g p).1.placed = [(.numbered 1, ⟨0, 50⟩), (.numbered 2, ⟨200, 50⟩), (.numbered 3, ⟨200, 170⟩),
      (.numbered 4, ⟨500, 50⟩)] ∧
    ((Layout.arrange g p).2.node? (.numbered 3)).map (·.position) = some ⟨200, 170⟩ ∧
    (Layout.arrange g p).1.untouched = [.numbered 5] ∧
    (Layout.arrange g p).2.node? (.numbered 5) = g.node? (.numbered 5) ∧
    Layout.arrange (Layout.arrange g p).2 p = Layout.arrange g p := by
  let g : Graph Float := (withStart ⟨∅⟩ ⟨5, 7⟩).after [.createNode (.action "click") ⟨1, 2⟩,
    .createNode (.action "wait") ⟨3, 4⟩, .createNode (.action "stop") ⟨5, 6⟩, .createNode (.action "wait") ⟨8, 9⟩,
    .createEdge (.numbered 1) (.numbered 2) .success, .createEdge (.numbered 2) (.numbered 3) .success,
    .createEdge (.numbered 3) (.numbered 4) .success, .createEdge (.numbered 1) (.numbered 3) .error]
  have reached : g.Reachable := (Reachable.withStart ⟨∅⟩ ⟨5, 7⟩).after _
  have noted : g.startId = some (.numbered 1) := by decide +kernel
  have levels : g.levels (.numbered 1) =
      [(.numbered 1, 0), (.numbered 2, 1), (.numbered 3, 1), (.numbered 4, 2)] := by decide +kernel
  have apart : .numbered 5 ∉ g.reachable (.numbered 1) := by decide +kernel
  let p : PlacementSettings Float := { PlacementSettings.standard with layoutOrigin := ⟨-100, 50⟩ }
  obtain ⟨arranged, again⟩ := laid_out_in_columns g reached noted p
  obtain ⟨n, -, moved⟩ := arranged.moved (.numbered 3, 1) (by simp [levels])
  refine ⟨g, reached, noted, ?_, ?_, ?_, (arranged.still _ apart).1, again⟩
  · rw [arranged.placed, levels]
    decide +kernel
  · rw [moved, levels]
    show some (Layout.spot p _ _) = _
    decide +kernel
  · rw [arranged.untouched]
    decide +kernel

end Graph

end Workflow
