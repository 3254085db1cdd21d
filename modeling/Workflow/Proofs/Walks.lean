import Workflow.Proofs.Search
/-!
# What a walk comes by

Walks from a node, of either kind, list what it leads to and nothing else, each node once.

A depth-first walk marks a node when it takes it off the stack and never goes on from it again.  In which order it
stacks the nodes an edge away makes no difference to that (`Explores`), so the run order and the order in which the
cycle search goes through a table are two cases of one argument.  A breadth-first walk marks nodes when it queues them,
so all that it has queued is marked and nothing is queued twice.  After the nodes that wait it lists the new targets of
the edges that leave the nodes it lists, gone through in turn (`levelOrder_eq`); most else is read off that equation.
-/
namespace Workflow.Adjacency

open Relation (ReflTransGen)

variable {a : Adjacency}

/-- A closed list of nodes that a node leads to, itself among them, is all that it leads to. -/
theorem mem_iff_path {start : NodeId} {l : List NodeId} (first : start ∈ l)
    (path : ∀ v ∈ l, ReflTransGen a.Next start v) (closed : a.Closed (· ∈ l)) (v : NodeId) :
    v ∈ l ↔ ReflTransGen a.Next start v :=
  ⟨path v, fun h => closed.of_path h first⟩

theorem mem_insert_nodeSet (s : NodeSet) (id v : NodeId) : v ∈ s.insert id ↔ v = id ∨ v ∈ s := by
  rw [Std.ExtTreeSet.mem_insert, Std.LawfulEqCmp.compare_eq_iff_eq, eq_comm]

/-! ## Depth first -/

/-- A depth-first walk: it takes the nodes off a stack, leaves out those that are visited, and stacks the nodes an edge
away from the others, in any order. -/
inductive Explores (a : Adjacency) : NodeSet → List NodeId → List NodeId → Prop
  | done (visited : NodeSet) : Explores a visited [] []
  | seen {visited : NodeSet} {id : NodeId} {stack order : List NodeId} (old : id ∈ visited) :
    Explores a visited stack order → Explores a visited (id :: stack) order
  | visit {visited : NodeSet} {id : NodeId} {next stack order : List NodeId} (new : id ∉ visited)
    (all : ∀ v, v ∈ next ↔ a.Next id v) :
    Explores a (visited.insert id) (next ++ stack) order → Explores a visited (id :: stack) (id :: order)

namespace Explores

variable {visited : NodeSet} {stack order : List NodeId}

theorem path (walk : a.Explores visited stack order) : ∀ v ∈ order, ∃ s ∈ stack, ReflTransGen a.Next s v := by
  induction walk with
  | done visited => exact fun v hv => (List.not_mem_nil hv).elim
  | seen old walk ih =>
    intro v hv
    obtain ⟨s, hs, path⟩ := ih v hv
    exact ⟨s, List.mem_cons_of_mem _ hs, path⟩
  | @visit visited id next stack order new all walk ih =>
    intro v hv
    rcases List.mem_cons.1 hv with rfl | hv
    · exact ⟨v, List.mem_cons_self, .refl⟩
    · obtain ⟨s, hs, path⟩ := ih v hv
      rcases List.mem_append.1 hs with hs | hs
      · exact ⟨id, List.mem_cons_self, .head ((all s).1 hs) path⟩
      · exact ⟨s, List.mem_cons_of_mem _ hs, path⟩

theorem not_mem_visited (walk : a.Explores visited stack order) : ∀ v ∈ order, v ∉ visited := by
  induction walk with
  | done visited => exact fun v hv => (List.not_mem_nil hv).elim
  | seen old walk ih => exact ih
  | visit new all walk ih =>
    intro v hv
    rcases List.mem_cons.1 hv with rfl | hv
    · exact new
    · have later := ih v hv
      exact fun old => later (by simp [old])

theorem nodup (walk : a.Explores visited stack order) : order.Nodup := by
  induction walk with
  | done visited => exact List.nodup_nil
  | seen old walk ih => exact ih
  | visit new all walk ih =>
    refine List.nodup_cons.2 ⟨fun again => ?_, ih⟩
    exact walk.not_mem_visited _ again (by simp)

theorem mem_cons_of_insert {id v : NodeId} (found : v ∈ visited.insert id ∨ v ∈ order) :
    v ∈ visited ∨ v ∈ id :: order := by
  rw [mem_insert_nodeSet] at found
  rcases found with (rfl | old) | later
  · exact .inr List.mem_cons_self
  · exact .inl old
  · exact .inr (List.mem_cons_of_mem _ later)

theorem mem_of_mem_stack (walk : a.Explores visited stack order) : ∀ v ∈ stack, v ∈ visited ∨ v ∈ order := by
  induction walk with
  | done visited => exact fun v hv => (List.not_mem_nil hv).elim
  | seen old walk ih =>
    intro v hv
    rcases List.mem_cons.1 hv with rfl | hv
    · exact .inl old
    · exact ih v hv
  | @visit visited id next stack order new all walk ih =>
    intro v hv
    rcases List.mem_cons.1 hv with rfl | hv
    · exact .inr List.mem_cons_self
    · exact mem_cons_of_insert (ih v (List.mem_append_right _ hv))

/-- Every edge that leaves a node on the walk leads to one that was visited before or is on the walk. -/
theorem closed (walk : a.Explores visited stack order) :
    ∀ u ∈ order, ∀ v, a.Next u v → v ∈ visited ∨ v ∈ order := by
  induction walk with
  | done visited => exact fun u hu => (List.not_mem_nil hu).elim
  | seen old walk ih => exact ih
  | @visit visited id next stack order new all walk ih =>
    intro u hu v edge
    refine mem_cons_of_insert ?_
    rcases List.mem_cons.1 hu with rfl | hu
    · exact walk.mem_of_mem_stack v (List.mem_append_left _ ((all v).2 edge))
    · exact ih u hu v edge

/-- **A depth-first walk from a node comes by what it leads to.** -/
theorem mem_iff {start : NodeId} (walk : a.Explores ∅ [start] order) (v : NodeId) :
    v ∈ order ↔ ReflTransGen a.Next start v := by
  have none : ∀ v, v ∉ (∅ : NodeSet) := fun v => by simp
  refine mem_iff_path ?_ (fun v hv => ?_) (fun u hu e he => ?_) v
  · exact (walk.mem_of_mem_stack start List.mem_cons_self).resolve_left (none start)
  · obtain ⟨s, hs, path⟩ := walk.path v hv
    rwa [List.mem_singleton.1 hs] at path
  · exact (walk.closed u hu e.target ⟨e, he, rfl⟩).resolve_left (none e.target)

end Explores

/-! ### The run order -/

theorem mem_branches (a : Adjacency) (id v : NodeId) : v ∈ a.branches id ↔ a.Next id v := by
  simp only [branches, List.mem_map, List.mem_append, List.mem_filter, Next]
  constructor
  · rintro ⟨e, he | he, target⟩
    · exact ⟨e, he.1, target⟩
    · exact ⟨e, he.1, target⟩
  · rintro ⟨e, he, target⟩
    refine ⟨e, ?_, target⟩
    cases h : e.outcome
    · exact .inl ⟨he, rfl⟩
    · exact .inr ⟨he, rfl⟩

theorem explores_runOrder (a : Adjacency) (visited : NodeSet) (stack : List NodeId) :
    a.Explores visited stack (a.runOrder visited stack) := by
  fun_induction runOrder a visited stack with
  | case1 visited => exact .done visited
  | case2 visited id stack old ih => exact .seen old ih
  | case3 visited id stack new ih => exact .visit new (a.mem_branches id) ih

/-! ### The cycle search -/

/-- The nodes in the order in which the cycle search takes them off its stack, if it does not come by its goal. -/
def searchOrder (a : Adjacency) (visited : NodeSet) : List NodeId → List NodeId
  | [] => []
  | id :: stack =>
    if _ : id ∈ visited then searchOrder a visited stack
    else id :: searchOrder a (visited.insert id) (((a.successors id).map (·.target)).reverse ++ stack)
termination_by stack => a.backlog visited + stack.length
decreasing_by
  · simp
  · next new =>
    have := a.backlog_insert new
    simp only [List.length_append, List.length_reverse, List.length_map, List.length_cons]
    omega

theorem explores_searchOrder (a : Adjacency) (visited : NodeSet) (stack : List NodeId) :
    a.Explores visited stack (a.searchOrder visited stack) := by
  fun_induction searchOrder a visited stack with
  | case1 visited => exact .done visited
  | case2 visited id stack old ih => exact .seen old ih
  | case3 visited id stack new ih => exact .visit new (fun v => by simp [Next]) ih

/-- **The cycle search goes through this order until it comes by its goal.** -/
theorem leadsTo_iff_mem (a : Adjacency) {goal : NodeId} {visited : NodeSet} (unseen : goal ∉ visited)
    (stack : List NodeId) : a.leadsTo goal visited stack = true ↔ goal ∈ a.searchOrder visited stack := by
  fun_induction leadsTo a goal visited stack with
  | case1 => simp [searchOrder]
  | case2 visited stack =>
    rw [searchOrder, dif_neg unseen]
    simp
  | case3 visited id stack differs old ih => rw [searchOrder, dif_pos old, ih unseen]
  | case4 visited id stack differs new ih =>
    have other : goal ≠ id := fun same => differs same.symm
    rw [searchOrder, dif_neg new, ih (by simp [unseen, differs]), List.mem_cons, or_iff_right other]

/-! ## Breadth first -/

theorem mem_markNew (marked : NodeSet) (edges : List Edge) (v : NodeId) :
    (v ∈ (markNew marked edges).1 ↔ v ∈ marked ∨ v ∈ (markNew marked edges).2) ∧
      (v ∈ (markNew marked edges).2 ↔ v ∉ marked ∧ ∃ e ∈ edges, e.target = v) := by
  induction edges generalizing marked with
  | nil => simp [markNew]
  | cons e edges ih =>
    rw [markNew]
    split
    · next old =>
      obtain ⟨all, new⟩ := ih marked
      refine ⟨all, new.trans (and_congr_right fun unmarked => ?_)⟩
      have other : e.target ≠ v := fun same => unmarked (same ▸ old)
      simp [other]
    · next fresh =>
      obtain ⟨all, new⟩ := ih (marked.insert e.target)
      rw [mem_insert_nodeSet] at all new
      simp only [List.mem_cons]
      by_cases same : e.target = v
      · subst same
        simp [all, fresh]
      · have other : v ≠ e.target := fun h => same h.symm
        simp [all, new, same, other]

theorem nodup_markNew (marked : NodeSet) (edges : List Edge) : (markNew marked edges).2.Nodup := by
  induction edges generalizing marked with
  | nil => exact List.nodup_nil
  | cons e edges ih =>
    rw [markNew]
    split
    · exact ih marked
    · refine List.nodup_cons.2 ⟨fun again => ?_, ih _⟩
      have unmarked := ((mem_markNew (marked.insert e.target) edges e.target).2.1 again).1
      exact unmarked (by simp)

theorem markNew_append (marked : NodeSet) (l l' : List Edge) : markNew marked (l ++ l') =
    ((markNew (markNew marked l).1 l').1, (markNew marked l).2 ++ (markNew (markNew marked l).1 l').2) := by
  induction l generalizing marked with
  | nil => rfl
  | cons e l ih =>
    rw [List.cons_append, markNew, markNew]
    split
    · exact ih marked
    · rw [ih]
      rfl

def levelOrder (a : Adjacency) (marked : NodeSet) (queue : List (NodeId × Nat)) : List NodeId :=
  (a.levelsFrom marked queue).map (·.1)

theorem map_fst_requeue (queue : List (NodeId × Nat)) (new : List NodeId) (level : Nat) :
    (queue ++ new.map fun next => (next, level + 1)).map (·.1) = queue.map (·.1) ++ new := by
  rw [List.map_append, List.map_map]
  exact congrArg _ (List.map_id' new)

/-- **The rest of the walk is told by the edges that leave what it lists**, gone through in turn. -/
theorem levelOrder_eq (a : Adjacency) (marked : NodeSet) (queue : List (NodeId × Nat)) : a.levelOrder marked queue =
    queue.map (·.1) ++ (markNew marked ((a.levelOrder marked queue).flatMap a.successors)).2 := by
  unfold levelOrder
  fun_induction levelsFrom a marked queue with
  | case1 marked => rfl
  | case2 marked id level queue met ih =>
    rw [map_fst_requeue] at ih
    rw [List.map_cons, List.flatMap_cons, markNew_append]
    refine (congrArg (id :: ·) ih).trans ?_
    rw [List.map_cons, List.cons_append, List.append_assoc]

theorem mem_levelOrder_iff (a : Adjacency) (marked : NodeSet) (queue : List (NodeId × Nat)) (v : NodeId) :
    v ∈ a.levelOrder marked queue ↔
      v ∈ queue.map (·.1) ∨ v ∉ marked ∧ ∃ u ∈ a.levelOrder marked queue, a.Next u v := by
  have leaving (l : List NodeId) : (∃ e ∈ l.flatMap a.successors, e.target = v) ↔ ∃ u ∈ l, a.Next u v := by
    constructor
    · rintro ⟨e, he, target⟩
      obtain ⟨u, hu, leaves⟩ := List.mem_flatMap.1 he
      exact ⟨u, hu, e, leaves, target⟩
    · rintro ⟨u, hu, e, leaves, target⟩
      exact ⟨e, List.mem_flatMap.2 ⟨u, hu, leaves⟩, target⟩
  calc v ∈ a.levelOrder marked queue
    _ ↔ v ∈ queue.map (·.1) ++ (markNew marked ((a.levelOrder marked queue).flatMap a.successors)).2 := by
      rw [← levelOrder_eq]
    _ ↔ v ∈ queue.map (·.1) ∨ v ∉ marked ∧ ∃ u ∈ a.levelOrder marked queue, a.Next u v := by
      rw [List.mem_append, (mem_markNew ..).2, leaving]

theorem path_of_mem_levelOrder (a : Adjacency) (marked : NodeSet) (queue : List (NodeId × Nat)) :
    ∀ v ∈ a.levelOrder marked queue, ∃ s ∈ queue.map (·.1), ReflTransGen a.Next s v := by
  unfold levelOrder
  fun_induction levelsFrom a marked queue with
  | case1 marked => exact fun v hv => (List.not_mem_nil hv).elim
  | case2 marked id level queue met ih =>
    intro v hv
    rw [List.map_cons, List.mem_cons] at hv
    rcases hv with rfl | hv
    · exact ⟨v, List.mem_cons_self, .refl⟩
    · obtain ⟨s, hs, path⟩ := ih v hv
      rw [map_fst_requeue] at hs
      rcases List.mem_append.1 hs with hs | hs
      · exact ⟨s, List.mem_cons_of_mem _ hs, path⟩
      · obtain ⟨-, e, he, target⟩ := (mem_markNew marked (a.successors id) s).2.1 hs
        exact ⟨id, List.mem_cons_self, .head ⟨e, he, target⟩ path⟩

/-- Every edge that leaves a node on the walk leads to one that was marked before or is on the walk. -/
theorem closed_levelOrder (a : Adjacency) (marked : NodeSet) (queue : List (NodeId × Nat)) {u : NodeId}
    (hu : u ∈ a.levelOrder marked queue) {v : NodeId} (edge : a.Next u v) :
    v ∈ marked ∨ v ∈ a.levelOrder marked queue :=
  (Classical.em _).imp_right fun unmarked => (a.mem_levelOrder_iff marked queue v).2 (.inr ⟨unmarked, u, hu, edge⟩)

/-- What waits is marked, so that it is queued only once. -/
theorem nodup_levelOrder (a : Adjacency) {marked : NodeSet} {queue : List (NodeId × Nat)}
    (distinct : (queue.map (·.1)).Nodup) (waiting : ∀ v ∈ queue.map (·.1), v ∈ marked) :
    (a.levelOrder marked queue).Nodup := by
  rw [levelOrder_eq]
  refine List.nodup_append.2 ⟨distinct, nodup_markNew _ _, fun v hv w hw same => ?_⟩
  exact ((mem_markNew _ _ w).2.1 hw).1 (same ▸ waiting v hv)

/-- **A breadth-first walk from a node comes by what it leads to, each node once.** -/
theorem levelOrder_singleton (a : Adjacency) (start : NodeId) :
    (a.levelOrder ((∅ : NodeSet).insert start) [(start, 0)]).Nodup ∧
      ∀ v, v ∈ a.levelOrder ((∅ : NodeSet).insert start) [(start, 0)] ↔ ReflTransGen a.Next start v := by
  have first : start ∈ a.levelOrder ((∅ : NodeSet).insert start) [(start, 0)] :=
    (a.mem_levelOrder_iff _ _ start).2 (.inl List.mem_cons_self)
  have marked : ∀ v, v ∈ (∅ : NodeSet).insert start ↔ v = start := fun v => by
    rw [mem_insert_nodeSet]
    simp
  refine ⟨a.nodup_levelOrder (List.pairwise_singleton _ _) fun v hv => ?_,
    mem_iff_path first (fun v hv => ?_) fun u hu e he => ?_⟩
  · exact (marked v).2 (List.mem_singleton.1 hv)
  · obtain ⟨s, hs, path⟩ := a.path_of_mem_levelOrder _ _ v hv
    rwa [List.mem_singleton.1 hs] at path
  · rcases a.closed_levelOrder _ _ hu ⟨e, he, rfl⟩ with same | later
    · rw [(marked e.target).1 same]
      exact first
    · exact later

end Workflow.Adjacency
