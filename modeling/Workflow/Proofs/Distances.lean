import Mathlib.Data.List.Nodup
import Mathlib.Order.Bounds.Basic
import Workflow.Proofs.Traversals
/-!
# Distances

A breadth-first walk lists what a node leads to by distance.  Its queue is in order (`Adjacency.Waiting`), so the list
it makes is in order too, and the end of an edge is listed at most one step further away than its beginning
(`le_of_next`).  By induction along a path no path is shorter than the distance listed, and one is as long
(`isLeast_of_mem_levels`).

In which order equally near nodes come is told by the edges alone.  The nodes after the first are the targets of the
edges that leave the listed nodes, gone through in turn, each where it is come by first (`Adjacency.levelOrder_eq`).
So two of them stand as the first edges to them do (`firstEdge`).
-/
namespace Workflow

open Relation (ReflTransGen)

/-- There is a path of so many steps. -/
inductive Hops (r : NodeId → NodeId → Prop) (start : NodeId) : Nat → NodeId → Prop
  | none : Hops r start 0 start
  | more {count : Nat} {u v : NodeId} : Hops r start count u → r u v → Hops r start (count + 1) v

theorem Hops.path {r : NodeId → NodeId → Prop} {start v : NodeId} {count : Nat} (hops : Hops r start count v) :
    ReflTransGen r start v := by
  induction hops with
  | none => exact .refl
  | more _ step ih => exact ih.tail step

namespace Adjacency

variable {a : Adjacency} {marked : NodeSet} {queue : List (NodeId × Nat)} {start : NodeId}

/-! ## The levels in order -/

theorem head?_levelsFrom (a : Adjacency) (marked : NodeSet) (queue : List (NodeId × Nat)) :
    (a.levelsFrom marked queue).head? = queue.head? := by
  cases queue with
  | nil => rw [levelsFrom]
  | cons first queue =>
    rw [levelsFrom]
    rfl

theorem mem_levelsFrom_of_mem (a : Adjacency) (marked : NodeSet) (queue : List (NodeId × Nat)) :
    ∀ n ∈ queue, n ∈ a.levelsFrom marked queue := by
  fun_induction levelsFrom a marked queue with
  | case1 marked => exact fun n hn => hn
  | case2 marked id level queue met ih =>
    intro n hn
    refine List.mem_cons.2 ((List.mem_cons.1 hn).imp_right fun hn => ih n ?_)
    exact List.mem_append_left _ hn

/-- A queue between two steps: what waits is marked and waits once, and no node is nearer than one before it, nor
further away by more than a step. -/
structure Waiting (marked : NodeSet) (queue : List (NodeId × Nat)) : Prop where
  distinct : (queue.map (·.1)).Nodup
  marked : ∀ v ∈ queue.map (·.1), v ∈ marked
  steady : queue.Pairwise fun m n => m.2 ≤ n.2 ∧ n.2 ≤ m.2 + 1

theorem waiting_singleton (start : NodeId) : Waiting ((∅ : NodeSet).insert start) [(start, 0)] where
  distinct := List.pairwise_singleton _ start
  marked v hv := by
    rw [List.mem_singleton.1 hv]
    exact (mem_insert_nodeSet ..).2 (.inl rfl)
  steady := List.pairwise_singleton _ _

/-- **The queue stays in order** when the first node is taken off it and what it newly leads to goes to its end. -/
theorem Waiting.next {marked : NodeSet} {id : NodeId} {level : Nat} {queue : List (NodeId × Nat)}
    (h : Waiting marked ((id, level) :: queue)) (edges : List Edge) : Waiting (markNew marked edges).1
      (queue ++ (markNew marked edges).2.map fun next => (next, level + 1)) := by
  have facts := mem_markNew marked edges
  obtain ⟨distinct, queued, steady⟩ := h
  rw [List.map_cons, List.nodup_cons] at distinct
  rw [List.map_cons, List.forall_mem_cons] at queued
  rw [List.pairwise_cons] at steady
  refine ⟨?_, fun v hv => ?_, ?_⟩
  · rw [map_fst_requeue]
    refine List.nodup_append.2 ⟨distinct.2, nodup_markNew _ _, fun v hv w hw same => ?_⟩
    exact ((facts w).2.1 hw).1 (same ▸ queued.2 v hv)
  · rw [map_fst_requeue] at hv
    rcases List.mem_append.1 hv with hv | hv
    · exact (facts v).1.2 (.inl (queued.2 v hv))
    · exact (facts v).1.2 (.inr hv)
  · refine List.pairwise_append.2 ⟨steady.2, ?_, fun m hm n hn => ?_⟩
    · exact List.pairwise_map.2 (List.pairwise_of_forall fun _ _ => by simp)
    · obtain ⟨v, -, rfl⟩ := List.mem_map.1 hn
      have := steady.1 m hm
      dsimp only at this ⊢
      omega

/-- What waits once a node is done with is as far away as that node, or a step further. -/
theorem Waiting.near {id : NodeId} {level : Nat} (h : Waiting marked ((id, level) :: queue)) (new : List NodeId) :
    ∀ n ∈ queue ++ new.map (fun next => (next, level + 1)), level ≤ n.2 ∧ n.2 ≤ level + 1 := by
  intro n hn
  rcases List.mem_append.1 hn with waits | new
  · exact (List.pairwise_cons.1 h.steady).1 n waits
  · obtain ⟨v, -, rfl⟩ := List.mem_map.1 new
    exact ⟨Nat.le_succ level, Nat.le_refl _⟩

/-- **The walk goes by distance**, a step at a time. -/
theorem isChain_levelsFrom (h : Waiting marked queue) :
    (a.levelsFrom marked queue).IsChain fun m n => m.2 ≤ n.2 ∧ n.2 ≤ m.2 + 1 := by
  fun_induction levelsFrom a marked queue with
  | case1 marked => exact .nil
  | case2 marked id level queue met ih =>
    refine List.isChain_cons.2 ⟨fun n hn => h.near met.2 n ?_, ih (h.next _)⟩
    rw [head?_levelsFrom] at hn
    exact List.mem_of_head? hn

theorem sorted_of_isChain {levels : List (NodeId × Nat)}
    (chain : levels.IsChain fun m n => m.2 ≤ n.2 ∧ n.2 ≤ m.2 + 1) : levels.Pairwise fun m n => m.2 ≤ n.2 := by
  have : IsTrans (NodeId × Nat) fun m n => m.2 ≤ n.2 := ⟨fun _ _ _ => Nat.le_trans⟩
  exact List.isChain_iff_pairwise.1 (chain.imp fun _ _ => And.left)

/-! ## The levels are distances -/

theorem hops_of_mem (hops : ∀ n ∈ queue, Hops a.Next start n.2 n.1) :
    ∀ n ∈ a.levelsFrom marked queue, Hops a.Next start n.2 n.1 := by
  fun_induction levelsFrom a marked queue with
  | case1 marked => exact hops
  | case2 marked id level queue met ih =>
    rw [List.forall_mem_cons] at hops ⊢
    refine ⟨hops.1, ih fun n hn => ?_⟩
    rcases List.mem_append.1 hn with waits | new
    · exact hops.2 n waits
    · obtain ⟨v, hv, rfl⟩ := List.mem_map.1 new
      obtain ⟨-, e, he, target⟩ := (mem_markNew marked (a.successors id) v).2.1 hv
      exact .more hops.1 ⟨e, he, target⟩

theorem eq_of_mem_levelsFrom (h : Waiting marked queue) {m n : NodeId × Nat} (hm : m ∈ a.levelsFrom marked queue)
    (hn : n ∈ a.levelsFrom marked queue) (same : m.1 = n.1) : m = n :=
  List.inj_on_of_nodup_map (a.nodup_levelOrder h.distinct h.marked) hm hn same

/-- **An edge leads at most one step further away.** -/
theorem le_of_next (h : Waiting marked queue) : ∀ m ∈ a.levelsFrom marked queue, ∀ n ∈ a.levelsFrom marked queue,
    a.Next m.1 n.1 → n.2 ≤ m.2 + 1 := by
  have sorted := sorted_of_isChain (isChain_levelsFrom (a := a) h)
  fun_induction levelsFrom a marked queue with
  | case1 marked => exact fun m hm => (List.not_mem_nil hm).elim
  | case2 marked id level queue met ih =>
    have later := h.next (a.successors id)
    obtain ⟨first, sorted⟩ := List.pairwise_cons.1 sorted
    intro m hm n hn edge
    rcases List.mem_cons.1 hm with rfl | hm <;> rcases List.mem_cons.1 hn with rfl | hn
    · exact Nat.le_succ level
    · -- the node at the other end is marked, and not listed yet, so it waits
      obtain ⟨e, he, target⟩ := edge
      obtain ⟨all, new⟩ := mem_markNew marked (a.successors id) n.1
      have mark : n.1 ∈ met.1 := all.2 ((em _).imp_right fun old => new.2 ⟨old, e, he, target⟩)
      have waits := ((a.mem_levelOrder_iff _ _ n.1).1 (List.mem_map_of_mem hn)).resolve_right fun new => new.1 mark
      obtain ⟨k, hk, same⟩ := List.mem_map.1 waits
      rw [← eq_of_mem_levelsFrom later (a.mem_levelsFrom_of_mem _ _ k hk) hn same]
      exact (h.near met.2 k hk).2
    · exact Nat.le_succ_of_le (first m hm)
    · exact ih later sorted m hm n hn edge

theorem le_of_hops {count : Nat} {v : NodeId} (hops : Hops a.Next start count v) :
    ∀ n ∈ a.levelsFrom ((∅ : NodeSet).insert start) [(start, 0)], n.1 = v → n.2 ≤ count := by
  have h := waiting_singleton start
  induction hops with
  | none =>
    intro n hn same
    have first := a.mem_levelsFrom_of_mem ((∅ : NodeSet).insert start) _ _ (List.mem_singleton_self (start, 0))
    rw [eq_of_mem_levelsFrom h hn first same]
  | more before edge ih =>
    rintro n hn rfl
    obtain ⟨m, hm, rfl⟩ := List.mem_map.1 (((a.levelOrder_singleton start).2 _).2 before.path)
    exact Nat.le_trans (le_of_next h m hm n hn edge) (Nat.succ_le_succ (ih m hm rfl))

/-- **What a node leads to is listed with its distance.** -/
theorem isLeast_of_mem {n : NodeId × Nat} (hn : n ∈ a.levelsFrom ((∅ : NodeSet).insert start) [(start, 0)]) :
    IsLeast { count | Hops a.Next start count n.1 } n.2 := by
  refine ⟨hops_of_mem (fun m hm => ?_) n hn, fun count hops => le_of_hops hops n hn rfl⟩
  rw [List.mem_singleton.1 hm]
  exact .none

/-! ## The order of equally near nodes -/

/-- Newly marked nodes stand in the order of the first edges to them. -/
theorem pairwise_markNew (marked : NodeSet) (edges : List Edge) : (markNew marked edges).2.Pairwise fun v w =>
    edges.findIdx (·.target = v) < edges.findIdx (·.target = w) := by
  induction edges generalizing marked with
  | nil => exact .nil
  | cons e edges ih =>
    -- the first edge leads to none of the nodes that are marked after it
    have skip {v : NodeId} (other : e.target ≠ v) :
        (e :: edges).findIdx (·.target = v) = edges.findIdx (·.target = v) + 1 := by
      simp [List.findIdx_cons, other]
    have apart (marked : NodeSet) (mark : e.target ∈ marked) : ∀ v ∈ (markNew marked edges).2, e.target ≠ v :=
      fun v hv same => ((mem_markNew marked edges v).2.1 hv).1 (same ▸ mark)
    have shift (marked : NodeSet) (mark : e.target ∈ marked) : (markNew marked edges).2.Pairwise fun v w =>
        (e :: edges).findIdx (·.target = v) < (e :: edges).findIdx (·.target = w) :=
      (ih marked).imp_of_mem fun hv hw before => by
        rw [skip (apart marked mark _ hv), skip (apart marked mark _ hw)]
        exact Nat.succ_lt_succ before
    rw [markNew]
    split
    · next old => exact shift marked old
    · have mark : e.target ∈ marked.insert e.target := (mem_insert_nodeSet ..).2 (.inl rfl)
      refine List.pairwise_cons.2 ⟨fun v hv => ?_, shift _ mark⟩
      rw [skip (apart _ mark v hv)]
      simp [List.findIdx_cons]

end Adjacency

/-- Where some nodes first lead to a node: the place among them of the first that has an edge there, and the place of
its first such edge among the edges that leave it. -/
def firstEdge (out : NodeId → List Edge) (ids : List NodeId) (v : NodeId) : Nat × Nat :=
  (ids.findIdx fun u => (out u).any (·.target = v),
    match ids.find? fun u => (out u).any (·.target = v) with
    | none => 0
    | some u => (out u).findIdx (·.target = v))

section FirstEdge

variable {out : NodeId → List Edge} {u v w : NodeId} {ids : List NodeId}

theorem firstEdge_cons_of_pos (leads : (out u).any (·.target = v) = true) :
    firstEdge out (u :: ids) v = (0, (out u).findIdx (·.target = v)) := by
  rw [firstEdge, List.findIdx_cons, List.find?_cons, leads]
  rfl

theorem firstEdge_cons_of_neg (elsewhere : (out u).any (·.target = v) = false) :
    firstEdge out (u :: ids) v = ((firstEdge out ids v).1 + 1, (firstEdge out ids v).2) := by
  rw [firstEdge, List.findIdx_cons, List.find?_cons, elsewhere]
  rfl

theorem findIdx_lt_of_any {edges : List Edge} (leads : edges.any (·.target = v) = true) :
    edges.findIdx (·.target = v) < edges.length :=
  List.findIdx_lt_length.2 (by simpa using leads)

theorem findIdx_append_of_pos {edges : List Edge} (leads : edges.any (·.target = v) = true) (rest : List Edge) :
    (edges ++ rest).findIdx (·.target = v) = edges.findIdx (·.target = v) := by
  rw [List.findIdx_append, if_pos (findIdx_lt_of_any leads)]

theorem findIdx_append_of_neg {edges : List Edge} (elsewhere : edges.any (·.target = v) = false) (rest : List Edge) :
    (edges ++ rest).findIdx (·.target = v) = rest.findIdx (·.target = v) + edges.length := by
  have none : ¬ edges.findIdx (·.target = v) < edges.length := by
    rw [List.findIdx_lt_length]
    simpa using elsewhere
  rw [List.findIdx_append, if_neg none]

/-- **An edge that is come by first leaves the earlier node, or the same node earlier.** -/
theorem lex_firstEdge (out : NodeId → List Edge) (ids : List NodeId)
    (before : (ids.flatMap out).findIdx (·.target = v) < (ids.flatMap out).findIdx (·.target = w)) :
    Prod.Lex (· < ·) (· < ·) (firstEdge out ids v) (firstEdge out ids w) := by
  induction ids with
  | nil => exact absurd before (Nat.lt_irrefl _)
  | cons u ids ih =>
    rw [List.flatMap_cons] at before
    cases hv : (out u).any (·.target = v) <;> cases hw : (out u).any (·.target = w)
    · rw [findIdx_append_of_neg hv, findIdx_append_of_neg hw] at before
      rw [firstEdge_cons_of_neg hv, firstEdge_cons_of_neg hw]
      have later := ih (by omega)
      rw [Prod.lex_def] at later ⊢
      omega
    · rw [findIdx_append_of_neg hv, findIdx_append_of_pos hw] at before
      have := findIdx_lt_of_any hw
      omega
    · rw [firstEdge_cons_of_pos hv, firstEdge_cons_of_neg hw]
      exact .left _ _ (Nat.succ_pos _)
    · rw [findIdx_append_of_pos hv, findIdx_append_of_pos hw] at before
      rw [firstEdge_cons_of_pos hv, firstEdge_cons_of_pos hw]
      exact .right 0 before

end FirstEdge

namespace Graph

variable {α : Type} {g : Graph α} {start : NodeId}

/-! ## The levels of a graph -/

def leaving (g : Graph α) (id : NodeId) : List Edge := g.edges.filter (·.source = id)

theorem Tabulated.successors_eq (h : g.Tabulated) : g.outgoing.successors = g.leaving := funext h

theorem levels_eq (present : start ∈ g.nodes) :
    g.levels start = g.outgoing.levelsFrom ((∅ : NodeSet).insert start) [(start, 0)] :=
  if_pos ((g.containsNode_iff start).2 present)

theorem levels_of_not_mem (absent : start ∉ g.nodes) : g.levels start = [] :=
  if_neg fun there => absent ((g.containsNode_iff start).1 there)

theorem head?_levels (present : start ∈ g.nodes) : (g.levels start).head? = some (start, 0) := by
  rw [levels_eq present, Adjacency.head?_levelsFrom]
  rfl

theorem isChain_levels (g : Graph α) (start : NodeId) :
    (g.levels start).IsChain fun m n => m.2 ≤ n.2 ∧ n.2 ≤ m.2 + 1 := by
  by_cases present : start ∈ g.nodes
  · rw [levels_eq present]
    exact Adjacency.isChain_levelsFrom (Adjacency.waiting_singleton start)
  · rw [levels_of_not_mem present]
    exact .nil

theorem Tabulated.isLeast_of_mem_levels (h : g.Tabulated) (present : start ∈ g.nodes) {n : NodeId × Nat}
    (hn : n ∈ g.levels start) : IsLeast { count | Hops g.Next start count n.1 } n.2 := by
  rw [levels_eq present] at hn
  rw [← h.next_eq]
  exact Adjacency.isLeast_of_mem hn

theorem Tabulated.tail_reachable (h : g.Tabulated) (present : start ∈ g.nodes) : (g.reachable start).tail =
    (Adjacency.markNew ((∅ : NodeSet).insert start) ((g.reachable start).flatMap g.leaving)).2 := by
  have whole := g.outgoing.levelOrder_eq ((∅ : NodeSet).insert start) [(start, 0)]
  rw [← reachable_eq present, h.successors_eq] at whole
  conv_lhs => rw [whole]
  rfl

/-- **Equally near nodes, and all others, stand in the order of the first edges to them.** -/
theorem Tabulated.pairwise_firstEdge (h : g.Tabulated) (present : start ∈ g.nodes) :
    (g.reachable start).tail.Pairwise fun v w => Prod.Lex (· < ·) (· < ·)
      (firstEdge g.leaving (g.reachable start) v) (firstEdge g.leaving (g.reachable start) w) := by
  have order := Adjacency.pairwise_markNew ((∅ : NodeSet).insert start) ((g.reachable start).flatMap g.leaving)
  rw [← h.tail_reachable present] at order
  exact order.imp fun before => lex_firstEdge _ _ before

theorem Tabulated.exists_next (h : g.Tabulated) (present : start ∈ g.nodes) {v : NodeId}
    (hv : v ∈ (g.reachable start).tail) : ∃ u ∈ g.reachable start, g.Next u v := by
  rw [h.tail_reachable present] at hv
  obtain ⟨-, e, he, target⟩ := (Adjacency.mem_markNew _ _ v).2.1 hv
  obtain ⟨u, hu, leaves⟩ := List.mem_flatMap.1 he
  obtain ⟨listed, source⟩ := List.mem_filter.1 leaves
  exact ⟨u, hu, e, listed, of_decide_eq_true source, target⟩

/-- **Levels are distances, in one order.**  Whether or not there are cycles, the nodes that a node leads to are listed
once each and nothing else is, each with the length of a shortest path there.  The node itself comes first and the
others by distance, a step at a time, and they stand in the order of the first edges to them: by the place in the list
of the first node with such an edge, then by the place of the edge among those that leave that node.  An unknown node
leads nowhere. -/
theorem levels_are_distances (g : Graph α) (tabulated : g.Tabulated)
    (ends : ∀ e ∈ g.edges, e.source ∈ g.nodes ∧ e.target ∈ g.nodes) (start : NodeId) :
    (start ∉ g.nodes → g.levels start = []) ∧
    (start ∈ g.nodes →
      ((g.levels start).map (·.1)).Nodup ∧
      (∀ v, v ∈ (g.levels start).map (·.1) ↔ v ∈ g.nodes ∧ ReflTransGen g.Next start v) ∧
      (∀ n ∈ g.levels start, IsLeast { count | Hops g.Next start count n.1 } n.2) ∧
      (g.levels start).head? = some (start, 0) ∧
      (g.levels start).IsChain (fun m n => m.2 ≤ n.2 ∧ n.2 ≤ m.2 + 1) ∧
      (∀ v ∈ ((g.levels start).map (·.1)).tail, ∃ u ∈ (g.levels start).map (·.1), g.Next u v) ∧
      ((g.levels start).map (·.1)).tail.Pairwise fun v w => Prod.Lex (· < ·) (· < ·)
        (firstEdge g.leaving ((g.levels start).map (·.1)) v)
        (firstEdge g.leaving ((g.levels start).map (·.1)) w)) := by
  refine ⟨levels_of_not_mem, fun present => ⟨nodup_reachable present, fun v => ?_,
    fun n hn => tabulated.isLeast_of_mem_levels present hn, head?_levels present, g.isChain_levels start,
    fun v hv => tabulated.exists_next present hv, tabulated.pairwise_firstEdge present⟩⟩
  rw [← reachable, tabulated.mem_reachable present]
  exact ⟨fun path => ⟨mem_of_path ends path present, path⟩, And.right⟩

theorem levels_are_distances_around_cycle : ∃ g : Graph Float, g.Tabulated ∧ g.hasCycle = true ∧
    IsLeast { count | Hops g.Next (.numbered 1) count (.numbered 4) } 2 ∧
    Prod.Lex (· < ·) (· < ·) (firstEdge g.leaving (g.reachable (.numbered 1)) (.numbered 2))
      (firstEdge g.leaving (g.reachable (.numbered 1)) (.numbered 3)) ∧
    g.levels (.numbered 5) = [] := by
  let path : Graph Float := (withStart ⟨∅⟩ ⟨5, 7⟩).after [.createNode (.action "click") ⟨1, 2⟩,
    .createNode (.action "wait") ⟨3, 4⟩, .createNode (.action "stop") ⟨5, 6⟩,
    .createEdge (.numbered 1) (.numbered 2) .success, .createEdge (.numbered 2) (.numbered 3) .success,
    .createEdge (.numbered 3) (.numbered 4) .success, .createEdge (.numbered 1) (.numbered 3) .error]
  have reached : path.Reachable := (Reachable.withStart ⟨∅⟩ ⟨5, 7⟩).after _
  let g : Graph Float := path.addEdge ⟨.numbered 4, .numbered 1, .success⟩
  have tabulated : g.Tabulated := reached.sound.tabulated.addEdge _
  have ends : ∀ e ∈ g.edges, e.source ∈ g.nodes ∧ e.target ∈ g.nodes := by decide +kernel
  have levels : g.levels (.numbered 1) =
      [(.numbered 1, 0), (.numbered 2, 1), (.numbered 3, 1), (.numbered 4, 2)] := by decide +kernel
  obtain ⟨-, -, distances, -, -, -, order⟩ :=
    (levels_are_distances g tabulated ends (.numbered 1)).2 (by decide +kernel)
  have fourth := distances (.numbered 4, 2) (by simp [levels])
  have rest : ((g.levels (.numbered 1)).map (·.1)).tail = [.numbered 2, .numbered 3, .numbered 4] := by
    rw [levels]
    rfl
  rw [rest] at order
  have second := (List.pairwise_cons.1 order).1 (.numbered 3) List.mem_cons_self
  exact ⟨g, tabulated, by decide +kernel, fourth, second,
    (levels_are_distances g tabulated ends (.numbered 5)).1 (by decide +kernel)⟩

end Graph

end Workflow
