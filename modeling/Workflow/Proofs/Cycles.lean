import Workflow.Proofs.Walks
import Workflow.Proofs.Runs
/-!
# The search of a whole table for cycles

`cycleFrom` searches depth first from one root after the other.  The nodes on its path lead to each other, outermost
first, so an edge from the innermost back to one of them closes a cycle.  All else that it has met is done: the edges of
such nodes lead to nodes that are done, and none of them is on a cycle.  Both are kept by every step (`Auditing`), and
when no root is left there is nothing but what is done.  That the search ends, on any table, is in its definition: the
nodes not yet met and the edges still to follow shrink together.
-/
namespace Workflow

open Relation (ReflTransGen TransGen)

namespace Adjacency

variable {a : Adjacency} {met done : NodeSet} {path : List (NodeId × List Edge)} {id : NodeId} {e : Edge}
  {edges : List Edge}

/-! ## The path -/

/-- The edges of the nodes on a path: each is still to follow, or it leads to a node that is done or to the next node
inward, which one of them does. -/
def Followed (a : Adjacency) (done : NodeSet) : Option NodeId → List (NodeId × List Edge) → Prop
  | _, [] => True
  | inner, (id, edges) :: path =>
    (∀ e ∈ edges, e ∈ a.successors id) ∧ (∀ v ∈ inner, a.Next id v) ∧
      (∀ e ∈ a.successors id, e ∈ edges ∨ e.target ∈ done ∨ e.target ∈ inner) ∧ a.Followed done (some id) path

/-- More nodes may be done, the innermost among them. -/
theorem Followed.mono {done' : NodeSet} {inner inner' : Option NodeId} (h : a.Followed done inner path)
    (still : ∀ v ∈ done, v ∈ done') (fewer : ∀ v ∈ inner', v ∈ inner)
    (left : ∀ v ∈ inner, v ∈ done' ∨ v ∈ inner') : a.Followed done' inner' path := by
  induction path generalizing inner inner' with
  | nil => trivial
  | cons frame path ih =>
    obtain ⟨id, edges⟩ := frame
    obtain ⟨own, inward, each, rest⟩ := h
    refine ⟨own, fun v hv => inward v (fewer v hv), fun e he => ?_, ih rest (fun _ hv => hv) fun _ hv => .inr hv⟩
    rcases each e he with ahead | old | next
    · exact .inl ahead
    · exact .inr (.inl (still _ old))
    · exact .inr (left _ next)

/-- **Every node on a path leads to the innermost.** -/
theorem Followed.path_to {inner : NodeId} (h : a.Followed done (some inner) path) :
    ∀ v ∈ path.map (·.1), ReflTransGen a.Next v inner := by
  induction path generalizing inner with
  | nil => exact fun v hv => (List.not_mem_nil hv).elim
  | cons frame path ih =>
    obtain ⟨id, edges⟩ := frame
    obtain ⟨-, inward, -, rest⟩ := h
    have last : ReflTransGen a.Next id inner := .single (inward inner rfl)
    intro v hv
    rcases List.mem_cons.1 hv with rfl | hv
    · exact last
    · exact (ih rest v hv).trans last

/-! ## One step -/

/-- **What a search for cycles keeps**, between two steps. -/
structure Auditing (a : Adjacency) (met done : NodeSet) (path : List (NodeId × List Edge)) : Prop where
  met_iff : ∀ v, v ∈ met ↔ v ∈ done ∨ v ∈ path.map (·.1)
  distinct : (path.map (·.1)).Nodup
  undone : ∀ v ∈ path.map (·.1), v ∉ done
  followed : a.Followed done none path
  closed : a.Closed (· ∈ done)
  acyclic : ∀ v ∈ done, ¬ TransGen a.Next v v

theorem auditing_empty (a : Adjacency) : a.Auditing ∅ ∅ [] where
  met_iff v := by simp
  distinct := List.nodup_nil
  undone v hv := (List.not_mem_nil hv).elim
  followed := trivial
  closed u hu := by simp at hu
  acyclic v hv := by simp at hv

/-- A node whose edges are all followed leaves the path.  All of them lead to nodes that are done, and none of these
leads back. -/
theorem Auditing.leave (h : a.Auditing met done ((id, []) :: path)) : a.Auditing met (done.insert id) path := by
  obtain ⟨-, -, each, rest⟩ := h.followed
  obtain ⟨apart, distinct⟩ := List.nodup_cons.1 h.distinct
  have undone : id ∉ done := h.undone id List.mem_cons_self
  have onward : ∀ e ∈ a.successors id, e.target ∈ done := fun e he => by
    rcases each e he with ahead | old | next
    · exact absurd ahead List.not_mem_nil
    · exact old
    · cases next
  refine ⟨fun v => ?_, distinct, fun v hv => ?_, ?_, fun u hu e he => ?_, fun v hv cycle => ?_⟩
  · rw [h.met_iff, mem_insert_nodeSet, List.map_cons, List.mem_cons, or_left_comm, or_assoc]
  · rw [mem_insert_nodeSet, not_or]
    exact ⟨fun same => apart (same ▸ hv), h.undone v (List.mem_cons_of_mem _ hv)⟩
  · refine rest.mono (fun v hv => (mem_insert_nodeSet ..).2 (.inr hv)) (fun v hv => by cases hv) fun v hv => .inl ?_
    cases hv
    exact (mem_insert_nodeSet ..).2 (.inl rfl)
  · refine (mem_insert_nodeSet ..).2 (.inr ?_)
    rcases (mem_insert_nodeSet ..).1 hu with rfl | hu
    · exact onward e he
    · exact h.closed u hu e he
  · rcases (mem_insert_nodeSet ..).1 hv with rfl | hv
    · obtain ⟨w, ⟨e, he, rfl⟩, back⟩ := TransGen.head'_iff.1 cycle
      exact undone (h.closed.of_path back (onward e he))
    · exact h.acyclic v hv cycle

/-- An edge to a node that is done is followed. -/
theorem Auditing.pass (h : a.Auditing met done ((id, e :: edges) :: path)) (old : e.target ∈ done) :
    a.Auditing met done ((id, edges) :: path) := by
  obtain ⟨own, inward, each, rest⟩ := h.followed
  refine ⟨h.met_iff, h.distinct, h.undone,
    ⟨fun k hk => own k (List.mem_cons_of_mem e hk), inward, fun k hk => ?_, rest⟩, h.closed, h.acyclic⟩
  rcases each k hk with ahead | found
  · rcases List.mem_cons.1 ahead with rfl | ahead
    · exact .inr (.inl old)
    · exact .inl ahead
  · exact .inr found

/-- A node that is new joins the path. -/
theorem Auditing.enter (h : a.Auditing met done ((id, e :: edges) :: path)) (new : e.target ∉ met) :
    a.Auditing (met.insert e.target) done ((e.target, a.successors e.target) :: (id, edges) :: path) := by
  obtain ⟨own, -, each, rest⟩ := h.followed
  have unmet := mt (h.met_iff e.target).2 new
  rw [not_or] at unmet
  refine ⟨fun v => ?_, List.nodup_cons.2 ⟨unmet.2, h.distinct⟩, fun v hv => ?_,
    ⟨fun k hk => hk, nofun, fun k hk => .inl hk, fun k hk => own k (List.mem_cons_of_mem e hk), fun v hv => ?_,
      fun k hk => ?_, rest⟩, h.closed, h.acyclic⟩
  · rw [mem_insert_nodeSet, h.met_iff, or_left_comm]
    exact or_congr_right List.mem_cons.symm
  · rcases List.mem_cons.1 hv with rfl | hv
    · exact unmet.1
    · exact h.undone v hv
  · cases hv
    exact ⟨e, own e List.mem_cons_self, rfl⟩
  · rcases each k hk with ahead | old | next
    · rcases List.mem_cons.1 ahead with rfl | ahead
      · exact .inr (.inr rfl)
      · exact .inl ahead
    · exact .inr (.inl old)
    · cases next

/-- **An edge back to a node on the path closes a cycle.** -/
theorem Auditing.cycle (h : a.Auditing met done ((id, e :: edges) :: path)) (old : e.target ∈ met)
    (undone : e.target ∉ done) : TransGen a.Next e.target e.target := by
  obtain ⟨own, -, -, rest⟩ := h.followed
  have back : a.Next id e.target := ⟨e, own e List.mem_cons_self, rfl⟩
  rcases List.mem_cons.1 (((h.met_iff e.target).1 old).resolve_left undone) with same | outer
  · rw [same] at back ⊢
    exact .single back
  · exact .tail' (rest.path_to e.target outer) back

/-! ## The whole search -/

/-- Does a node lead to a cycle? -/
def Cyclic (a : Adjacency) (id : NodeId) : Prop := ∃ v, ReflTransGen a.Next id v ∧ TransGen a.Next v v

theorem Auditing.not_cyclic (h : a.Auditing met done []) {v : NodeId} (hv : v ∈ met) : ¬ a.Cyclic v := by
  rintro ⟨w, path, cycle⟩
  have old : v ∈ done := ((h.met_iff v).1 hv).resolve_right List.not_mem_nil
  exact h.acyclic w (h.closed.of_path path old) cycle

/-- **A search along a path finds a cycle that the path leads to, or is done with all that it has met.** -/
theorem Auditing.followPath (h : a.Auditing met done path) : match a.followPath met done path with
    | none => ∃ v ∈ path.map (·.1), a.Cyclic v
    | some (met', done') => a.Auditing met' done' [] ∧ ∀ v ∈ met, v ∈ met' := by
  fun_induction Adjacency.followPath a met done path with
  | case1 met done => exact ⟨h, fun _ hv => hv⟩
  | case2 met done id path ih =>
    have rest := ih h.leave
    split at rest
    · obtain ⟨v, hv, cyclic⟩ := rest
      exact ⟨v, List.mem_cons_of_mem _ hv, cyclic⟩
    · exact rest
  | case3 met done id e edges path old passed ih => exact ih (h.pass passed)
  | case4 met done id e edges path old undone =>
    have own : e ∈ a.successors id := h.followed.1 e List.mem_cons_self
    exact ⟨id, List.mem_cons_self, e.target, .single ⟨e, own, rfl⟩, h.cycle old undone⟩
  | case5 met done id e edges path new ih =>
    have own : e ∈ a.successors id := h.followed.1 e List.mem_cons_self
    have rest := ih (h.enter new)
    split at rest
    · obtain ⟨v, hv, w, path, cycle⟩ := rest
      rcases List.mem_cons.1 hv with rfl | hv
      · exact ⟨id, List.mem_cons_self, w, .head ⟨e, own, rfl⟩ path, cycle⟩
      · exact ⟨v, hv, w, path, cycle⟩
    · exact ⟨rest.1, fun v hv => rest.2 v ((mem_insert_nodeSet ..).2 (.inr hv))⟩

theorem Auditing.root (h : a.Auditing met done []) {root : NodeId} (new : root ∉ met) :
    a.Auditing (met.insert root) done [(root, a.successors root)] where
  met_iff v := by
    rw [mem_insert_nodeSet, h.met_iff]
    simp [or_comm]
  distinct := List.pairwise_singleton _ root
  undone v hv old := by
    rw [List.mem_singleton.1 hv] at old
    exact new ((h.met_iff root).2 (.inl old))
  followed := ⟨fun _ he => he, nofun, fun _ he => .inl he, trivial⟩
  closed := h.closed
  acyclic := h.acyclic

/-- **A search from some roots finds a cycle if one of them leads to one.** -/
theorem Auditing.cycleFrom_iff (h : a.Auditing met done []) (roots : List NodeId) :
    a.cycleFrom met done roots = true ↔ ∃ root ∈ roots, a.Cyclic root := by
  induction roots generalizing met done with
  | nil => simp [cycleFrom]
  | cons root roots ih =>
    simp only [cycleFrom, List.mem_cons, exists_eq_or_imp]
    split
    · next old => rw [ih h, or_iff_right (h.not_cyclic old)]
    · next new =>
      have search := (h.root new).followPath
      cases found : a.followPath (met.insert root) done [(root, a.successors root)] with
      | none =>
        rw [found] at search
        obtain ⟨v, hv, cyclic⟩ := search
        rw [List.mem_singleton.1 hv] at cyclic
        exact iff_of_true rfl (.inl cyclic)
      | some left =>
        rw [found] at search
        obtain ⟨still, all⟩ := search
        have clear := still.not_cyclic (all root ((mem_insert_nodeSet ..).2 (.inl rfl)))
        exact (ih still).trans (or_iff_right clear).symm

end Adjacency

namespace Graph

variable {α : Type} {g : Graph α}

/-- **The search of a whole table finds a cycle if there is one**, whether or not the store could have been built.  It
needs to know of the edges only that the table holds them and that they connect nodes it starts from. -/
theorem search_finds_cycles (g : Graph α) (tabulated : g.Tabulated)
    (ends : ∀ e ∈ g.edges, e.source ∈ g.order ∧ e.target ∈ g.order) :
    g.hasCycle = true ↔ ∃ id, TransGen g.Next id id := by
  rw [hasCycle, (Adjacency.auditing_empty _).cycleFrom_iff, ← tabulated.next_eq]
  constructor
  · rintro ⟨root, -, id, -, cycle⟩
    exact ⟨id, cycle⟩
  · rintro ⟨id, cycle⟩
    -- a node on a cycle has an edge, so the search starts from it if not before
    obtain ⟨v, edge, -⟩ := TransGen.head'_iff.1 cycle
    rw [tabulated.next_eq] at edge
    obtain ⟨e, he, rfl, -⟩ := edge
    exact ⟨e.source, (ends e he).1, e.source, .refl, cycle⟩

theorem search_finds_cycle_apart_from_start : ∃ g : Graph Float, g.Tabulated ∧
    (∀ e ∈ g.edges, e.source ∈ g.order ∧ e.target ∈ g.order) ∧ .numbered 3 ∉ g.reachable (.numbered 1) ∧
    ∃ id, TransGen g.Next id id := by
  let path : Graph Float := (withStart ⟨∅⟩ ⟨5, 7⟩).after [.createNode (.action "click") ⟨1, 2⟩,
    .createNode (.action "wait") ⟨3, 4⟩, .createNode (.action "stop") ⟨5, 6⟩,
    .createEdge (.numbered 1) (.numbered 2) .success, .createEdge (.numbered 3) (.numbered 4) .error]
  have reached : path.Reachable := (Reachable.withStart ⟨∅⟩ ⟨5, 7⟩).after _
  let g : Graph Float :=
    (path.addEdge ⟨.numbered 3, .numbered 2, .success⟩).addEdge ⟨.numbered 4, .numbered 3, .success⟩
  have tabulated : g.Tabulated := (reached.sound.tabulated.addEdge _).addEdge _
  have ends : ∀ e ∈ g.edges, e.source ∈ g.order ∧ e.target ∈ g.order := by decide +kernel
  exact ⟨g, tabulated, ends, by decide +kernel, (search_finds_cycles g tabulated ends).1 (by decide +kernel)⟩

end Graph

end Workflow
