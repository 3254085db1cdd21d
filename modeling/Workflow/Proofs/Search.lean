import Mathlib.Logic.Relation
import Workflow.Graph.Walk
/-!
# The cycle search — what it answers

`leadsTo` follows edges from a stack of nodes and never goes on from a node twice.  Two facts about it hold for every
table, cyclic or not: a search that succeeds has followed edges from its stack to the goal, and one that fails leaves
a set of nodes behind that holds its stack, is closed under the edges and lacks the goal.  Together they say that from
one node it decides reachability (`leadsTo_iff`).

The rest is what one more edge does to a relation without cycles (`acyclic_insert`).
-/
namespace Workflow

open Relation (ReflTransGen TransGen)

namespace Adjacency

def Next (a : Adjacency) (u v : NodeId) : Prop := ∃ e ∈ a.successors u, e.target = v

/-- A set of nodes that no edge leaves. -/
def Closed (a : Adjacency) (S : NodeId → Prop) : Prop := ∀ u, S u → ∀ e ∈ a.successors u, S e.target

theorem Closed.of_path {a : Adjacency} {S : NodeId → Prop} (closed : a.Closed S) {u v : NodeId}
    (path : ReflTransGen a.Next u v) (hu : S u) : S v := by
  induction path with
  | refl => exact hu
  | tail _ next ih =>
    obtain ⟨e, he, rfl⟩ := next
    exact closed _ ih e he

/-- **A search that succeeds has followed edges** from a node of its stack to the goal. -/
theorem path_of_leadsTo (a : Adjacency) (goal : NodeId) (visited : NodeSet) (stack : List NodeId)
    (found : a.leadsTo goal visited stack = true) : ∃ s ∈ stack, ReflTransGen a.Next s goal := by
  fun_induction leadsTo a goal visited stack with
  | case1 => cases found
  | case2 visited stack => exact ⟨goal, List.mem_cons_self, .refl⟩
  | case3 visited id stack _ _ ih =>
    obtain ⟨s, hs, path⟩ := ih found
    exact ⟨s, List.mem_cons_of_mem _ hs, path⟩
  | case4 visited id stack _ _ ih =>
    obtain ⟨s, hs, path⟩ := ih found
    rcases List.mem_append.1 hs with hs | hs
    · rw [List.mem_reverse, List.mem_map] at hs
      obtain ⟨e, he, rfl⟩ := hs
      exact ⟨id, List.mem_cons_self, .head ⟨e, he, rfl⟩ path⟩
    · exact ⟨s, List.mem_cons_of_mem _ hs, path⟩

/-- **A search that fails leaves a closed set behind**: it holds all that was visited or on the stack, and not the
goal.  What was visited before has to lead to visited nodes and the stack only. -/
theorem closed_of_not_leadsTo (a : Adjacency) (goal : NodeId) (visited : NodeSet) (stack : List NodeId)
    (frontier : ∀ u ∈ visited, ∀ e ∈ a.successors u, e.target ∈ visited ∨ e.target ∈ stack)
    (lacks : goal ∉ visited) (failed : a.leadsTo goal visited stack = false) :
    ∃ S : NodeId → Prop, a.Closed S ∧ (∀ u ∈ visited, S u) ∧ (∀ u ∈ stack, S u) ∧ ¬ S goal := by
  fun_induction leadsTo a goal visited stack with
  | case1 visited =>
    refine ⟨(· ∈ visited), fun u hu e he => ?_, fun _ h => h, fun _ h => (List.not_mem_nil h).elim, lacks⟩
    exact (frontier u hu e he).resolve_right List.not_mem_nil
  | case2 => cases failed
  | case3 visited id stack _ seen ih =>
    have step : ∀ u ∈ visited, ∀ e ∈ a.successors u, e.target ∈ visited ∨ e.target ∈ stack := by
      intro u hu e he
      rcases frontier u hu e he with h | h
      · exact .inl h
      · rcases List.mem_cons.1 h with h | h
        · exact .inl (h ▸ seen)
        · exact .inr h
    obtain ⟨S, closed, hv, hs, hg⟩ := ih step lacks failed
    refine ⟨S, closed, hv, fun u hu => ?_, hg⟩
    rcases List.mem_cons.1 hu with rfl | hu
    · exact hv u seen
    · exact hs u hu
  | case4 visited id stack differs _ ih =>
    have step : ∀ u ∈ visited.insert id, ∀ e ∈ a.successors u, e.target ∈ visited.insert id ∨
        e.target ∈ ((a.successors id).map (·.target)).reverse ++ stack := by
      intro u hu e he
      rcases Std.ExtTreeSet.mem_insert.1 hu with same | hu
      · -- the successors of the node just visited are on the stack now
        rw [Std.LawfulEqCmp.eq_of_compare same]
        exact .inr (List.mem_append_left _ (List.mem_reverse.2 (List.mem_map.2 ⟨e, he, rfl⟩)))
      · rcases frontier u hu e he with h | h
        · exact .inl (by simp [h])
        · rcases List.mem_cons.1 h with h | h
          · exact .inl (by simp [h])
          · exact .inr (List.mem_append_right _ h)
    obtain ⟨S, closed, hv, hs, hg⟩ := ih step (by simpa [lacks] using differs) failed
    refine ⟨S, closed, fun u hu => hv u (by simp [hu]), fun u hu => ?_, hg⟩
    rcases List.mem_cons.1 hu with rfl | hu
    · exact hv u (by simp)
    · exact hs u (List.mem_append_right _ hu)

/-- **The search decides reachability**, on every table. -/
theorem leadsTo_iff (a : Adjacency) (goal start : NodeId) :
    a.leadsTo goal ∅ [start] = true ↔ ReflTransGen a.Next start goal := by
  constructor
  · intro found
    obtain ⟨s, hs, path⟩ := a.path_of_leadsTo goal ∅ [start] found
    rwa [List.mem_singleton.1 hs] at path
  · intro path
    cases failed : a.leadsTo goal ∅ [start] with
    | true => rfl
    | false =>
      obtain ⟨S, closed, -, hs, hg⟩ := a.closed_of_not_leadsTo goal ∅ [start] (by simp) (by simp) failed
      exact absurd (closed.of_path path (hs start List.mem_cons_self)) hg

end Adjacency

/-! ## One more edge -/

section Insert

variable {α : Type} {r : α → α → Prop} {s t : α}

/-- A path that may use one more edge does without it, or leads to its source and goes on from its target. -/
theorem path_insert {x y : α} (path : TransGen (fun u v => r u v ∨ u = s ∧ v = t) x y) :
    TransGen r x y ∨ ReflTransGen r x s ∧ ReflTransGen r t y := by
  induction path with
  | single step =>
    rcases step with step | ⟨rfl, rfl⟩
    · exact .inl (.single step)
    · exact .inr ⟨.refl, .refl⟩
  | tail _ step ih =>
    rcases step with step | ⟨rfl, rfl⟩
    · exact ih.imp (·.tail step) fun h => ⟨h.1, h.2.tail step⟩
    · exact .inr ⟨ih.elim TransGen.to_reflTransGen (·.1), .refl⟩

/-- **An edge whose target does not lead to its source closes no cycle.** -/
theorem acyclic_insert (acyclic : ∀ x, ¬ TransGen r x x) (apart : ¬ ReflTransGen r t s) (x : α) :
    ¬ TransGen (fun u v => r u v ∨ u = s ∧ v = t) x x := by
  intro cycle
  rcases path_insert cycle with cycle | ⟨toSource, fromTarget⟩
  · exact acyclic x cycle
  · exact apart (fromTarget.trans toSource)

end Insert

end Workflow
