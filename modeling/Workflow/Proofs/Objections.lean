import Workflow.Proofs.Grants
/-!
# Objections to an edge

The conditions that a store has for a new edge are looked at in one order, and the first that is not met is the answer
(`Objection`).  The last of them is the only one that takes a search: it asks for a path of edges, of either outcome,
from the target to the source.  An edge to which there is no objection is put in after the others.

For a new edge between two different nodes the search is exact in both directions: it objects just when the edges would
have a cycle with the new one among them (`Sound.refused_iff_cyclic`).
-/
namespace Workflow.Graph

open Relation (ReflTransGen TransGen)

variable {α : Type} {g : Graph α} {e : Edge} {r : Rejection}

/-- The first reason not to put an edge in, in the order in which reasons are looked for. -/
inductive Objection (g : Graph α) (e : Edge) : Rejection → Prop
  | loop (same : e.source = e.target) : Objection g e (.selfLoop e.source)
  | listed (differ : e.source ≠ e.target) (listed : e ∈ g.edges) : Objection g e (.duplicateEdge e)
  | source (differ : e.source ≠ e.target) (new : e ∉ g.edges) (absent : e.source ∉ g.nodes) :
    Objection g e (.missingEndpoint e.source)
  | target (differ : e.source ≠ e.target) (new : e ∉ g.edges) (source : e.source ∈ g.nodes)
    (absent : e.target ∉ g.nodes) : Objection g e (.missingEndpoint e.target)
  | cycle (differ : e.source ≠ e.target) (new : e ∉ g.edges) (source : e.source ∈ g.nodes)
    (target : e.target ∈ g.nodes) (path : ReflTransGen g.Next e.target e.source) :
    Objection g e (.cycle e.source e.target)

/-- An edge without objection is new, has known ends, and its target does not lead to its source. -/
theorem free_of_no_objection (none : ∀ r, ¬ g.Objection e r) :
    e ∉ g.edges ∧ e.source ∈ g.nodes ∧ e.target ∈ g.nodes ∧ ¬ ReflTransGen g.Next e.target e.source := by
  have differ : e.source ≠ e.target := fun same => none _ (.loop same)
  have new : e ∉ g.edges := fun listed => none _ (.listed differ listed)
  have source : e.source ∈ g.nodes := by_contra fun absent => none _ (.source differ new absent)
  have target : e.target ∈ g.nodes := by_contra fun absent => none _ (.target differ new source absent)
  exact ⟨new, source, target, fun path => none _ (.cycle differ new source target path)⟩

variable [Scalar α]

/-- **An edge is refused for the first reason there is**, and nothing changes. -/
theorem Sound.createEdge_of_objection (h : g.Sound) (objection : g.Objection e r) :
    g.createEdge e.source e.target e.outcome = (.error r, g) := by
  have absent {id : NodeId} (unknown : id ∉ g.nodes) : g.containsNode id = false :=
    Bool.eq_false_iff.2 fun there => unknown ((g.containsNode_iff id).1 there)
  have present {id : NodeId} (known : id ∈ g.nodes) : g.containsNode id = true := (g.containsNode_iff id).2 known
  have unlisted (new : e ∉ g.edges) : g.containsEdge e = false :=
    Bool.eq_false_iff.2 fun there => new ((h.mem_edgeSet e).1 ((g.containsEdge_iff e).1 there))
  cases objection with
  | loop same => rw [Graph.createEdge, if_pos same]
  | listed differ listed =>
    rw [Graph.createEdge, if_neg differ, if_pos ((g.containsEdge_iff e).2 ((h.mem_edgeSet e).2 listed))]
  | source differ new unknown =>
    simp [Graph.createEdge, differ, unlisted new, absent unknown]
  | target differ new source unknown =>
    simp [Graph.createEdge, differ, unlisted new, present source, absent unknown]
  | cycle differ new source target path =>
    simp [Graph.createEdge, differ, unlisted new, present source, present target, (h.wouldCycle_iff _ _).2 path]

/-- **An edge without objection is put in.** -/
theorem Sound.createEdge_of_no_objection (h : g.Sound) (none : ∀ r, ¬ g.Objection e r) :
    g.createEdge e.source e.target e.outcome = (.ok e, g.addEdge e) := by
  have granted : g.Granted (.connect e) := (h.granted_connect_iff e).2 (free_of_no_objection none)
  exact Prod.ext ((g.granted_connect e).1 granted) (perform_connect granted)

theorem Sound.createEdge_error_iff (h : g.Sound) (e : Edge) (r : Rejection) :
    (g.createEdge e.source e.target e.outcome).1 = .error r ↔ g.Objection e r := by
  constructor
  · intro refused
    by_contra other
    by_cases some : ∃ r', g.Objection e r'
    · obtain ⟨r', objection⟩ := some
      rw [h.createEdge_of_objection objection] at refused
      cases refused
      exact other objection
    · rw [h.createEdge_of_no_objection fun r' objection => some ⟨r', objection⟩] at refused
      cases refused
  · exact fun objection => congrArg Prod.fst (h.createEdge_of_objection objection)

/-- **A new edge between two nodes is refused just when the edges would have a cycle with it.** -/
theorem Sound.refused_iff_cyclic (h : g.Sound) (new : e ∉ g.edges) (source : e.source ∈ g.nodes)
    (target : e.target ∈ g.nodes) : (∃ r, (g.createEdge e.source e.target e.outcome).1 = .error r) ↔
      ∃ id, TransGen (Joins (g.edges ++ [e])) id id := by
  have nodup : (g.edges ++ [e]).Nodup := List.nodup_append.2 ⟨h.edges_nodup, List.pairwise_singleton _ e,
    fun k hk k' hk' same => new (List.mem_singleton.1 hk' ▸ same ▸ hk)⟩
  have granted : g.Granted (.connect e) ↔ ∀ id, ¬ TransGen (Joins (g.edges ++ [e])) id id := by
    have joinable := h.grants_connects_iff [e]
    rw [List.map_singleton, Grants, Grants, and_true] at joinable
    refine joinable.trans ⟨(·.acyclic), fun acyclic => ⟨nodup, fun k hk => ?_, acyclic⟩⟩
    rw [List.mem_singleton.1 hk]
    exact ⟨source, target⟩
  have refused : (∃ r, (g.createEdge e.source e.target e.outcome).1 = .error r) ↔ ¬ g.Granted (.connect e) := by
    rw [g.granted_connect]
    rcases g.createEdge_cases e.source e.target e.outcome with ⟨r, done⟩ | ⟨-, -, -, -, -, done⟩ <;> simp [done]
  rw [refused, granted, not_forall_not]

/-- **Connecting decides exactly.**  An edge is refused for the first objection there is to it, and then nothing
changes; if there is none it is put in after the other edges, and nothing else changes that is not told by the edges.  A
new edge between two different nodes is refused just when it would close a cycle. -/
theorem connecting_decides (g : Graph α) (reached : g.Reachable) (e : Edge) :
    (∀ r, (g.createEdge e.source e.target e.outcome).1 = .error r ↔ g.Objection e r) ∧
    (∀ r, g.Objection e r → (g.createEdge e.source e.target e.outcome).2 = g) ∧
    ((∀ r, ¬ g.Objection e r) → (g.createEdge e.source e.target e.outcome).1 = .ok e ∧
      (∃ edgeSet outgoing, (g.createEdge e.source e.target e.outcome).2 =
        { g with edges := g.edges ++ [e], edgeSet, outgoing }) ∧
      (g.createEdge e.source e.target e.outcome).2.Sound) ∧
    (e.source ≠ e.target → e.source ∈ g.nodes → e.target ∈ g.nodes → e ∉ g.edges →
      ((∃ r, (g.createEdge e.source e.target e.outcome).1 = .error r) ↔
        ∃ id, TransGen (Joins (g.edges ++ [e])) id id)) := by
  have h := reached.sound
  refine ⟨h.createEdge_error_iff e, fun r objection => ?_, fun none => ⟨?_, ?_, ?_⟩,
    fun _ source target new => h.refused_iff_cyclic new source target⟩
  · rw [h.createEdge_of_objection objection]
  · rw [h.createEdge_of_no_objection none]
  · rw [h.createEdge_of_no_objection none]
    exact ⟨_, _, rfl⟩
  · exact h.createEdge _ _ _

theorem connecting_decides_on_edge_back : ∃ g : Graph Float, g.Reachable ∧
    (g.createEdge (.numbered 3) (.numbered 1) .success).1 = .error (.cycle (.numbered 3) (.numbered 1)) ∧
    (g.createEdge (.numbered 1) (.numbered 4) .success).1 = .error (.missingEndpoint (.numbered 4)) ∧
    ∃ id, TransGen (Joins (g.edges ++ [⟨.numbered 3, .numbered 1, .success⟩])) id id := by
  let g : Graph Float := (withStart ⟨∅⟩ ⟨5, 7⟩).after [.createNode (.action "click") ⟨1, 2⟩,
    .createNode (.action "wait") ⟨3, 4⟩, .createEdge (.numbered 1) (.numbered 2) .error,
    .createEdge (.numbered 2) (.numbered 3) .success]
  have reached : g.Reachable := (Reachable.withStart ⟨∅⟩ ⟨5, 7⟩).after _
  have first : g.Next (.numbered 1) (.numbered 2) := ⟨⟨_, _, .error⟩, by decide +kernel, rfl, rfl⟩
  have second : g.Next (.numbered 2) (.numbered 3) := ⟨⟨_, _, .success⟩, by decide +kernel, rfl, rfl⟩
  obtain ⟨refused, -, -, cyclic⟩ := connecting_decides g reached ⟨.numbered 3, .numbered 1, .success⟩
  have closing := (refused _).2 (.cycle (by decide) (by decide +kernel) (by decide +kernel) (by decide +kernel)
    (.tail (.single first) second))
  have cycle := (cyclic (by decide) (by decide +kernel) (by decide +kernel) (by decide +kernel)).1 ⟨_, closing⟩
  have dangling := ((connecting_decides g reached ⟨.numbered 1, .numbered 4, .success⟩).1 _).2
    (.target (by decide) (by decide +kernel) (by decide +kernel) (by decide +kernel))
  exact ⟨g, reached, closing, dangling, cycle⟩

end Workflow.Graph
