import Workflow.Proofs.Traversals
/-!
# The cycle search, turn by turn

The search takes a node off its stack in each turn and may put many there, the same node many times over, so the stack
is no measure of what it has left to do.  What a turn does make smaller is the stack together with the backlog, the
edges that leave nodes it has not visited (`cost_turn`).  So it has its answer after as many turns as there are edges
and two, whatever the edges (`answerWithin_of_lt`).
-/
namespace Workflow

open Relation (ReflTransGen)

namespace Adjacency

/-! ## Turns -/

/-- One turn of the search: its answer, or the nodes that are visited and those on the stack after it. -/
def turn (a : Adjacency) (goal : NodeId) (visited : NodeSet) : List NodeId → Bool ⊕ (NodeSet × List NodeId)
  | [] => .inl false
  | id :: stack =>
    if id = goal then .inl true
    else if id ∈ visited then .inr (visited, stack)
    else .inr (visited.insert id, ((a.successors id).map (·.target)).reverse ++ stack)

/-- The answer that the search comes to within some number of turns, if it does. -/
def answerWithin (a : Adjacency) (goal : NodeId) : Nat → NodeSet → List NodeId → Option Bool
  | 0, _, _ => none
  | turns + 1, visited, stack =>
    match a.turn goal visited stack with
    | .inl answer => some answer
    | .inr (visited, stack) => answerWithin a goal turns visited stack

variable {a : Adjacency} {goal : NodeId} {visited visited' : NodeSet} {stack stack' : List NodeId}

/-- **The search goes on from where a turn leaves it.** -/
theorem leadsTo_eq_turn (a : Adjacency) (goal : NodeId) (visited : NodeSet) (stack : List NodeId) :
    a.leadsTo goal visited stack = match a.turn goal visited stack with
      | .inl answer => answer
      | .inr (visited, stack) => a.leadsTo goal visited stack := by
  cases stack with
  | nil => rw [leadsTo, turn]
  | cons id stack =>
    rw [leadsTo, turn]
    by_cases here : id = goal
    · rw [if_pos here, if_pos here]
    · by_cases old : id ∈ visited
      · rw [if_neg here, if_neg here, dif_pos old, if_pos old]
      · rw [if_neg here, if_neg here, dif_neg old, if_neg old]

/-- **A turn makes the backlog and the stack smaller together.** -/
theorem cost_turn (next : a.turn goal visited stack = .inr (visited', stack')) :
    a.backlog visited' + stack'.length < a.backlog visited + stack.length := by
  cases stack with
  | nil => cases next
  | cons id stack =>
    rw [turn] at next
    split at next
    · cases next
    · split at next
      · cases next
        simp
      · next new =>
        cases next
        have := a.backlog_insert new
        simp only [List.length_append, List.length_reverse, List.length_map, List.length_cons]
        omega

/-- **With more turns than that the search comes to its answer.** -/
theorem answerWithin_of_lt {turns : Nat} (enough : a.backlog visited + stack.length < turns) :
    a.answerWithin goal turns visited stack = some (a.leadsTo goal visited stack) := by
  induction turns generalizing visited stack with
  | zero => omega
  | succ turns ih =>
    rw [answerWithin, leadsTo_eq_turn]
    cases next : a.turn goal visited stack with
    | inl answer => rfl
    | inr state =>
      have := cost_turn next
      exact ih (by omega)

/-! ## The backlog at first -/

theorem length_filter_source_add_le (edges : List Edge) {id : NodeId} {ids : List NodeId} (new : id ∉ ids) :
    (edges.filter (·.source = id)).length + (edges.filter (·.source ∈ ids)).length ≤
      (edges.filter (·.source ∈ id :: ids)).length := by
  induction edges with
  | nil => simp
  | cons e edges ih =>
    by_cases same : e.source = id
    · have other : e.source ∉ ids := same ▸ new
      simp [same, new] at ih ⊢
      omega
    · by_cases listed : e.source ∈ ids <;> simp [same, listed] at ih ⊢ <;> omega

theorem backlogOf_le (edges : List Edge) {rows : List (NodeId × List Edge)}
    (distinct : (rows.map (·.1)).Nodup) (own : ∀ r ∈ rows, r.2 = edges.filter (·.source = r.1)) :
    backlogOf ∅ rows ≤ (edges.filter (·.source ∈ rows.map (·.1))).length := by
  induction rows with
  | nil => simp [backlogOf]
  | cons r rows ih =>
    obtain ⟨new, distinct⟩ := List.nodup_cons.1 distinct
    obtain ⟨first, others⟩ := List.forall_mem_cons.1 own
    rw [backlogOf, if_neg (by simp), first]
    exact (Nat.add_le_add_left (ih distinct others) _).trans (length_filter_source_add_le edges new)

end Adjacency

namespace Graph

variable {α : Type} {g : Graph α}

/-- **The backlog of a search is the edges at most.** -/
theorem Tabulated.backlog_le (h : g.Tabulated) : g.outgoing.backlog ∅ ≤ g.edges.length := by
  have distinct : (g.outgoing.toList.map (·.1)).Nodup := by
    rw [Std.ExtTreeMap.map_fst_toList_eq_keys]
    exact Std.ExtTreeMap.nodup_keys
  refine (Adjacency.backlogOf_le g.edges distinct fun r hr => ?_).trans (List.length_filter_le _ _)
  have row : g.outgoing[r.1]? = some r.2 := Std.ExtTreeMap.mem_toList_iff_getElem?_eq_some.1 hr
  have own : (g.outgoing[r.1]?).getD [] = g.edges.filter (·.source = r.1) := h r.1
  rwa [row] at own

/-- **The search decides what leads where**, be there cycles or not, and be the nodes in the graph or not.  It has its
answer after as many turns as there are edges and two, the last of them on an empty stack, however often a node is
stacked; the answer is whether a path of edges, or none at all, leads from the target to the source.  For a target in
the graph that is whether the source is listed as reachable from it. -/
theorem search_decides_paths (g : Graph α) (tabulated : g.Tabulated) (source target : NodeId) :
    (∀ turns, g.edges.length + 2 ≤ turns →
      g.outgoing.answerWithin source turns ∅ [target] = some (g.wouldCycle source target)) ∧
    (g.wouldCycle source target = true ↔ ReflTransGen g.Next target source) ∧
    (target ∈ g.nodes → (g.wouldCycle source target = true ↔ source ∈ g.reachable target)) := by
  have paths : g.wouldCycle source target = true ↔ ReflTransGen g.Next target source := by
    rw [wouldCycle, Adjacency.leadsTo_iff, tabulated.next_eq]
  refine ⟨fun turns enough => Adjacency.answerWithin_of_lt ?_, paths, fun present => ?_⟩
  · have := tabulated.backlog_le
    rw [List.length_singleton]
    omega
  · rw [paths, tabulated.mem_reachable present]

theorem search_decides_paths_around_cycle : ∃ g : Graph Float, g.Tabulated ∧ g.hasCycle = true ∧
    g.outgoing.answerWithin (.numbered 1) 5 ∅ [.numbered 2] = some true ∧
    g.outgoing.answerWithin (.numbered 9) 5 ∅ [.numbered 2] = some false ∧
    .numbered 1 ∈ g.reachable (.numbered 2) ∧ ReflTransGen g.Next (.numbered 3) (.numbered 3) := by
  let path : Graph Float := (withStart ⟨∅⟩ ⟨5, 7⟩).after [.createNode (.action "click") ⟨1, 2⟩,
    .createEdge (.numbered 1) (.numbered 2) .success, .createEdge (.numbered 1) (.numbered 2) .error]
  have reached : path.Reachable := (Reachable.withStart ⟨∅⟩ ⟨5, 7⟩).after _
  let g : Graph Float := path.addEdge ⟨.numbered 2, .numbered 1, .success⟩
  have tabulated : g.Tabulated := reached.sound.tabulated.addEdge _
  have edges : g.edges.length + 2 ≤ 5 := by decide +kernel
  obtain ⟨turns, -, listed⟩ := search_decides_paths g tabulated (.numbered 1) (.numbered 2)
  have back : g.wouldCycle (.numbered 1) (.numbered 2) = true := by decide +kernel
  have unknown : g.wouldCycle (.numbered 9) (.numbered 2) = false := by decide +kernel
  have itself : g.wouldCycle (.numbered 3) (.numbered 3) = true := by decide +kernel
  refine ⟨g, tabulated, by decide +kernel, (turns 5 edges).trans (congrArg some back), ?_,
    (listed (by decide +kernel)).1 back, (search_decides_paths g tabulated _ _).2.1.1 itself⟩
  rw [(search_decides_paths g tabulated (.numbered 9) (.numbered 2)).1 5 edges, unknown]

end Graph

end Workflow
