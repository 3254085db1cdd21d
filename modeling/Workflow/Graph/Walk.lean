import Workflow.Graph.Adjacency
/-!
# Walks

Four walks over an adjacency table, for tables of any shape, cyclic ones included: whether one node leads
to another, the nodes around a node by distance, a whole-table search for cycles, and the order in which a
sequential run comes by the nodes.  Each takes one step at a time and ends because the backlog and what is
waiting shrink together.
-/
namespace Workflow.Adjacency

/-! ## Does one node lead to another? -/

/-- Searches from the nodes on a stack for a goal, a node at a time, never from a node twice. -/
def leadsTo (a : Adjacency) (goal : NodeId) (visited : NodeSet) : List NodeId → Bool
  | [] => false
  | id :: stack =>
    if id = goal then true
    else if _ : id ∈ visited then leadsTo a goal visited stack
    else leadsTo a goal (visited.insert id) (((a.successors id).map (·.target)).reverse ++ stack)
termination_by stack => a.backlog visited + stack.length
decreasing_by
  · simp
  · next new =>
    have := a.backlog_insert new
    simp only [List.length_append, List.length_reverse, List.length_map, List.length_cons]
    omega

/-! ## Nodes by distance -/

/-- Marks the targets of edges that are not marked yet; says which those are, in order. -/
def markNew (marked : NodeSet) : List Edge → NodeSet × List NodeId
  | [] => (marked, [])
  | e :: edges =>
    if e.target ∈ marked then markNew marked edges
    else
      let (marked, new) := markNew (marked.insert e.target) edges
      (marked, e.target :: new)

/-- The edges that leave the nodes of a queue, and one more for each. -/
def queueCost (a : Adjacency) : List NodeId → Nat
  | [] => 0
  | id :: queue => (a.successors id).length + 1 + a.queueCost queue

theorem queueCost_append (a : Adjacency) (p q : List NodeId) :
    a.queueCost (p ++ q) = a.queueCost p + a.queueCost q := by
  induction p with
  | nil => simp [queueCost]
  | cons id p ih =>
    simp only [List.cons_append, queueCost, ih]
    omega

/-- Each node newly marked has its edges taken out of the backlog, and was the target of an edge. -/
theorem cost_markNew (a : Adjacency) (edges : List Edge) (marked : NodeSet) :
    a.backlog (markNew marked edges).1 + a.queueCost (markNew marked edges).2 ≤
      a.backlog marked + edges.length := by
  induction edges generalizing marked with
  | nil => simp [markNew, queueCost]
  | cons e edges ih =>
    simp only [markNew, List.length_cons]
    split
    · have := ih marked
      omega
    · next new =>
      have := ih (marked.insert e.target)
      have := a.backlog_insert new
      simp only [queueCost] at *
      omega

/-- Goes on from a queue of nodes, each with its distance: every node comes once, its successors that are
not marked queue up behind the others. -/
def levelsFrom (a : Adjacency) (marked : NodeSet) : List (NodeId × Nat) → List (NodeId × Nat)
  | [] => []
  | (id, level) :: queue =>
    let met := markNew marked (a.successors id)
    (id, level) :: levelsFrom a met.1 (queue ++ met.2.map fun next => (next, level + 1))
termination_by queue => a.backlog marked + a.queueCost (queue.map (·.1))
decreasing_by
  have := a.cost_markNew (a.successors id) marked
  simp only [List.map_append, List.map_map, Function.comp_def, List.map_id', queueCost_append]
  simp only [List.map_cons, queueCost] at *
  omega

/-! ## Is there a cycle? -/

/-- What the nodes on a path have left to look at: two for each edge, and one for each node. -/
def pathCost : List (NodeId × List Edge) → Nat
  | [] => 0
  | p :: path => 2 * p.2.length + 1 + pathCost path

/-- Searches depth first from the nodes on a path, innermost first, each with its edges still to follow.  A
node is met when it joins the path and done when it leaves it; an edge to a node that is met but not done
closes a cycle.  Without one, the nodes met and done in the end. -/
def followPath (a : Adjacency) (met done : NodeSet) : List (NodeId × List Edge) → Option (NodeSet × NodeSet)
  | [] => some (met, done)
  | (id, []) :: path => followPath a met (done.insert id) path
  | (id, e :: edges) :: path =>
    if _ : e.target ∈ met then
      if e.target ∈ done then followPath a met done ((id, edges) :: path) else none
    else followPath a (met.insert e.target) done ((e.target, a.successors e.target) :: (id, edges) :: path)
termination_by path => 2 * a.backlog met + pathCost path
decreasing_by
  · simp [pathCost]
  · simp [pathCost]
  · next new =>
    have := a.backlog_insert new
    simp only [pathCost, List.length_cons]
    omega

/-- Is there a cycle that a search from some roots, in order, comes upon? -/
def cycleFrom (a : Adjacency) (met done : NodeSet) : List NodeId → Bool
  | [] => false
  | root :: roots =>
    if root ∈ met then cycleFrom a met done roots
    else
      match followPath a (met.insert root) done [(root, a.successors root)] with
      | none => true
      | some (met, done) => cycleFrom a met done roots

/-! ## The order of a sequential run -/

/-- Where a run goes on after a node: the targets of its success edges, then those of its error edges. -/
def branches (a : Adjacency) (id : NodeId) : List NodeId :=
  let edges := a.successors id
  (edges.filter (·.outcome == .success) ++ edges.filter (·.outcome == .error)).map (·.target)

theorem length_branches (a : Adjacency) (id : NodeId) :
    (a.branches id).length = (a.successors id).length := by
  simp only [branches, List.length_map, List.length_append]
  induction a.successors id with
  | nil => rfl
  | cons e edges ih =>
    cases h : e.outcome <;> simp [h] <;> omega

/-- The nodes on a stack and behind it, each when it is first come by. -/
def runOrder (a : Adjacency) (visited : NodeSet) : List NodeId → List NodeId
  | [] => []
  | id :: stack =>
    if _ : id ∈ visited then runOrder a visited stack
    else id :: runOrder a (visited.insert id) (a.branches id ++ stack)
termination_by stack => a.backlog visited + stack.length
decreasing_by
  · simp
  · next new =>
    have := a.backlog_insert new
    simp only [List.length_append, length_branches, List.length_cons]
    omega

end Workflow.Adjacency
