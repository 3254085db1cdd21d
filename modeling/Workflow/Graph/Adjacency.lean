import Std.Data.ExtTreeMap
import Std.Data.ExtTreeSet
import Workflow.Graph.Edge
/-!
# Adjacency

The edges that leave each node, in the order they were added.  Every walk over a graph reads this table
only.

A walk ends because of its *backlog*: the edges that leave nodes it has not visited yet.  Visiting a node
takes the node's edges out of the backlog (`backlog_insert`), so a walk that follows each of them once is
paid for, however often the table sends it back to nodes it has been at.
-/
namespace Workflow

abbrev NodeSet := Std.ExtTreeSet NodeId

/-- The edges that leave each node. -/
abbrev Adjacency := Std.ExtTreeMap NodeId (List Edge)

namespace Adjacency

/-- The edges that leave a node, in the order they were added. -/
def successors (a : Adjacency) (id : NodeId) : List Edge := (a[id]?).getD []

/-- Adds an edge after the others that leave its source. -/
def add (a : Adjacency) (e : Edge) : Adjacency := a.insert e.source (a.successors e.source ++ [e])

def remove (a : Adjacency) (e : Edge) : Adjacency := a.modify e.source (·.filter (· ≠ e))

def forget (a : Adjacency) (id : NodeId) : Adjacency := a.erase id

@[simp]
theorem successors_empty (id : NodeId) : successors ∅ id = [] := by
  simp [successors]

theorem successors_add (a : Adjacency) (e : Edge) (id : NodeId) :
    (a.add e).successors id = if e.source = id then a.successors id ++ [e] else a.successors id := by
  simp only [successors, add, Std.ExtTreeMap.getElem?_insert, Std.LawfulEqCmp.compare_eq_iff_eq]
  split
  · next h => subst h; rfl
  · rfl

theorem successors_remove (a : Adjacency) (e : Edge) (id : NodeId) :
    (a.remove e).successors id =
      if e.source = id then (a.successors id).filter (· ≠ e) else a.successors id := by
  simp only [successors, remove, Std.ExtTreeMap.getElem?_modify, Std.LawfulEqCmp.compare_eq_iff_eq]
  split
  · next h => subst h; cases a[e.source]? <;> rfl
  · rfl

theorem successors_forget (a : Adjacency) (gone id : NodeId) :
    (a.forget gone).successors id = if gone = id then [] else a.successors id := by
  simp only [successors, forget, Std.ExtTreeMap.getElem?_erase, Std.LawfulEqCmp.compare_eq_iff_eq]
  split <;> rfl

/-! ## What a walk has left to do -/

/-- The edges in some rows of the table whose node is not visited. -/
def backlogOf (visited : NodeSet) : List (NodeId × List Edge) → Nat
  | [] => 0
  | r :: rows => (if r.1 ∈ visited then 0 else r.2.length) + backlogOf visited rows

/-- The number of edges that leave nodes which are not visited. -/
def backlog (a : Adjacency) (visited : NodeSet) : Nat := backlogOf visited a.toList

theorem backlogOf_insert_le (visited : NodeSet) (id : NodeId) :
    ∀ rows, backlogOf (visited.insert id) rows ≤ backlogOf visited rows
  | [] => Nat.le_refl _
  | r :: rows => by
    have := backlogOf_insert_le visited id rows
    simp only [backlogOf, Std.ExtTreeSet.mem_insert] at *
    split <;> split <;> simp_all
    omega

theorem backlogOf_insert_of_mem {visited : NodeSet} {id : NodeId} (new : id ∉ visited) {out : List Edge} :
    ∀ {rows}, (id, out) ∈ rows → backlogOf (visited.insert id) rows + out.length ≤ backlogOf visited rows
  | r :: rows, h => by
    rcases List.mem_cons.1 h with rfl | h
    · have := backlogOf_insert_le visited id rows
      simp only [backlogOf, Std.ExtTreeSet.mem_insert,
        Std.ReflCmp.compare_self, true_or, if_true, if_neg new] at *
      omega
    · have := backlogOf_insert_of_mem new h
      simp only [backlogOf, Std.ExtTreeSet.mem_insert] at *
      split <;> split <;> simp_all <;> omega

/-- Visiting a node takes its edges out of the backlog. -/
theorem backlog_insert (a : Adjacency) {visited : NodeSet} {id : NodeId} (new : id ∉ visited) :
    a.backlog (visited.insert id) + (a.successors id).length ≤ a.backlog visited := by
  unfold successors backlog
  cases h : a[id]? with
  | none => simpa using backlogOf_insert_le visited id a.toList
  | some out => exact backlogOf_insert_of_mem new (Std.ExtTreeMap.mem_toList_iff_getElem?_eq_some.2 h)

end Adjacency

end Workflow
