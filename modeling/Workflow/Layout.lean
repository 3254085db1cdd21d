import Workflow.Settings
import Workflow.Graph.Store
/-!
# Automatic layout

Nodes that the start node leads to are placed in columns by their distance from it, and from top to bottom
within a column in the order they are come upon.  All others stay where they are.
-/
namespace Workflow.Layout

variable {α : Type}

structure Report (α : Type) where
  /-- The nodes it placed and where, in that order. -/
  placed : List (NodeId × Point α)
  columns : Nat
  /-- The nodes it left where they were. -/
  untouched : List NodeId

def Report.empty : Report α := ⟨[], 0, []⟩

def Report.positionOf (r : Report α) (id : NodeId) : Option (Point α) := r.placed.lookup id

/-- Nodes by distance, cut into columns of equal distance. -/
def columns (levels : List (NodeId × Nat)) : List (List (NodeId × Nat)) :=
  levels.splitBy fun a b => a.2 == b.2

/-- The nodes of a column with their columns and rows. -/
def rows (column : List (NodeId × Nat)) : List (NodeId × Nat × Nat) :=
  column.zipIdx.map fun ((id, level), row) => (id, level, row)

/-- Nodes by distance, each with its column and its row. -/
def grid (levels : List (NodeId × Nat)) : List (NodeId × Nat × Nat) := (columns levels).flatMap rows

variable [Scalar α]

def cell (p : PlacementSettings α) (level row : Nat) : Point α :=
  ⟨p.layoutOrigin.x + Scalar.ofNat level * p.levelWidth, p.layoutOrigin.y + Scalar.ofNat row * p.nodePitch⟩

/-- Moves one node to its place and notes where it went. -/
def settle (p : PlacementSettings α) (acc : List (NodeId × Point α) × Graph α) (n : NodeId × Nat × Nat) :
    List (NodeId × Point α) × Graph α :=
  match acc.2.moveNode n.1 (cell p n.2.1 n.2.2) with
  | (.ok position, g) => (acc.1 ++ [(n.1, position)], g)
  | (.error _, g) => (acc.1, g)

def arrange (g : Graph α) (p : PlacementSettings α) : Report α × Graph α :=
  match g.startId with
  | none => ({ Report.empty with untouched := g.nodeList.map (·.id) }, g)
  | some start =>
    let levels := g.levels start
    let (placed, moved) := (grid levels).foldl (settle p) ([], g)
    let ids : NodeSet := .ofList (placed.map (·.1))
    let columns := levels.foldl (fun n l => max n (l.2 + 1)) 0
    let untouched := (moved.nodeList.map (·.id)).filter (· ∉ ids)
    (⟨placed, columns, untouched⟩, moved)

end Workflow.Layout
