import Workflow.Graph.Identifier
/-!
# Ports and edges

A node has an input port on its left and an output port on its right for each outcome.  An edge leaves one
node by an output port and enters another; source, target and outcome together are the edge, so there is at
most one of each triple.  Edges are ordered by source, then target, then outcome.
-/
namespace Workflow

/-- How a step ended, and so which way the workflow goes on. -/
inductive Outcome where
  | success
  | error
deriving DecidableEq, Repr

/-- A connection point of a node. -/
inductive Port where
  | input
  | success
  | error
deriving DecidableEq, Repr

namespace Outcome

def port : Outcome → Port
  | .success => .success
  | .error => .error

def name : Outcome → String
  | .success => "success"
  | .error => "error"

def named : List (String × Outcome) := [("success", .success), ("error", .error)]

/-- Success comes before error. -/
def rank : Outcome → Nat
  | .success => 0
  | .error => 1

instance : Ord Outcome := ⟨compareOn rank⟩

instance : Std.TransOrd Outcome := inferInstanceAs (Std.TransCmp (compareOn rank))

instance : Std.LawfulEqOrd Outcome where
  eq_of_compare {a b} h :=
    match a, b, h with
    | .success, .success, _ => rfl
    | .error, .error, _ => rfl

end Outcome

namespace Port

def isOutput : Port → Bool
  | .input => false
  | _ => true

def outcome : Port → Option Outcome
  | .input => none
  | .success => some .success
  | .error => some .error

end Port

/-- A connection from an output port of one node to the input of another. -/
@[ext]
structure Edge where
  source : NodeId
  target : NodeId
  outcome : Outcome
deriving DecidableEq, Repr

namespace Edge

instance : Ord Edge :=
  ⟨compareLex (compareOn source) (compareLex (compareOn target) (compareOn outcome))⟩

instance : Std.TransOrd Edge :=
  inferInstanceAs (Std.TransCmp
    (compareLex (compareOn source) (compareLex (compareOn target) (compareOn outcome))))

instance : Std.LawfulEqOrd Edge where
  eq_of_compare {a b} h := by
    obtain ⟨source, rest⟩ := Ordering.then_eq_eq.1 h
    obtain ⟨target, outcome⟩ := Ordering.then_eq_eq.1 rest
    exact Edge.ext (Std.LawfulEqOrd.eq_of_compare source) (Std.LawfulEqOrd.eq_of_compare target)
      (Std.LawfulEqOrd.eq_of_compare outcome)

def touches (e : Edge) (id : NodeId) : Bool := e.source == id || e.target == id

def text (e : Edge) : String := e.source.text ++ "_" ++ e.target.text ++ "_" ++ e.outcome.name

end Edge

end Workflow
