import Workflow.Graph.Node
import Workflow.Graph.Walk
import Workflow.Palette.Catalog
/-!
# The graph store

A `Graph` owns the nodes and edges of a workflow.  Insertion order is kept in lists; beside them stand the
tables that make look-ups fast: nodes by identifier, the set of edges, the edges that leave each node.

Every change checks its conditions against the store as it is, and answers together with the store it
leaves: the changed one, or the old one if it was refused.

* At most one node is a start node, and it is never deleted.
* No edge closes a cycle; no edge connects a node to itself.
* Both ends of an edge are nodes of the graph: deleting a node deletes its edges first.
* Identifiers and edges are unique, and fresh identifiers are never used again.
-/
namespace Workflow

open Json (Object Value)

/-- A workflow on the canvas. -/
structure Graph (α : Type) where
  palette : Palette
  nodes : Std.ExtTreeMap NodeId (Node α)
  /-- The identifiers of the nodes, in insertion order. -/
  order : List NodeId
  /-- The edges, in insertion order. -/
  edges : List Edge
  edgeSet : Std.ExtTreeSet Edge
  /-- The edges that leave each node, in insertion order. -/
  outgoing : Adjacency
  startId : Option NodeId
  /-- The last number used for a fresh identifier. -/
  counter : Nat

namespace Graph

inductive Rejection where
  | startProtected (id : NodeId)
  | selfLoop (id : NodeId)
  | duplicateEdge (e : Edge)
  | missingEndpoint (id : NodeId)
  | cycle (source target : NodeId)
  | unknownNode (id : NodeId)
  | unknownEdge (e : Edge)
  | secondStart (id : NodeId)
  | idTaken (id : NodeId)
  | idsExhausted
deriving DecidableEq, Repr

def Rejection.message : Rejection → String
  | .startProtected id => "Node '" ++ id.text ++ "' is the start node and cannot be deleted"
  | .selfLoop id => "Node '" ++ id.text ++ "' cannot be connected to itself"
  | .duplicateEdge e => "Connection '" ++ e.text ++ "' already exists"
  | .missingEndpoint id => "Connection endpoint '" ++ id.text ++ "' does not exist"
  | .cycle source target =>
    "Connecting '" ++ source.text ++ "' to '" ++ target.text ++ "' would create a cycle in the workflow"
  | .unknownNode id => "Node '" ++ id.text ++ "' not found"
  | .unknownEdge e => "Connection '" ++ e.text ++ "' not found"
  | .secondStart id => "The workflow already has a start node ('" ++ id.text ++ "')"
  | .idTaken id => "Node id '" ++ id.text ++ "' is already in use"
  | .idsExhausted => "No fresh node id is left; the id counter is at its maximum"

/-- What a change answers, and the store it leaves. -/
abbrev Change (α β : Type) := Except Rejection β × Graph α

/-- A deleted node and the edges that went with it. -/
structure Removed (α : Type) where
  node : Node α
  edges : List Edge

/-! ## Queries -/

section Queries

variable {α : Type} (g : Graph α)

def node? (id : NodeId) : Option (Node α) := g.nodes[id]?

def containsNode (id : NodeId) : Bool := g.nodes.contains id

/-- The nodes, in insertion order. -/
def nodeList : List (Node α) := g.order.filterMap g.node?

def containsEdge (e : Edge) : Bool := g.edgeSet.contains e

/-- The edges that leave a node, in insertion order. -/
def successors (id : NodeId) : List Edge := g.outgoing.successors id

/-- The edges that touch a node, in insertion order. -/
def edgesTouching (id : NodeId) : List Edge := g.edges.filter (·.touches id)

def isStart (id : NodeId) : Bool := g.startId == some id

def nodeCount : Nat := g.nodes.size

def edgeCount : Nat := g.edges.length

def isEmpty : Bool := g.nodes.isEmpty

/-- Would an edge close a cycle: does its target already lead to its source? -/
def wouldCycle (source target : NodeId) : Bool := g.outgoing.leadsTo source ∅ [target]

/-- The nodes a node leads to with their least number of steps, nearest first; equally near ones in the
order they are come upon, edges taken in insertion order. -/
def levels (start : NodeId) : List (NodeId × Nat) :=
  if g.containsNode start then
    g.outgoing.levelsFrom ((∅ : NodeSet).insert start) [(start, 0)]
  else []

/-- The nodes a node leads to, itself included, nearest first. -/
def reachable (start : NodeId) : List NodeId := (g.levels start).map (·.1)

/-- Is there a cycle anywhere?  The store admits none; this looks at all of it again. -/
def hasCycle : Bool := g.outgoing.cycleFrom ∅ ∅ g.order

/-- The nodes that a runner which takes one step after another comes by: success before error, each once. -/
def runOrder : List NodeId :=
  match g.startId with
  | none => []
  | some start => g.outgoing.runOrder ∅ [start]

/-- The steps of such a runner, in order; the start node is none. -/
def steps : List Object := (g.runOrder.filterMap g.node?).filterMap fun n => if n.isStart then none else some n.step

end Queries

/-! ## Changes -/

section Changes

variable {α : Type}

def empty (palette : Palette) : Graph α :=
  { palette, nodes := ∅, order := [], edges := [], edgeSet := ∅, outgoing := ∅, startId := none, counter := 0 }

/-- Removes everything and numbers from the beginning again. -/
def clear (g : Graph α) : Graph α := empty g.palette

/-- Puts a node into the store, after the others. -/
def place (g : Graph α) (n : Node α) : Graph α :=
  { g with
    nodes := g.nodes.insert n.id n
    order := g.order ++ [n.id]
    startId := if n.isStart then some n.id else g.startId }

/-- Takes an edge out of the list and both tables. -/
def dropEdge (g : Graph α) (e : Edge) : Graph α :=
  { g with
    edges := g.edges.filter (· ≠ e)
    edgeSet := g.edgeSet.erase e
    outgoing := g.outgoing.remove e }

/-- Puts an edge into the list, after the others, and into both tables. -/
def addEdge (g : Graph α) (e : Edge) : Graph α :=
  { g with
    edges := g.edges ++ [e]
    edgeSet := g.edgeSet.insert e
    outgoing := g.outgoing.add e }

/-- The refusal that a node of some kind meets because there is a start node. -/
def startConflict (g : Graph α) (kind : Kind) : Option Rejection :=
  if kind.isStart then g.startId.map .secondStart else none

/-- The next identifier that is not taken, and the counter it leaves. -/
def nextId (nodes : Std.ExtTreeMap NodeId (Node α)) (counter : Nat) : Except Rejection NodeId × Nat :=
  if _ : counter < NodeId.maxNumber then
    let id := NodeId.numbered (counter + 1)
    if nodes.contains id then nextId nodes (counter + 1) else (.ok id, counter + 1)
  else (.error .idsExhausted, counter)
termination_by NodeId.maxNumber - counter

def allocate (g : Graph α) : Change α NodeId :=
  let (id, counter) := nextId g.nodes g.counter
  (id, { g with counter })

def replaceData (g : Graph α) (id : NodeId) (data : Object) : Change α Object :=
  match g.node? id with
  | none => (.error (.unknownNode id), g)
  | some n => (.ok n.data, { g with nodes := g.nodes.insert id { n with data } })

/-- Sets one field of a node's data; answers what stood there.  Whether the value suits the field is
nothing the store asks. -/
def updateField (g : Graph α) (id : NodeId) (name : String) (v : Value) : Change α (Option Value) :=
  match g.node? id with
  | none => (.error (.unknownNode id), g)
  | some n => (.ok (n.data.get? name), { g with nodes := g.nodes.insert id { n with data := n.data.insert name v } })

/-- Deletes a node; before it, every edge that touches it. -/
def deleteNode (g : Graph α) (id : NodeId) : Change α (Removed α) :=
  if g.isStart id then (.error (.startProtected id), g)
  else
    match g.node? id with
    | none => (.error (.unknownNode id), g)
    | some n =>
      let doomed := g.edgesTouching id
      let cut := doomed.foldl dropEdge g
      (.ok ⟨n, doomed⟩,
        { cut with
          outgoing := cut.outgoing.forget id
          order := cut.order.filter (· ≠ id)
          nodes := cut.nodes.erase id })

def deleteEdge (g : Graph α) (e : Edge) : Change α Unit :=
  if g.containsEdge e then (.ok (), g.dropEdge e) else (.error (.unknownEdge e), g)

/-- Connects an output port of one node to the input of another. -/
def createEdge (g : Graph α) (source target : NodeId) (outcome : Outcome) : Change α Edge :=
  let e : Edge := ⟨source, target, outcome⟩
  if source = target then (.error (.selfLoop source), g)
  else if g.containsEdge e then (.error (.duplicateEdge e), g)
  else if !g.containsNode source then (.error (.missingEndpoint source), g)
  else if !g.containsNode target then (.error (.missingEndpoint target), g)
  else if g.wouldCycle source target then (.error (.cycle source target), g)
  else (.ok e, g.addEdge e)

variable [Scalar α]

def withStart (palette : Palette) (position : Point α) : Graph α :=
  place { (empty palette : Graph α) with counter := 1 }
    ⟨.numbered 1, .start, position.clamp, palette.defaultData .start⟩

/-- Creates a node of some kind with that kind's data; answers its fresh identifier. -/
def createNode (g : Graph α) (kind : Kind) (position : Point α) : Change α NodeId :=
  match g.startConflict kind with
  | some r => (.error r, g)
  | none =>
    match g.allocate with
    | (.error r, g) => (.error r, g)
    | (.ok id, g) => (.ok id, g.place ⟨id, kind, position.clamp, g.palette.defaultData kind⟩)

/-- Puts back a node under an identifier from outside.  Fresh identifiers go on above its number. -/
def restoreNode (g : Graph α) (id : NodeId) (kind : Kind) (position : Point α) (data : Object) :
    Change α Unit :=
  if g.containsNode id then (.error (.idTaken id), g)
  else
    match g.startConflict kind with
    | some r => (.error r, g)
    | none =>
      let counter := max g.counter (id.number?.getD 0)
      (.ok (), { g with counter }.place ⟨id, kind, position.clamp, data⟩)

/-- Moves a node; answers where it went, which is never negative. -/
def moveNode (g : Graph α) (id : NodeId) (position : Point α) : Change α (Point α) :=
  match g.node? id with
  | none => (.error (.unknownNode id), g)
  | some n =>
    (.ok position.clamp, { g with nodes := g.nodes.insert id { n with position := position.clamp } })

end Changes

end Graph

end Workflow
