import Workflow.Exchange.Document
import Workflow.Settings
/-!
# Import

Two shapes of input become a graph: the visual document that `Document.ofGraph` makes, and a list of steps,
which becomes a start node and a chain of success edges below it.

Import is tolerant.  A record that cannot be rebuilt is skipped and noted, and the rest goes on without it;
only an input of neither shape is refused as a whole.
-/
namespace Workflow

open Json

inductive SourceFormat where
  | visual (version : Option String)
  | steps
deriving DecidableEq, Repr

def SourceFormat.text : SourceFormat → String
  | .visual (some v) => "visual (v" ++ v ++ ")"
  | .visual none => "visual"
  | .steps => "legacy"

inductive RecordKind where
  | node
  | connection
  | step
deriving DecidableEq, Repr

def RecordKind.name : RecordKind → String
  | .node => "node"
  | .connection => "connection"
  | .step => "step"

inductive SkipReason where
  | malformedNode (e : ReadError)
  | malformedConnection (e : ReadError)
  | rejected (r : Graph.Rejection)
  | stepNotObject
  | stepWithoutType
  | stepIsStart
  | stepUnchained (r : Graph.Rejection)

def SkipReason.message : SkipReason → String
  | .malformedNode e => "malformed node: " ++ e.message
  | .malformedConnection e => "malformed connection: " ++ e.message
  | .rejected r => r.message
  | .stepNotObject => "step is not an object"
  | .stepWithoutType => "step has no type"
  | .stepIsStart => "start steps are implied"
  | .stepUnchained r => "could not chain step: " ++ r.message

/-- A record that is not in the graph: its kind, its place among the records of that kind, and why. -/
structure Skipped where
  record : RecordKind
  index : Nat
  reason : SkipReason

def Skipped.text (s : Skipped) : String :=
  s.record.name ++ " #" ++ toString s.index ++ ": " ++ s.reason.message

inductive ImportError where
  | unreadable (f : Fault)
  | file (path reason : String)
  /-- An object that is no visual document. -/
  | notVisual
  /-- Neither an object nor an array. -/
  | notDocument (found : String)
deriving DecidableEq, Repr

def ImportError.message : ImportError → String
  | .unreadable f => "Failed to parse workflow JSON: " ++ f.message
  | .file path reason => "Could not access '" ++ path ++ "': " ++ reason
  | .notVisual =>
    "Invalid workflow document: expected a visual workflow object with a nodes array, or a step array"
  | .notDocument found => "Invalid workflow document: expected an object or an array, found " ++ found

structure Imported where
  graph : Graph Float
  source : SourceFormat
  skipped : List Skipped

def Imported.isLossless (i : Imported) : Bool := i.skipped.isEmpty

namespace Import

/-- The graph rebuilt so far, and what was left out of it. -/
structure Progress where
  graph : Graph Float
  skipped : List Skipped

def Progress.skip (p : Progress) (record : RecordKind) (index : Nat) (reason : SkipReason) : Progress :=
  { p with skipped := p.skipped ++ [⟨record, index, reason⟩] }

/-! ## Visual documents -/

def node (p : Progress) (entry : Value × Nat) : Progress :=
  match readNodeRecord entry.1 with
  | .error e => p.skip .node entry.2 (.malformedNode e)
  | .ok r =>
    match p.graph.restoreNode r.id r.kind r.position r.data with
    | (.ok _, graph) => { p with graph }
    | (.error e, graph) => { p with graph }.skip .node entry.2 (.rejected e)

def connection (p : Progress) (entry : Value × Nat) : Progress :=
  match readEdge entry.1 with
  | .error e => p.skip .connection entry.2 (.malformedConnection e)
  | .ok r =>
    match p.graph.createEdge r.source r.target r.outcome with
    | (.ok _, graph) => { p with graph }
    | (.error e, graph) => { p with graph }.skip .connection entry.2 (.rejected e)

/-- The items of an array, and none of anything else. -/
def itemsOf : Option Value → List Value
  | some (.array items) => items
  | _ => []

/-- The tag that says what an object is: under one name, or under another where the first is absent. -/
def formatTag (document : Value) : Option String :=
  (document.member? "workflow_type" <|> document.member? "formatTag").bind (·.string?)

def isArray : Option Value → Bool
  | some (.array _) => true
  | _ => false

def isVisual (document : Value) : Bool :=
  formatTag document == some Document.visualFormat && isArray (document.member? "nodes")

def versionOf (document : Value) : Option String :=
  ((document.member? "metadata").bind (·.member? "version")).bind (·.string?)

/-- Rebuilds the nodes of a visual document under their own identifiers, then its connections. -/
def visual (palette : Palette) (document : Value) : Imported :=
  let nodes := (itemsOf (document.member? "nodes")).zipIdx.foldl node ⟨.empty palette, []⟩
  let all := (itemsOf (document.member? "connections")).zipIdx.foldl connection nodes
  ⟨all.graph, .visual (versionOf document), all.skipped⟩

/-! ## Step lists -/

/-- The kind that a step names: under `type`, or under `kind` where that is absent. -/
def stepKind (step : Value) : Option Kind :=
  match (step.member? "type" <|> step.member? "kind").bind (·.string?) with
  | none => none
  | some tag => if Text.trim tag = "" then none else some (.ofTag (Text.trim tag))

/-- The names in a step that do not stand for data. -/
def stepNames : List String := ["type", "kind", "data"]

/-- The data of a step: its explicit data or else the data its kind starts with, and over that whatever else
is written on the step. -/
def stepData (step : List (String × Value)) (standard : Object) : Object :=
  let base := match step.lookup "data" with
    | some (.object members) => Object.ofList members
    | _ => standard
  base.insertAll (step.filter fun e => !stepNames.contains e.1)

/-- A chain under construction: its last node, and how far down the next one goes. -/
structure Chain where
  progress : Progress
  last : Option NodeId
  y : Float

def link (p : Progress) (last : Option NodeId) (id : NodeId) (index : Nat) : Progress :=
  match last with
  | none => p
  | some source =>
    match p.graph.createEdge source id .success with
    | (.ok _, graph) => { p with graph }
    | (.error r, graph) => { p with graph }.skip .step index (.stepUnchained r)

/-- Puts a step of a known kind at the end of the chain. -/
def extend (placement : PlacementSettings Float) (c : Chain) (step : List (String × Value)) (kind : Kind)
    (index : Nat) : Chain :=
  match c.progress.graph.createNode kind ⟨placement.stepColumnX, c.y⟩ with
  | (.error r, graph) => { c with progress := { c.progress with graph }.skip .step index (.rejected r) }
  | (.ok id, graph) =>
    let data := stepData step (graph.palette.defaultData kind)
    let progress := { c.progress with graph := (graph.replaceData id data).2 }
    ⟨link progress c.last id index, some id, c.y + placement.stepPitch⟩

def step (placement : PlacementSettings Float) (c : Chain) (entry : Value × Nat) : Chain :=
  let skip (reason : SkipReason) : Chain := { c with progress := c.progress.skip .step entry.2 reason }
  match entry.1 with
  | .object members =>
    match stepKind entry.1 with
    | none => skip .stepWithoutType
    | some kind => if kind.isStart then skip .stepIsStart else extend placement c members kind entry.2
  | _ => skip .stepNotObject

/-- A start node, and below it a node for each step that names a kind, each after the one before. -/
def steps (palette : Palette) (placement : PlacementSettings Float) (list : List Value) : Imported :=
  let start := Graph.withStart palette placement.startPosition
  let chain := list.zipIdx.foldl (step placement) ⟨⟨start, []⟩, start.startId, placement.firstStepY⟩
  ⟨chain.progress.graph, .steps, chain.progress.skipped⟩

/-! ## Either shape -/

def ofValue (palette : Palette) (placement : PlacementSettings Float) (v : Value) :
    Except ImportError Imported :=
  match v with
  | .array list => .ok (steps palette placement list)
  | .object _ => if isVisual v then .ok (visual palette v) else .error .notVisual
  | .null => .error (.notDocument "null")
  | .bool _ => .error (.notDocument "a boolean")
  | .number _ => .error (.notDocument "a number")
  | .string _ => .error (.notDocument "a string")

def ofText (palette : Palette) (placement : PlacementSettings Float) (text : String) :
    Except ImportError Imported := do
  ofValue palette placement (← (Value.ofText text).mapError .unreadable)

def ofFile (palette : Palette) (placement : PlacementSettings Float) (path : String)
    (content : Except String String) : Except ImportError Imported := do
  ofText palette placement (← content.mapError (.file path))

end Import

end Workflow
