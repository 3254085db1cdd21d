import Workflow.Exchange.Settings
import Workflow.Exchange.Timestamp
import Workflow.Graph.Store
import Workflow.Json.Print
/-!
# Workflow documents

A document is the written form of a graph: its nodes and connections as records, in insertion order, and
some words about it.  Reading is strict; the tolerant way from a document to a graph is `Import`.

Objects are written in one of two arrangements: in the order of their fields, for text, or in increasing
order of names, as the `Value` that reading gives back.
-/
namespace Workflow

open Json

/-- Whether a session authors a new workflow or edits one that exists. -/
inductive Mode where
  | create
  | edit
deriving DecidableEq, Repr

def Mode.name : Mode → String
  | .create => "create"
  | .edit => "edit"

def Mode.named : List (String × Mode) := [("create", .create), ("edit", .edit)]

structure NodeRecord where
  id : NodeId
  kind : Kind
  position : Point Float := .origin
  data : Object := .empty
  isStart : Bool := false

structure Metadata where
  created : Option Timestamp := none
  nodeCount : UInt64 := 0
  connectionCount : UInt64 := 0
  version : Option String := none
  mode : Option Mode := none
deriving DecidableEq, Repr

/-- A workflow as it is written; a connection is written as the edge it is. -/
structure Document where
  format : String
  nodes : List NodeRecord
  connections : List Edge := []
  startNode : Option NodeId := none
  metadata : Option Metadata := none

/-! ## Reading -/

section

variable {σ : Type} [Readable σ]

def readNodeId : Reader σ NodeId := fun s => (readString s).map NodeId.mk

def readKind : Reader σ Kind := fun s => (readString s).map Kind.ofTag

def readTimestamp : Reader σ Timestamp := fun s =>
  match Readable.shape s with
  | .string text => (Timestamp.ofText text).mapError fun f => .custom f.message
  | other => .error (other.mismatch "an RFC 3339 formatted date and time string")

def NodeRecord.fields : List (Field σ NodeRecord) :=
  [.needed "id" readNodeId fun r id => { r with id },
    (Field.needed "type" readKind fun r kind => { r with kind }).alias "kind",
    .optional "position" readPoint fun r position => { r with position },
    .optional "data" readObject fun r data => { r with data },
    .optional "isStart" readBool fun r isStart => { r with isStart }]

/-- The record that every node is read over. -/
def NodeRecord.blank : NodeRecord := { id := ⟨""⟩, kind := .action "" }

def readNodeRecord : Reader σ NodeRecord := readRecord "NodeRecord" NodeRecord.fields .blank

def Edge.fields : List (Field σ Edge) :=
  [.needed "source" readNodeId fun e source => { e with source },
    .needed "target" readNodeId fun e target => { e with target },
    (Field.needed "type" (readVariant Outcome.named none) fun e outcome => { e with outcome }).alias "label"]

def readEdge : Reader σ Edge := readRecord "ConnectionRecord" Edge.fields ⟨⟨""⟩, ⟨""⟩, .success⟩

def Metadata.fields : List (Field σ Metadata) :=
  [.optional "created" (readOption readTimestamp) fun m created => { m with created },
    .optional "nodeCount" (readWord "usize") fun m nodeCount => { m with nodeCount },
    .optional "connectionCount" (readWord "usize") fun m connectionCount => { m with connectionCount },
    .optional "version" (readOption readString) fun m version => { m with version },
    .optional "mode" (readOption (readVariant Mode.named none)) fun m mode => { m with mode }]

def readMetadata : Reader σ Metadata := readRecord "Metadata" Metadata.fields {}

def Document.fields : List (Field σ Document) :=
  [(Field.needed "workflow_type" readString fun d format => { d with format }).alias "formatTag",
    .needed "nodes" (readList readNodeRecord) fun d nodes => { d with nodes },
    .optional "connections" (readList readEdge) fun d connections => { d with connections },
    .optional "startNode" (readOption readNodeId) fun d startNode => { d with startNode },
    .optional "metadata" (readOption readMetadata) fun d metadata => { d with metadata }]

def readDocument : Reader σ Document :=
  readRecord "WorkflowDocument" Document.fields { format := "", nodes := [] }

end

def Document.ofText (text : String) : Except ReadError Document := readText readDocument text

/-! ## Writing -/

/-- A way to make an object of members that come in the order of the fields. -/
abbrev Arrangement := List (String × Value) → Value

/-- Members in increasing order of names. -/
def sorted : Arrangement := fun members => (Object.ofList members).toValue

/-- A member that is only written if there is something to write. -/
def optionalMember {α : Type} (name : String) (v : Option α) (write : α → Value) : List (String × Value) :=
  match v with
  | none => []
  | some a => [(name, write a)]

def orNull {α : Type} (v : Option α) (write : α → Value) : Value :=
  match v with
  | none => .null
  | some a => write a

def NodeRecord.write (arrange : Arrangement) (r : NodeRecord) : Value :=
  arrange
    [("id", .string r.id.text), ("type", .string r.kind.tag), ("position", r.position.toValue),
      ("data", r.data.toValue), ("isStart", .bool r.isStart)]

def Edge.write (arrange : Arrangement) (e : Edge) : Value :=
  arrange
    [("source", .string e.source.text), ("target", .string e.target.text), ("type", .string e.outcome.name)]

def Metadata.write (arrange : Arrangement) (m : Metadata) : Value :=
  arrange <|
    optionalMember "created" m.created (fun t => .string t.text)
      ++ [("nodeCount", .ofWord m.nodeCount), ("connectionCount", .ofWord m.connectionCount)]
      ++ optionalMember "version" m.version .string
      ++ optionalMember "mode" m.mode (fun m => .string m.name)

namespace Document

def write (arrange : Arrangement) (d : Document) : Value :=
  arrange <|
    [("workflow_type", .string d.format), ("nodes", .array (d.nodes.map (·.write arrange))),
      ("connections", .array (d.connections.map (·.write arrange))),
      ("startNode", orNull d.startNode fun id => .string id.text)]
      ++ optionalMember "metadata" d.metadata (·.write arrange)

def toValue (d : Document) : Value := d.write sorted

/-- A document as text over several lines. -/
def text (d : Document) : String := (d.write .object).pretty

def visualFormat : String := "visual"

def visualVersion : String := "2.0"

/-- The document of a graph, created at some moment if one is told. -/
def ofGraph (g : Graph Float) (mode : Mode) (created : Option Timestamp) : Document :=
  let nodes := g.nodeList.map fun n => NodeRecord.mk n.id n.kind n.position n.data (g.isStart n.id)
  { format := visualFormat
    nodes
    connections := g.edges
    startNode := g.startId
    metadata := some ⟨created, .ofNat nodes.length, .ofNat g.edges.length, some visualVersion, some mode⟩ }

end Document

end Workflow
