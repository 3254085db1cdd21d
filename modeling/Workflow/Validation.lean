import Workflow.Graph.Store
/-!
# Validation

A graph can be drawn freely, so it may hold what cannot run.  `Graph.validate` lists every issue in a fixed
order: the start node, nodes it does not lead to, then node by node the kind, the required fields and the
references, and last whether there is anything to run.

A reference is good if some node produces its name.  The names that nodes of a kind produce in a field are
collected once, when a reference first asks for them.
-/
namespace Workflow

open Json (Value)

inductive Severity where
  | warning
  | error
deriving DecidableEq, Repr

/-- Something about a graph that its author should know. -/
inductive Issue where
  | missingStart
  | unreachable (id : NodeId)
  | missingField (id : NodeId) (field : String)
  | danglingReference (id : NodeId) (field reference : String)
  | noPath
  | unknownKind (id : NodeId) (kind : String)
deriving DecidableEq, Repr

def Severity.name : Severity → String
  | .warning => "warning"
  | .error => "error"

namespace Issue

/-- Only issues that keep a workflow from running are errors. -/
def severity : Issue → Severity
  | .unreachable _ => .warning
  | .unknownKind _ _ => .warning
  | _ => .error

def nodeId : Issue → Option NodeId
  | .missingStart => none
  | .unreachable id => some id
  | .missingField id _ => some id
  | .danglingReference id _ _ => some id
  | .noPath => none
  | .unknownKind id _ => some id

def message : Issue → String
  | .missingStart => "Workflow has no start node"
  | .unreachable id => "Node '" ++ id.text ++ "' is not reachable from the start node"
  | .missingField id field => "Node '" ++ id.text ++ "' is missing required field '" ++ field ++ "'"
  | .danglingReference id field reference =>
    "Node '" ++ id.text ++ "' field '" ++ field ++ "' references '" ++ reference ++ "', which no node creates"
  | .noPath => "No valid execution path from the start node"
  | .unknownKind id kind => "Node '" ++ id.text ++ "' has unknown kind '" ++ kind ++ "'"

def toValue (i : Issue) : Value :=
  .object <| match i with
    | .missingStart => [("issue", .string "missingStartNode")]
    | .unreachable id => [("issue", .string "unreachableNode"), ("nodeId", .string id.text)]
    | .missingField id field =>
      [("issue", .string "missingRequiredField"), ("nodeId", .string id.text), ("field", .string field)]
    | .danglingReference id field reference =>
      [("issue", .string "danglingReference"), ("nodeId", .string id.text), ("field", .string field),
        ("reference", .string reference)]
    | .noPath => [("issue", .string "noExecutionPath")]
    | .unknownKind id kind =>
      [("issue", .string "unknownNodeKind"), ("nodeId", .string id.text), ("kind", .string kind)]

end Issue

/-- The issues of a graph, in the order of the checks. -/
structure Validation where
  issues : List Issue
deriving DecidableEq, Repr

namespace Validation

def isValid (v : Validation) : Bool := v.issues.isEmpty

/-- The issues that keep the workflow from running. -/
def errors (v : Validation) : List Issue := v.issues.filter (·.severity == .error)

/-- The issues that do not. -/
def warnings (v : Validation) : List Issue := v.issues.filter (·.severity == .warning)

def hasErrors (v : Validation) : Bool := !v.errors.isEmpty

/-- One line for each issue, or one that says there is none. -/
def text (v : Validation) : String :=
  if v.issues.isEmpty then "Workflow is valid\n"
  else String.join (v.issues.map fun i => "[" ++ i.severity.name ++ "] " ++ i.message ++ "\n")

def toValue (v : Validation) : Value := .object [("issues", .array (v.issues.map Issue.toValue))]

/-- Null, blank text and lists without items are as good as no value. -/
def isVacant : Value → Bool
  | .null => true
  | .string s => Text.trim s == ""
  | .array items => items.isEmpty
  | _ => false

/-! ## Names that nodes produce -/

/-- A kind and a field of it. -/
abbrev Source := String × String

instance : Ord Source := lexOrd

instance : Std.TransOrd Source :=
  inferInstanceAs (Std.TransCmp (compareLex (compareOn Prod.fst) (compareOn Prod.snd)))

/-- The names collected so far. -/
abbrev Produced := Std.ExtTreeMap Source (List String)

variable {α : Type}

/-- The names that nodes of a kind produce in a field. -/
def namesFrom (g : Graph α) (kind field : String) : List String :=
  (g.nodeList.filter (·.kind == .ofTag kind)).filterMap (·.textField field)

/-- The names that a reference may use because nodes produce them, collected unless they were before. -/
def lookUp (g : Graph α) (r : Palette.Reference) (produced : Produced) : List String × Produced :=
  match produced[(r.kind, r.field)]? with
  | some names => (names, produced)
  | none =>
    let names := namesFrom g r.kind r.field
    (names, produced.insert (r.kind, r.field) names)

/-! ## Checks -/

/-- The required fields that a node has no value for. -/
def missingFields (n : Node α) (e : Palette.Entry) : List Issue :=
  (e.requiredFields.filter fun f => ((n.data.get? f.name).map isVacant).getD true).map
    fun f => .missingField n.id f.name

/-- The issue with one reference of a node, if there is one. -/
def checkReference (g : Graph α) (n : Node α) (produced : Produced) (f : Palette.Field)
    (r : Palette.Reference) : List Issue × Produced :=
  match n.textField f.name with
  | none => ([], produced)
  | some name =>
    if r.implicit.contains name then ([], produced)
    else
      let (names, produced) := lookUp g r produced
      (if names.contains name then [] else [.danglingReference n.id f.name name], produced)

def checkReferences (g : Graph α) (n : Node α) :
    List (Palette.Field × Palette.Reference) → Produced → List Issue × Produced
  | [], produced => ([], produced)
  | (f, r) :: rest, produced =>
    let (issues, produced) := checkReference g n produced f r
    let (more, produced) := checkReferences g n rest produced
    (issues ++ more, produced)

/-- The issues with the kind and the fields of one node. -/
def checkNode (g : Graph α) (n : Node α) (produced : Produced) : List Issue × Produced :=
  match g.palette.get? n.kind with
  | none =>
    (if !g.palette.isEmpty && !n.isStart then [.unknownKind n.id n.kind.tag] else [], produced)
  | some e =>
    let (dangling, produced) := checkReferences g n e.references produced
    (missingFields n e ++ dangling, produced)

def checkNodes (g : Graph α) : List (Node α) → Produced → List Issue × Produced
  | [], produced => ([], produced)
  | n :: rest, produced =>
    let (issues, produced) := checkNode g n produced
    let (more, produced) := checkNodes g rest produced
    (issues ++ more, produced)

end Validation

def Graph.validate {α : Type} (g : Graph α) : Validation :=
  let start := g.startId.filter g.containsNode
  let reachable : NodeSet := match start with
    | some id => .ofList (g.reachable id)
    | none => ∅
  let shape := match start with
    | some _ => ((g.nodeList.map (·.id)).filter (· ∉ reachable)).map .unreachable
    | none => [.missingStart]
  let fields := (Validation.checkNodes g g.nodeList ∅).1
  ⟨shape ++ fields ++ if reachable.size ≤ 1 then [.noPath] else []⟩

end Workflow
