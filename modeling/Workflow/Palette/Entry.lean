import Workflow.Json.Value
/-!
# Palette entries

An entry describes one kind of node: how it is shown, the data a new node starts with, and its fields.  A
field may be required, and it may refer to a name that nodes of some kind produce.
-/
namespace Workflow.Palette

open Json (Value Object)

inductive Widget where
  | text
  | url
  | number
  | textarea
  | select
  | checkbox
  | other
deriving DecidableEq, Repr

/-- The widgets by name; every other name is shown as `other`. -/
def Widget.named : List (String × Widget) :=
  [("text", .text), ("url", .url), ("number", .number), ("textarea", .textarea), ("select", .select),
    ("checkbox", .checkbox), ("other", .other)]

def Widget.name : Widget → String
  | .text => "text"
  | .url => "url"
  | .number => "number"
  | .textarea => "textarea"
  | .select => "select"
  | .checkbox => "checkbox"
  | .other => "other"

structure Choice where
  value : Value
  label : String

/-- Says that a field names what a field of another kind of node produces, or one of some names that exist
without being produced. -/
structure Reference where
  kind : String
  field : String
  implicit : List String := []
deriving DecidableEq, Repr

structure Field where
  name : String
  label : String
  widget : Widget
  required : Bool := false
  defaultValue : Option Value := none
  choices : List Choice := []
  min : Option Float := none
  max : Option Float := none
  placeholder : Option String := none
  description : Option String := none
  reference : Option Reference := none

/-- What a palette says of one kind of node. -/
structure Entry where
  title : String
  icon : String := ""
  description : String := ""
  category : Option String := none
  defaultData : Object := .empty
  fields : List Field := []

namespace Entry

def field? (e : Entry) (name : String) : Option Field := e.fields.find? (·.name == name)

def requiredFields (e : Entry) : List Field := e.fields.filter (·.required)

/-- The fields that refer to what other nodes produce. -/
def references (e : Entry) : List (Field × Reference) :=
  e.fields.filterMap fun f => f.reference.map fun r => (f, r)

end Entry

end Workflow.Palette
