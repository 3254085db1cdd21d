import Workflow.Json.Value
import Workflow.Json.Quoted
import Workflow.Decimal.Style
/-!
# Writing values

Members are written in the order they stand in.  `compact` writes no blanks; `pretty` writes one item or
member a line, two spaces deeper than its container, and leaves an empty container on one line.
-/
namespace Workflow.Json

def Number.text : Number → String
  | .int i _ => toString i
  | .float x _ => Style.json.text x

namespace Value

mutual

/-- A value on one line, without blanks. -/
def compact : Value → String
  | .null => "null"
  | .bool b => if b then "true" else "false"
  | .number n => n.text
  | .string s => Quoted.quote s
  | .array items => "[" ++ ",".intercalate (compactItems items) ++ "]"
  | .object members => "\x7b" ++ ",".intercalate (compactMembers members) ++ "\x7d"

def compactItems : List Value → List String
  | [] => []
  | v :: rest => compact v :: compactItems rest

def compactMembers : List (String × Value) → List String
  | [] => []
  | (name, v) :: rest => (Quoted.quote name ++ ":" ++ compact v) :: compactMembers rest

end

def lineBreak (depth : Nat) : String := "\n" ++ "".pushn ' ' (2 * depth)

/-- The parts of a container between its brackets, a line each. -/
def enclose (depth : Nat) (left right : String) (parts : List String) : String :=
  if parts.isEmpty then left ++ right
  else
    let between := "," ++ lineBreak (depth + 1)
    left ++ lineBreak (depth + 1) ++ between.intercalate parts ++ lineBreak depth ++ right

mutual

/-- A value over several lines, its first at some depth. -/
def prettyAt (depth : Nat) : Value → String
  | .array items => enclose depth "[" "]" (prettyItems (depth + 1) items)
  | .object members => enclose depth "\x7b" "\x7d" (prettyMembers (depth + 1) members)
  | .null => "null"
  | .bool b => if b then "true" else "false"
  | .number n => n.text
  | .string s => Quoted.quote s

def prettyItems (depth : Nat) : List Value → List String
  | [] => []
  | v :: rest => prettyAt depth v :: prettyItems depth rest

def prettyMembers (depth : Nat) : List (String × Value) → List String
  | [] => []
  | (name, v) :: rest => (Quoted.quote name ++ ": " ++ prettyAt depth v) :: prettyMembers depth rest

end

def pretty (v : Value) : String := prettyAt 0 v

end Value

end Workflow.Json
