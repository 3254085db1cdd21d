import Workflow.Json.Token
/-!
# From tokens to a source tree

A stack of the containers still open, and what is due next, are all the state that building a tree takes;
every token is one step.  A token that does not belong where it stands ends the tree: every open container
is closed around it, so the defect is the last thing in each of them.
-/
namespace Workflow.Json

/-- A container still open, its parts read so far last first. -/
inductive Frame where
  | array (items : List Source)
  | object (members : List (Key × Source))
  | member (members : List (Key × Source)) (key : Key)

inductive Due where
  | value
  | firstItem
  | nextItem
  | firstMember
  | nextMember
  | colon
  | separator
deriving DecidableEq, Repr

/-- A tree under construction: the open containers, innermost first, and what is due; or the whole tree. -/
inductive Progress where
  | going (stack : List Frame) (due : Due)
  | done (tree : Source)

namespace Progress

/-- Containers inside this many others are buried. -/
def depthLimit : Nat := 127

/-- Closes every open container around a part that ends the text. -/
def abandon (part : Source) : List Frame → Source
  | [] => part
  | .array items :: stack =>
    abandon (.array (depthLimit ≤ stack.length) (part :: items).reverse .closed) stack
  | .object members :: stack =>
    abandon (.object (depthLimit ≤ stack.length) members.reverse .closed) stack
  | .member members key :: stack =>
    abandon (.object (depthLimit ≤ stack.length) ((key, part) :: members).reverse .closed) stack

/-- Closes the innermost container with an ending that ends the text, and every other around it. -/
def abandonAt (ending : Ending) : List Frame → Source
  | .array items :: stack =>
    abandon (.array (depthLimit ≤ stack.length) items.reverse ending) stack
  | .object members :: stack =>
    abandon (.object (depthLimit ≤ stack.length) members.reverse ending) stack
  | stack => abandon (.broken Fault.expectedValue.always) stack

def attach (part : Source) : List Frame → Progress
  | [] => .done part
  | .array items :: stack => .going (.array (part :: items) :: stack) .separator
  | .object members :: stack => .going (.object members :: stack) .separator
  | .member members key :: stack => .going (.object ((key, part) :: members) :: stack) .separator

def close : List Frame → Progress
  | .array items :: stack => attach (.array (depthLimit ≤ stack.length) items.reverse .closed) stack
  | .object members :: stack => attach (.object (depthLimit ≤ stack.length) members.reverse .closed) stack
  | stack => .done (abandon (.broken Fault.expectedValue.always) stack)

def leaf (s : Source) (stack : List Frame) : Progress :=
  match s with
  | .broken ⟨_, some _, _⟩ => .done (abandon s stack)
  | s => attach s stack

def value (t : Token) (stack : List Frame) : Progress :=
  match t with
  | .leaf s => leaf s stack
  | .string (.ok s) => leaf (.string s) stack
  | .string (.error d) => leaf (.broken d) stack
  | .openArray => .going (.array [] :: stack) .firstItem
  | .openObject => .going (.object [] :: stack) .firstMember
  | _ => .done (abandon (.broken Fault.expectedValue.always) stack)

def named (key : Key) : List Frame → Progress
  | .object members :: stack => .going (.member members key :: stack) .colon
  | stack => .done (abandon (.broken Fault.expectedValue.always) stack)

def unnamed (key : Key) : List Frame → Progress
  | .object members :: stack =>
    .done (abandon (.broken Fault.keyNotString.always) (.member members key :: stack))
  | stack => .done (abandon (.broken Fault.expectedValue.always) stack)

def member (t : Token) (stack : List Frame) : Progress :=
  match t with
  | .string (.ok s) => named (.name s) stack
  | .string (.error d) => if d.skipping.isSome then unnamed (.broken d) stack else named (.broken d) stack
  | _ => unnamed (.broken Fault.keyNotString.always) stack

def separator (t : Token) (stack : List Frame) : Progress :=
  match t, stack with
  | .comma, .array _ :: _ => .going stack .nextItem
  | .comma, .object _ :: _ => .going stack .nextMember
  | .closeArray, .array _ :: _ => close stack
  | .closeObject, .object _ :: _ => close stack
  | _, stack => .done (abandonAt .noSeparator stack)

def step (t : Token) (stack : List Frame) : Due → Progress
  | .value => value t stack
  | .firstItem => match t with
    | .closeArray => close stack
    | t => value t stack
  | .nextItem => match t with
    | .closeArray => .done (abandonAt .trailingComma stack)
    | t => value t stack
  | .firstMember => match t with
    | .closeObject => close stack
    | t => member t stack
  | .nextMember => match t with
    | .closeObject => .done (abandonAt .trailingComma stack)
    | t => member t stack
  | .colon => match t with
    | .colon => .going stack .value
    | _ => .done (abandon (.broken Fault.expectedColon.always) stack)
  | .separator => separator t stack

def finish (stack : List Frame) : Due → Source
  | .value => abandon (.broken Fault.endInValue.always) stack
  | .firstItem => abandonAt .endOfText stack
  | .nextItem => abandonAt .endAfterComma stack
  | .firstMember => abandonAt .endOfText stack
  | .nextMember => abandonAt .endAfterComma stack
  | .colon => abandon (.broken Fault.endInObject.always) stack
  | .separator => abandonAt .endOfText stack

/-- Takes tokens until the tree is whole; says whether any are left. -/
def run : List Token → List Frame → Due → Source × Bool
  | [], stack, due => (finish stack due, false)
  | t :: ts, stack, due =>
    match step t stack due with
    | .going stack due => run ts stack due
    | .done tree => (tree, !ts.isEmpty)

end Progress

namespace Source

/-- The tree at the front of a text, and whether more than blanks follow it. -/
def ofText (text : String) : Source × Bool := Progress.run (Token.scan text.toList) [] .value

end Source

namespace Value

def ofText (text : String) : Except Fault Value := do
  let (tree, more) := Source.ofText text
  let v ← tree.value
  if more then throw .trailingCharacters
  return v

end Value

end Workflow.Json
