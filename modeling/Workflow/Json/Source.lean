import Workflow.Json.Value
import Workflow.Json.Fault
/-!
# Source trees

A `Source` is JSON text read up to its first hopeless place, with nothing decided yet: members stand in
their order with repeats, and every defect stays where it was met.  Whoever consumes the tree from left to
right meets the defects in the order of the text, next to the errors of its own, so the first of all of
them is the one it reports.

`Source.value` consumes everything as a plain value; `Source.skip` passes over it.
-/
namespace Workflow.Json

/-- How the text of a list or an object ends, after its last item. -/
inductive Ending where
  | closed
  | trailingComma
  /-- By something that is neither a comma nor its bracket. -/
  | noSeparator
  /-- The text ends where a comma, the bracket or a first item was due. -/
  | endOfText
  | endAfterComma
  /-- Nothing in it was read: it lies too deep. -/
  | tooDeep
deriving DecidableEq, Repr

/-- What a reader of items meets after the last one of a list. -/
def Ending.listFault? : Ending → Option Fault
  | .closed => none
  | .trailingComma => some .trailingComma
  | .noSeparator => some .expectedListComma
  | .endOfText => some .endInList
  | .endAfterComma => some .endInValue
  | .tooDeep => some .tooDeep

/-- What a reader meets that has all the items of a list it wants. -/
def Ending.restFault? : Ending → Option Fault
  | .closed => none
  | .trailingComma => some .trailingComma
  | .noSeparator => some .trailingCharacters
  | .endOfText => some .endInList
  | .endAfterComma => some .trailingCharacters
  | .tooDeep => some .tooDeep

def Ending.objectFault? : Ending → Option Fault
  | .closed => none
  | .trailingComma => some .trailingComma
  | .noSeparator => some .expectedObjectComma
  | .endOfText => some .endInObject
  | .endAfterComma => some .endInValue
  | .tooDeep => some .tooDeep

def Ending.listSkip? : Ending → Option Fault
  | .closed => none
  | .trailingComma => some .expectedValue
  | .noSeparator => some .expectedListComma
  | .endOfText => some .endInList
  | .endAfterComma => some .endInValue
  | .tooDeep => none

def Ending.objectSkip? : Ending → Option Fault
  | .closed => none
  | .trailingComma => some .keyNotString
  | .noSeparator => some .expectedObjectComma
  | .endOfText => some .endInObject
  | .endAfterComma => some .endInObject
  | .tooDeep => none

/-- What stands where the name of a member is due. -/
inductive Key where
  | name (s : String)
  | broken (d : Defect)

/-- A tree of JSON text with its defects.  A list or an object nested too deep to be read is `buried`. -/
inductive Source where
  | null
  | bool (b : Bool)
  | number (n : Number)
  | string (s : String)
  | array (buried : Bool) (items : List Source) (ending : Ending)
  | object (buried : Bool) (members : List (Key × Source)) (ending : Ending)
  | broken (d : Defect)

namespace Source

mutual

/-- The fault met when passing over a source, if any. -/
def skip : Source → Option Fault
  | .null => none
  | .bool _ => none
  | .number _ => none
  | .string _ => none
  | .array _ items ending => skipItems items <|> ending.listSkip?
  | .object _ members ending => skipMembers members <|> ending.objectSkip?
  | .broken d => d.skipping

def skipItems : List Source → Option Fault
  | [] => none
  | s :: rest => skip s <|> skipItems rest

def skipMembers : List (Key × Source) → Option Fault
  | [] => none
  | (key, s) :: rest =>
    let keyFault := match key with
      | .name _ => none
      | .broken d => d.skipping
    keyFault <|> skip s <|> skipMembers rest

end

mutual

/-- A source as a plain value; of members of one name the last stays. -/
def value : Source → Except Fault Value
  | .null => .ok .null
  | .bool b => .ok (.bool b)
  | .number n => .ok (.number n)
  | .string s => .ok (.string s)
  | .array buried items ending => do
    if buried then throw .tooDeep
    let values ← itemValues items
    match ending.listFault? with
    | some f => throw f
    | none => return .array values
  | .object buried members ending => do
    if buried then throw .tooDeep
    let entries ← memberValues members
    match ending.objectFault? with
    | some f => throw f
    | none => return (Object.ofList entries).toValue
  | .broken d => .error d.reading

def itemValues : List Source → Except Fault (List Value)
  | [] => .ok []
  | s :: rest => do
    let v ← value s
    let vs ← itemValues rest
    return v :: vs

def memberValues : List (Key × Source) → Except Fault (List (String × Value))
  | [] => .ok []
  | (key, s) :: rest => do
    let name ← match key with
      | .name n => pure n
      | .broken d => throw d.reading
    let v ← value s
    let vs ← memberValues rest
    return (name, v) :: vs

end

end Source

end Workflow.Json
