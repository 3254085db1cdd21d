import Workflow.Json.Text
import Workflow.Decimal.Style
import Workflow.Text
/-!
# Reading typed data

A reader consumes what is `Readable`: a source tree, so that faults of the text and mismatches of shape
come up in the order of the text, or a value that was parsed before, which has no faults.  Both are looked
at one layer at a time, as a `Shape`.

A record may be written as an object or as the list of its fields in order.  `readRecord` takes the fields
as a list of `Field`s and starts from a blank record: members set fields as they come, a name that comes
twice is refused, unknown members are passed over, and in the end every required field must have come.
-/
namespace Workflow.Json

/-- What stands where something else was wanted. -/
inductive Found where
  | null
  | boolean (b : Bool)
  | number (n : Number)
  | string (s : String)
  | sequence
  | map

inductive ReadError where
  | malformed (fault : Fault)
  | invalidType (found : Found) (wanted : String)
  | invalidValue (found : String) (wanted : String)
  | invalidLength (length : Nat) (wanted : String)
  | missingField (name : String)
  | duplicateField (name : String)
  | unknownVariant (name : String) (known : List String)
  | custom (text : String)

def Found.text : Found → String
  | .null => "null"
  | .boolean b => "boolean `" ++ (if b then "true" else "false") ++ "`"
  | .number (.int i _) => "integer `" ++ toString i ++ "`"
  | .number (.float x _) => "floating point `" ++ Style.json.text x ++ "`"
  | .string s => "string " ++ Text.quotation s
  | .sequence => "sequence"
  | .map => "map"

def choiceText (names : List String) : String :=
  match names.map fun n => "`" ++ n ++ "`" with
  | [] => "nothing"
  | [a] => a
  | [a, b] => a ++ " or " ++ b
  | many => "one of " ++ ", ".intercalate many

def ReadError.message : ReadError → String
  | .malformed f => f.message
  | .invalidType found wanted => "invalid type: " ++ found.text ++ ", expected " ++ wanted
  | .invalidValue found wanted => "invalid value: " ++ found ++ ", expected " ++ wanted
  | .invalidLength n wanted => "invalid length " ++ toString n ++ ", expected " ++ wanted
  | .missingField name => "missing field `" ++ name ++ "`"
  | .duplicateField name => "duplicate field `" ++ name ++ "`"
  | .unknownVariant name known => "unknown variant `" ++ name ++ "`, expected " ++ choiceText known
  | .custom text => text

/-- One layer of readable data. -/
inductive Shape (σ : Type) where
  | null
  | bool (b : Bool)
  | number (n : Number)
  | string (s : String)
  | list (items : List σ) (ending : Ending)
  | object (members : List (Key × σ)) (ending : Ending)
  | broken (d : Defect)

/-- Data that readers consume: text as a source tree, or values parsed before. -/
class Readable (σ : Type) where
  shape : σ → Shape σ
  value : σ → Except Fault Value
  skip : σ → Option Fault
  /-- Was it parsed before? -/
  parsed : Bool

instance : Readable Source where
  shape
    | .null => .null
    | .bool b => .bool b
    | .number n => .number n
    | .string s => .string s
    | .array buried items ending => if buried then .list [] .tooDeep else .list items ending
    | .object buried members ending => if buried then .object [] .tooDeep else .object members ending
    | .broken d => .broken d
  value := Source.value
  skip := Source.skip
  parsed := false

instance : Readable Value where
  shape
    | .null => .null
    | .bool b => .bool b
    | .number n => .number n
    | .string s => .string s
    | .array items => .list items .closed
    | .object members => .object (members.map fun e => (.name e.1, e.2)) .closed
  value := .ok
  skip := fun _ => none
  parsed := true

/-- A way to read data of some type. -/
abbrev Reader (σ α : Type) := σ → Except ReadError α

def Shape.mismatch {σ : Type} (s : Shape σ) (wanted : String) : ReadError :=
  match s with
  | .null => .invalidType .null wanted
  | .bool b => .invalidType (.boolean b) wanted
  | .number n => .invalidType (.number n) wanted
  | .string s => .invalidType (.string s) wanted
  | .list _ _ => .invalidType .sequence wanted
  | .object _ _ => .invalidType .map wanted
  | .broken d => .malformed d.reading

def refuse (fault : Option Fault) : Except ReadError Unit :=
  match fault with
  | none => .ok ()
  | some f => .error (.malformed f)

def floatOfInt (i : Int) : Float :=
  if i < 0 then -i.natAbs.toUInt64.toFloat else i.natAbs.toUInt64.toFloat

section Readers

variable {σ : Type} [Readable σ] {α : Type}

def readValue : Reader σ Value := fun s => (Readable.value s).mapError .malformed

def readString : Reader σ String := fun s =>
  match Readable.shape s with
  | .string t => .ok t
  | other => .error (other.mismatch "a string")

def readBool : Reader σ Bool := fun s =>
  match Readable.shape s with
  | .bool b => .ok b
  | other => .error (other.mismatch "a boolean")

/-- A double; a whole number will do. -/
def readFloat : Reader σ Float := fun s =>
  match Readable.shape s with
  | .number (.int i _) => .ok (floatOfInt i)
  | .number (.float x _) => .ok x
  | other => .error (other.mismatch "f64")

/-- A whole number that is not negative; a double never will do. -/
def readWord (wanted : String) : Reader σ UInt64 := fun s =>
  match Readable.shape s with
  | .number (.int i _) =>
    if 0 ≤ i then .ok (.ofNat i.toNat) else .error (.invalidValue ("integer `" ++ toString i ++ "`") wanted)
  | other => .error (other.mismatch wanted)

def readUnit : Reader σ Unit := fun s =>
  match Readable.shape s with
  | .null => .ok ()
  | other => .error (other.mismatch "unit")

/-- Null, or what another reader takes, which never sees what starts like null. -/
def readOption (read : Reader σ α) : Reader σ (Option α) := fun s =>
  match Readable.shape s with
  | .null => .ok none
  | .broken ⟨fault, _, .null⟩ => .error (.malformed fault)
  | _ => (read s).map some

def readItems (read : Reader σ α) : List σ → Except ReadError (List α)
  | [] => .ok []
  | s :: rest => do
    let a ← read s
    let tail ← readItems read rest
    return a :: tail

def readList (read : Reader σ α) : Reader σ (List α) := fun s =>
  match Readable.shape s with
  | .list items ending => do
    let all ← readItems read items
    refuse ending.listFault?
    return all
  | other => .error (other.mismatch "a sequence")

def readKey : Key → Except ReadError String
  | .name n => .ok n
  | .broken d => .error (.malformed d.reading)

/-- Members in order, with repeats. -/
def readEntries (read : Reader σ α) : List (Key × σ) → Except ReadError (List (String × α))
  | [] => .ok []
  | (key, s) :: rest => do
    let name ← readKey key
    let a ← read s
    let tail ← readEntries read rest
    return (name, a) :: tail

/-- An object with arbitrary names, as its members in order. -/
def readMap (read : Reader σ α) : Reader σ (List (String × α)) := fun s =>
  match Readable.shape s with
  | .object members ending => do
    let all ← readEntries read members
    refuse ending.objectFault?
    return all
  | other => .error (other.mismatch "a map")

/-- An object of plain values; of members of one name the last stays. -/
def readObject : Reader σ Object := fun s =>
  match Readable.shape s with
  | .object _ _ => do
    match ← readValue s with
    | .object members => return Object.ofList members
    | _ => return Object.empty
  | other => .error (other.mismatch "a map")

/-! ## Variants -/

/-- The variant of a name, or the one that stands for all other names. -/
def variantNamed (variants : List (String × α)) (fallback : Option α) (name : String) : Except ReadError α :=
  match variants.lookup name <|> fallback with
  | some a => .ok a
  | none => .error (.unknownVariant name (variants.map (·.1)))

/-- What text meets after the one member of an object. -/
def Ending.variantFault? : Ending → Option Fault
  | .closed => none
  | .endOfText => some .endInObject
  | .tooDeep => some .tooDeep
  | _ => some .expectedValue

/-- What text meets in an object without members where a variant is due. -/
def Ending.noVariantFault : Ending → Fault
  | .endOfText => .endInObject
  | .tooDeep => .tooDeep
  | _ => .expectedValue

/-- A variant without data: its name, or an object with its name for null. -/
def readVariant (variants : List (String × α)) (fallback : Option α) : Reader σ α := fun s =>
  match Readable.shape s with
  | .string name => variantNamed variants fallback name
  | .object members ending =>
    if Readable.parsed σ then
      match members with
      | [(key, data)] => do
        let a ← variantNamed variants fallback (← readKey key)
        readUnit data
        return a
      | _ => .error (.invalidValue "map" "map with a single key")
    else
      match members with
      | [] => .error (.malformed ending.noVariantFault)
      | (key, data) :: rest => do
        let a ← variantNamed variants fallback (← readKey key)
        readUnit data
        refuse (if rest.isEmpty then ending.variantFault? else some .expectedValue)
        return a
  | .broken d => .error (.malformed (if d.start = .other then d.reading else .expectedValue))
  | other =>
    .error (if Readable.parsed σ then other.mismatch "string or map" else .malformed .expectedValue)

/-! ## Records -/

/-- A field of a record `ρ`: its name, other names it answers to, and how its data changes the record. -/
structure Field (σ ρ : Type) where
  name : String
  aliases : List String
  required : Bool
  read : σ → ρ → Except ReadError ρ

/-- A field that has to come. -/
def Field.needed {ρ : Type} (name : String) (read : Reader σ α) (set : ρ → α → ρ) : Field σ ρ :=
  ⟨name, [], true, fun s r => (read s).map (set r)⟩

/-- A field that keeps what the blank record has if it does not come. -/
def Field.optional {ρ : Type} (name : String) (read : Reader σ α) (set : ρ → α → ρ) : Field σ ρ :=
  ⟨name, [], false, fun s r => (read s).map (set r)⟩

def Field.alias {ρ : Type} (f : Field σ ρ) (other : String) : Field σ ρ :=
  { f with aliases := other :: f.aliases }

def Field.answersTo {ρ : Type} (f : Field σ ρ) (name : String) : Bool :=
  name == f.name || f.aliases.contains name

variable {ρ : Type}

/-- Members of an object, setting fields; keeps the names of the fields that came. -/
def readMembers (fields : List (Field σ ρ)) :
    List (Key × σ) → List String → ρ → Except ReadError (List String × ρ)
  | [], came, r => .ok (came, r)
  | (key, s) :: rest, came, r => do
    let name ← readKey key
    match fields.find? (·.answersTo name) with
    | none =>
      refuse (Readable.skip s)
      readMembers fields rest came r
    | some field =>
      if came.contains field.name then throw (.duplicateField field.name)
      let r ← field.read s r
      readMembers fields rest (field.name :: came) r

/-- Items of a list, setting fields in order, from the one of some position on; leaves items over. -/
def readPositions (wanted : String) (ending : Ending) :
    List (Field σ ρ) → List σ → Nat → ρ → Except ReadError (ρ × List σ)
  | [], items, _, r => .ok (r, items)
  | field :: fields, s :: items, n, r => do
    let r ← field.read s r
    readPositions wanted ending fields items (n + 1) r
  | field :: fields, [], n, r => do
    refuse ending.listFault?
    if field.required then throw (.invalidLength n wanted)
    readPositions wanted ending fields [] (n + 1) r

def readRecord (title : String) (fields : List (Field σ ρ)) (blank : ρ) : Reader σ ρ := fun s =>
  match Readable.shape s with
  | .object members ending => do
    let (came, r) ← readMembers fields members [] blank
    refuse ending.objectFault?
    match fields.find? fun f => f.required && !came.contains f.name with
    | some f => throw (.missingField f.name)
    | none => return r
  | .list items ending => do
    let wanted := "struct " ++ title ++ " with " ++ toString fields.length ++ " elements"
    let (r, rest) ← readPositions wanted ending fields items 0 blank
    if Readable.parsed σ then
      if rest.isEmpty then return r else throw (.invalidLength items.length "fewer elements in array")
    else
      refuse (if rest.isEmpty then ending.restFault? else some .trailingCharacters)
      return r
  | other => .error (other.mismatch ("struct " ++ title))

end Readers

def readText {α : Type} (read : Reader Source α) (text : String) : Except ReadError α := do
  let (tree, more) := Source.ofText text
  let a ← read tree
  if more then throw (.malformed .trailingCharacters)
  return a

end Workflow.Json
