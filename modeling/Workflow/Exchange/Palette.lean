import Workflow.Json.Read
import Workflow.Palette.Catalog
/-!
# Palettes as JSON

A palette is an object with an entry under the tag of each kind.
-/
namespace Workflow.Palette

open Json hiding Field

section

variable {σ : Type} [Readable σ]

/-- The choice that every field is read over. -/
def Choice.blank : Choice := ⟨.null, ""⟩

def Choice.fields : List (Json.Field σ Choice) :=
  [.needed "value" readValue fun c value => { c with value },
    .needed "label" readString fun c label => { c with label }]

def Reference.fields : List (Json.Field σ Reference) :=
  [.needed "kind" readString fun r kind => { r with kind },
    .needed "field" readString fun r field => { r with field },
    .optional "implicit" (readList readString) fun r implicit => { r with implicit }]

def Field.fields : List (Json.Field σ Field) :=
  [.needed "name" readString fun f name => { f with name },
    .needed "label" readString fun f label => { f with label },
    .needed "type" (readVariant Widget.named (some .other)) fun f widget => { f with widget },
    .optional "required" readBool fun f required => { f with required },
    .optional "defaultValue" (readOption readValue) fun f defaultValue => { f with defaultValue },
    .optional "options" (readList (readRecord "FieldOption" Choice.fields .blank))
      fun f choices => { f with choices },
    .optional "min" (readOption readFloat) fun f min => { f with min },
    .optional "max" (readOption readFloat) fun f max => { f with max },
    .optional "placeholder" (readOption readString) fun f placeholder => { f with placeholder },
    .optional "description" (readOption readString) fun f description => { f with description },
    .optional "references" (readOption (readRecord "ReferenceRule" Reference.fields ⟨"", "", []⟩))
      fun f reference => { f with reference }]

def Field.blank : Field := { name := "", label := "", widget := .other }

def Entry.fieldList : List (Json.Field σ Entry) :=
  [.needed "title" readString fun e title => { e with title },
    .optional "icon" readString fun e icon => { e with icon },
    .optional "description" readString fun e description => { e with description },
    .optional "category" (readOption readString) fun e category => { e with category },
    .optional "defaultData" readObject fun e defaultData => { e with defaultData },
    .optional "fields" (readList (readRecord "FieldDescriptor" Field.fields .blank))
      fun e fields => { e with fields }]

def readEntry : Reader σ Entry := readRecord "NodeKindSchema" Entry.fieldList { title := "" }

/-- A palette: entries by tag, the last of a tag winning. -/
def readPalette : Reader σ Palette := fun s => (readMap readEntry s).map ofList

end

inductive PaletteError where
  | unreadable (e : ReadError)
  | file (path reason : String)

def PaletteError.message : PaletteError → String
  | .unreadable e => "Failed to parse field schema JSON: " ++ e.message
  | .file path reason => "Could not read schema file '" ++ path ++ "': " ++ reason

def ofText (text : String) : Except PaletteError Palette := (readText readPalette text).mapError .unreadable

def ofFile (path : String) (content : Except String String) : Except PaletteError Palette := do
  ofText (← content.mapError (.file path))

/-! ## Writing -/

/-- A member that is only written if there is something to write. -/
def member? {α : Type} (name : String) (v : Option α) (write : α → Value) : List (String × Value) :=
  match v with
  | none => []
  | some a => [(name, write a)]

def Reference.toValue (r : Reference) : Value :=
  .object [("kind", .string r.kind), ("field", .string r.field), ("implicit", .array (r.implicit.map .string))]

def Choice.toValue (c : Choice) : Value := .object [("value", c.value), ("label", .string c.label)]

/-- A field as an object; what it does not have is left out. -/
def Field.toValue (f : Field) : Value :=
  .object <|
    [("name", .string f.name), ("label", .string f.label), ("type", .string f.widget.name),
      ("required", .bool f.required)]
      ++ member? "defaultValue" f.defaultValue id
      ++ (if f.choices.isEmpty then [] else [("options", .array (f.choices.map Choice.toValue))])
      ++ member? "min" f.min .ofFloat
      ++ member? "max" f.max .ofFloat
      ++ member? "placeholder" f.placeholder .string
      ++ member? "description" f.description .string
      ++ member? "references" f.reference Reference.toValue

/-- An entry as an object; a category that it does not have is left out. -/
def Entry.toValue (e : Entry) : Value :=
  .object <|
    [("title", .string e.title), ("icon", .string e.icon), ("description", .string e.description)]
      ++ member? "category" e.category .string
      ++ [("defaultData", e.defaultData.toValue), ("fields", .array (e.fields.map Field.toValue))]

end Workflow.Palette
