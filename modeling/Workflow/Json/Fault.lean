/-!
# What can be wrong with JSON text

A fault is met at one place of a text; which one a reader reports depends on whether it was reading the
value there or only skipping it, so a `Source` keeps both.
-/
namespace Workflow.Json

/-- A place where text stops being JSON. -/
inductive Fault where
  | endInValue
  | endInList
  | endInObject
  | endInString
  | expectedValue
  | expectedIdent
  | expectedColon
  | expectedListComma
  | expectedObjectComma
  | trailingComma
  | trailingCharacters
  | keyNotString
  | invalidNumber
  | numberRange
  | invalidEscape
  | controlCharacter
  | loneSurrogate
  | brokenSurrogatePair
  | tooDeep
deriving DecidableEq, Repr

def Fault.message : Fault → String
  | .endInValue => "EOF while parsing a value"
  | .endInList => "EOF while parsing a list"
  | .endInObject => "EOF while parsing an object"
  | .endInString => "EOF while parsing a string"
  | .expectedValue => "expected value"
  | .expectedIdent => "expected ident"
  | .expectedColon => "expected `:`"
  | .expectedListComma => "expected `,` or `]`"
  | .expectedObjectComma => "expected `,` or `\x7d`"
  | .trailingComma => "trailing comma"
  | .trailingCharacters => "trailing characters"
  | .keyNotString => "key must be a string"
  | .invalidNumber => "invalid number"
  | .numberRange => "number out of range"
  | .invalidEscape => "invalid escape"
  | .controlCharacter => "control character (\\u0000-\\u001F) found while parsing a string"
  | .loneSurrogate => "lone leading surrogate in hex escape"
  | .brokenSurrogatePair => "unexpected end of hex escape"
  | .tooDeep => "recursion limit exceeded"

/-- What broken text starts like. -/
inductive Start where
  | null
  | literal
  | other
deriving DecidableEq, Repr

/-- Text that cannot be read: the fault met when reading it as a value, the one met when skipping it, if
skipping fails at all, and what a reader sees that looks no further than the first character. -/
structure Defect where
  reading : Fault
  skipping : Option Fault
  start : Start
deriving DecidableEq, Repr

/-- A fault that stops every reader alike, in text that starts like something. -/
def Fault.after (start : Start) (f : Fault) : Defect := ⟨f, some f, start⟩

/-- A fault that stops every reader alike, where nothing starts that could be read. -/
def Fault.always (f : Fault) : Defect := f.after .other

end Workflow.Json
