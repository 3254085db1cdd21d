/-!
# Node identifiers

An identifier is any text.  Fresh ones are numbered, `node_<n>`; a number is also read off identifiers that
came from outside, in any of its decimal spellings, so that numbering can go on above it.
-/
namespace Workflow

/-- The name of a node, unique in its graph. -/
@[ext]
structure NodeId where
  text : String
deriving DecidableEq, Repr

namespace NodeId

instance : Ord NodeId := ⟨fun a b => compare a.text b.text⟩

instance : Std.TransOrd NodeId where
  eq_swap {a b} := Std.OrientedOrd.eq_swap (a := a.text) (b := b.text)
  isLE_trans {a b c} h g := Std.TransOrd.isLE_trans (a := a.text) (b := b.text) (c := c.text) h g

instance : Std.LawfulEqOrd NodeId where
  eq_of_compare {_ _} h := NodeId.ext (Std.LawfulEqOrd.eq_of_compare h)

/-- What fresh identifiers start with. -/
def stem : String := "node_"

def numbered (n : Nat) : NodeId := ⟨stem ++ toString n⟩

/-- The largest number an identifier can have. -/
def maxNumber : Nat := Nat.pow 2 64 - 1

def digitsValue (digits : List Char) : Nat :=
  digits.foldl (fun n c => n * 10 + (c.toNat - '0'.toNat)) 0

/-- The number that decimal digits spell, if there are any and it is not too large. -/
def readDigits (digits : List Char) : Option Nat :=
  if digits ≠ [] ∧ digits.all Char.isDigit ∧ digitsValue digits ≤ maxNumber then
    some (digitsValue digits)
  else none

/-- The number after the stem: decimal digits, a single plus before them allowed. -/
def number? (id : NodeId) : Option Nat :=
  match stem.toList.isPrefixOf? id.text.toList with
  | none => none
  | some ('+' :: digits) => readDigits digits
  | some digits => readDigits digits

end NodeId

end Workflow
