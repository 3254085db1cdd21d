import Workflow.Json.Source
import Workflow.Json.Numeral
import Workflow.Json.Quoted
/-!
# Tokens

Text is cut into tokens without regard to where they stand.  A token that is broken beyond repair is the
last one; a token that only reading objects to, such as a number out of range, is followed by the rest.
-/
namespace Workflow.Json

/-- A token; numbers and words come as the leaf of a source tree that they are. -/
inductive Token where
  | openArray
  | closeArray
  | openObject
  | closeObject
  | comma
  | colon
  | leaf (s : Source)
  | string (s : Except Defect String)
  /-- A character that starts no token. -/
  | stray

namespace Token

/-- Does nothing of the text follow that could still be read? -/
def isLast : Token → Bool
  | .leaf (.broken d) => d.skipping.isSome
  | .string (.error d) => d.skipping.isSome
  | .stray => true
  | _ => false

/-- A word, its first letter already met: the leaf it stands for, or where it breaks. -/
def word (leaf : Source) (start : Start) : List Char → List Char → Source × List Char
  | [], cs => (leaf, cs)
  | _ :: _, [] => (.broken (Fault.endInValue.after start), [])
  | e :: es, c :: cs =>
    if e = c then word leaf start es cs else (.broken (Fault.expectedIdent.after start), [])

theorem length_word_le (leaf : Source) (start : Start) :
    ∀ es cs, (word leaf start es cs).2.length ≤ cs.length
  | [], cs => by simp [word]
  | _ :: _, [] => by simp [word]
  | e :: es, c :: cs => by
    simp only [word]
    split
    · have := length_word_le leaf start es cs
      simp only [List.length_cons]
      omega
    · simp

def numeral (cs : List Char) : Source × List Char :=
  match Numeral.scan cs with
  | .error d => (.broken d, [])
  | .ok (n, rest) =>
    match n.number with
    | .ok n => (.number n, rest)
    | .error f => (.broken ⟨f, none, .literal⟩, rest)

def isBlank (c : Char) : Bool := c == ' ' || c == '\n' || c == '\t' || c == '\x0d'

def next (c : Char) (cs : List Char) : Token × List Char :=
  match c with
  | '[' => (.openArray, cs)
  | ']' => (.closeArray, cs)
  | '\x7b' => (.openObject, cs)
  | '\x7d' => (.closeObject, cs)
  | ',' => (.comma, cs)
  | ':' => (.colon, cs)
  | '"' =>
    let (pieces, stop, rest) := Quoted.scan cs
    (.string (Quoted.text pieces stop), rest)
  | 'n' => (word .null .null "ull".toList cs).map .leaf id
  | 't' => (word (.bool true) .literal "rue".toList cs).map .leaf id
  | 'f' => (word (.bool false) .literal "alse".toList cs).map .leaf id
  | c => if c == '-' || c.isDigit then (numeral (c :: cs)).map .leaf id else (.stray, cs)

/-! ## Every token takes a character -/

theorem length_numeral_lt (c : Char) (cs : List Char) : (numeral (c :: cs)).2.length < (c :: cs).length := by
  unfold numeral
  split
  · simp
  · next h =>
    split <;> exact Numeral.length_scan_lt h

theorem length_next_le (c : Char) (cs : List Char) : (next c cs).2.length ≤ cs.length := by
  unfold next
  split
  all_goals try exact Nat.le_refl _
  · exact Quoted.length_scan_le _
  · exact length_word_le _ _ _ _
  · exact length_word_le _ _ _ _
  · exact length_word_le _ _ _ _
  · split
    · exact Nat.le_of_lt_succ (length_numeral_lt c cs)
    · exact Nat.le_refl _

/-- The tokens of a text, up to the first that is the last one. -/
def scan : List Char → List Token
  | [] => []
  | c :: cs =>
    if isBlank c then scan cs
    else
      let t := next c cs
      if t.1.isLast then [t.1] else t.1 :: scan t.2
termination_by cs => cs.length
decreasing_by
  · simp
  · exact Nat.lt_succ_of_le (length_next_le c cs)

end Token

end Workflow.Json
