import Workflow.Json.Fault
/-!
# Quoted strings

A quoted string is scanned into units, a character or a 16-bit escape each, up to its closing quote or the
place where it breaks.  Skipping a string asks only that; reading it also pairs surrogates, so it may fail
earlier (`Quoted.defect`).  `quote` writes a string with the shortest escapes there are.
-/
namespace Workflow.Json

inductive Piece where
  | char (c : Char)
  | unit (n : Nat)
deriving DecidableEq, Repr

inductive QuotedEnd where
  | closed
  | endOfText
  | control
  | badEscape
  | badUnit
deriving DecidableEq, Repr

/-- What skipping a string meets at its end. -/
def QuotedEnd.fault? : QuotedEnd → Option Fault
  | .closed => none
  | .endOfText => some .endInString
  | .control => some .controlCharacter
  | .badEscape => some .invalidEscape
  | .badUnit => some .invalidEscape

namespace Quoted

def hexValue (c : Char) : Option Nat :=
  if '0' ≤ c && c ≤ '9' then some (c.toNat - '0'.toNat)
  else if 'a' ≤ c && c ≤ 'f' then some (c.toNat - 'a'.toNat + 10)
  else if 'A' ≤ c && c ≤ 'F' then some (c.toNat - 'A'.toNat + 10)
  else none

def unitValue (a b c d : Char) : Option Nat := do
  return ((← hexValue a) * 16 + (← hexValue b)) * 256 + ((← hexValue c) * 16 + (← hexValue d))

def simpleEscape : Char → Option Char
  | '"' => some '"'
  | '\\' => some '\\'
  | '/' => some '/'
  | 'b' => some '\x08'
  | 'f' => some '\x0c'
  | 'n' => some '\n'
  | 'r' => some '\x0d'
  | 't' => some '\t'
  | _ => none

/-- Four bytes are due after `\u`; fewer before the text ends is an end inside the string. -/
def shortUnit (rest : List Char) : QuotedEnd :=
  if (rest.take 4).foldl (fun n c => n + c.utf8Size) 0 < 4 then .endOfText else .badUnit

/-- The units of a string from after its opening quote, where it ends, and what follows. -/
def scan : List Char → List Piece × QuotedEnd × List Char
  | [] => ([], .endOfText, [])
  | '"' :: rest => ([], .closed, rest)
  | '\\' :: 'u' :: a :: b :: c :: d :: rest =>
    match unitValue a b c d with
    | none => ([], shortUnit (a :: b :: c :: d :: rest), [])
    | some n =>
      let (pieces, stop, rest) := scan rest
      (.unit n :: pieces, stop, rest)
  | '\\' :: e :: rest =>
    match simpleEscape e with
    | some c =>
      let (pieces, stop, rest) := scan rest
      (.char c :: pieces, stop, rest)
    | none => ([], if e = 'u' then shortUnit rest else .badEscape, [])
  | ['\\'] => ([], .endOfText, [])
  | c :: rest =>
    if c.toNat < 0x20 then ([], .control, [])
    else
      let (pieces, stop, rest) := scan rest
      (.char c :: pieces, stop, rest)

theorem length_scan_le (cs : List Char) : (scan cs).2.2.length ≤ cs.length := by
  fun_induction scan cs <;> simp_all <;> omega

/-- What a leading surrogate meets when the string ends right after it. -/
def afterLead : QuotedEnd → Fault
  | .closed => .brokenSurrogatePair
  | .endOfText => .endInString
  | .control => .brokenSurrogatePair
  | .badEscape => .brokenSurrogatePair
  | .badUnit => .invalidEscape

def isLead (n : Nat) : Bool := 0xD800 ≤ n && n ≤ 0xDBFF

def isTrail (n : Nat) : Bool := 0xDC00 ≤ n && n ≤ 0xDFFF

/-- The characters of the units, surrogates paired. -/
def read (stop : QuotedEnd) : List Piece → Except Fault (List Char)
  | [] =>
    match stop.fault? with
    | none => .ok []
    | some f => .error f
  | .char c :: rest => (read stop rest).map (c :: ·)
  | .unit n :: rest =>
    if isTrail n then .error .loneSurrogate
    else if isLead n then
      match rest with
      | [] => .error (afterLead stop)
      | .char _ :: _ => .error .brokenSurrogatePair
      | .unit m :: rest =>
        if isTrail m then
          (read stop rest).map (Char.ofNat ((n - 0xD800) * 0x400 + (m - 0xDC00) + 0x10000) :: ·)
        else .error .loneSurrogate
    else (read stop rest).map (Char.ofNat n :: ·)

def text (pieces : List Piece) (stop : QuotedEnd) : Except Defect String :=
  match read stop pieces with
  | .ok cs => .ok (String.ofList cs)
  | .error f => .error ⟨f, stop.fault?, .other⟩

def hexDigit (n : Nat) : Char :=
  if n < 10 then Char.ofNat ('0'.toNat + n) else Char.ofNat ('a'.toNat + n - 10)

def escape (c : Char) : List Char :=
  match c with
  | '"' => ['\\', '"']
  | '\\' => ['\\', '\\']
  | '\x08' => ['\\', 'b']
  | '\x0c' => ['\\', 'f']
  | '\n' => ['\\', 'n']
  | '\x0d' => ['\\', 'r']
  | '\t' => ['\\', 't']
  | c =>
    if c.toNat < 0x20 then ['\\', 'u', '0', '0', hexDigit (c.toNat / 16), hexDigit (c.toNat % 16)]
    else [c]

def quote (s : String) : String := String.ofList ('"' :: s.toList.flatMap escape ++ ['"'])

end Quoted

end Workflow.Json
