import Workflow.Json.Value
import Workflow.Json.Fault
/-!
# Numerals

A numeral is scanned into its digits and then valued.  A whole number that fits 64 bits stays whole;
everything else becomes a double by one multiplication or division: digits fill a 64-bit coefficient until
it is full, the remaining ones only move the point, and the coefficient is scaled by a power of ten.  The
last digit of a long numeral can therefore differ from the correctly rounded one.
-/
namespace Workflow.Json

/-- The parts of a numeral; an exponent carries its sign, `true` for minus. -/
structure Numeral where
  negative : Bool
  whole : List Char
  fraction : List Char
  exponent : Option (Bool × List Char)

def digitValue (c : Char) : Nat := c.toNat - '0'.toNat

namespace Numeral

/-- Coefficients stay below this. -/
def limit : Nat := Nat.pow 2 64

/-- Exponents from here on are not read as numbers at all. -/
def exponentLimit : Nat := Nat.pow 2 31

/-- Appends digits to a coefficient while it fits; says how many were taken and leaves the rest. -/
def fill (coefficient : Nat) : List Char → Nat × Nat × List Char
  | [] => (coefficient, 0, [])
  | c :: cs =>
    let next := coefficient * 10 + digitValue c
    if limit ≤ next then (coefficient, 0, c :: cs)
    else
      let (filled, taken, rest) := fill next cs
      (filled, taken + 1, rest)

def powerOfTen (k : Nat) : Float := Float.ofScientific 1 false k

/-- A coefficient times a power of ten, dividing in steps where the power has no double. -/
def scale (x : Float) (exponent : Int) : Except Fault Float :=
  if exponent.natAbs ≤ 308 then
    if 0 ≤ exponent then .ok (x * powerOfTen exponent.natAbs)
    else .ok (x / powerOfTen exponent.natAbs)
  else if x == 0 then .ok x
  else if 0 ≤ exponent then .error .numberRange
  else scale (x / powerOfTen 308) (exponent + 308)
termination_by (-exponent).toNat
decreasing_by omega

/-- A double with its sign, unless it is too large for one. -/
def double (negative : Bool) (x : Float) : Except Fault Number :=
  match Number.ofFloat? (if negative then -x else x) with
  | some n => .ok n
  | none => .error .numberRange

/-- A whole number with its sign, if a word holds it; none holds minus zero. -/
def whole? (negative : Bool) (coefficient : Nat) : Option Number :=
  if negative then if coefficient = 0 then none else Number.ofInt? (-coefficient)
  else Number.ofInt? coefficient

/-- The value of an exponent's digits, if it is below the limit. -/
def exponentValue (digits : List Char) : Option Nat :=
  let value := digits.foldl (fun n c => n * 10 + digitValue c) 0
  if value < exponentLimit then some value else none

def number (n : Numeral) : Except Fault Number := do
  let (coefficient, _, dropped) := fill 0 n.whole
  if dropped.isEmpty && n.fraction.isEmpty && n.exponent.isNone then
    match whole? n.negative coefficient with
    | some number => return number
    | none => return ← double n.negative coefficient.toUInt64.toFloat
  let (coefficient, taken, _) := fill coefficient n.fraction
  let start : Int := Int.ofNat dropped.length - taken
  let x := coefficient.toUInt64.toFloat
  match n.exponent with
  | none => double n.negative (← scale x start)
  | some (minus, digits) =>
    match exponentValue digits with
    | some e => double n.negative (← scale x (if minus then start - e else start + e))
    | none =>
      if coefficient != 0 && !minus then throw .numberRange
      double n.negative 0

/-- A numeral at the front of a text and what follows it, or what is wrong with it. -/
abbrev Scan := Except Defect (Numeral × List Char)

def digitsOf (cs : List Char) : List Char := cs.takeWhile Char.isDigit

def afterDigits (cs : List Char) : List Char := cs.dropWhile Char.isDigit

theorem length_afterDigits_le (cs : List Char) : (afterDigits cs).length ≤ cs.length :=
  (List.dropWhile_suffix _).length_le

theorem length_afterDigits_lt {cs : List Char} (some : digitsOf cs ≠ []) :
    (afterDigits cs).length < cs.length := by
  have whole : digitsOf cs ++ afterDigits cs = cs := List.takeWhile_append_dropWhile
  have := congrArg List.length whole
  have := List.length_pos_iff.2 some
  simp only [List.length_append] at *
  omega

def minus : List Char → Bool × List Char
  | '-' :: cs => (true, cs)
  | cs => (false, cs)

theorem length_minus_le (cs : List Char) : (minus cs).2.length ≤ cs.length := by
  unfold minus
  split <;> simp

def exponentSign : List Char → Bool × List Char
  | '+' :: cs => (false, cs)
  | cs => minus cs

theorem length_exponentSign_le (cs : List Char) : (exponentSign cs).2.length ≤ cs.length := by
  unfold exponentSign
  split
  · simp
  · exact length_minus_le _

def missingDigits (rest : List Char) : Defect :=
  ⟨if rest.isEmpty then .endInValue else .invalidNumber, some .invalidNumber, .literal⟩

def scanExponent (n : Numeral) : List Char → Scan
  | [] => .ok (n, [])
  | c :: cs =>
    if c = 'e' ∨ c = 'E' then
      let (negative, cs) := exponentSign cs
      if digitsOf cs = [] then .error (missingDigits cs)
      else .ok ({ n with exponent := some (negative, digitsOf cs) }, afterDigits cs)
    else .ok (n, c :: cs)

def scanFraction (n : Numeral) : List Char → Scan
  | [] => .ok (n, [])
  | c :: cs =>
    if c = '.' then
      if digitsOf cs = [] then .error (missingDigits cs)
      else scanExponent { n with fraction := digitsOf cs } (afterDigits cs)
    else scanExponent n (c :: cs)

/-- The numeral at the front of a text that starts with a digit or a minus. -/
def scan (cs : List Char) : Scan :=
  let (negative, cs) := minus cs
  let digits := digitsOf cs
  if digits = [] then .error (missingDigits cs)
  else if digits.head? = some '0' ∧ 1 < digits.length then .error (Fault.invalidNumber.after .literal)
  else scanFraction ⟨negative, digits, [], none⟩ (afterDigits cs)

theorem length_scanExponent_le {n m : Numeral} {cs rest : List Char}
    (h : scanExponent n cs = .ok (m, rest)) : rest.length ≤ cs.length := by
  cases cs with
  | nil => simp_all [scanExponent]
  | cons c cs =>
    simp only [scanExponent] at h
    split at h
    · split at h
      · simp at h
      · have := length_afterDigits_le (exponentSign cs).2
        have := length_exponentSign_le cs
        obtain ⟨-, rfl⟩ := Prod.mk.inj (Except.ok.inj h)
        simp only [List.length_cons]
        omega
    · obtain ⟨-, rfl⟩ := Prod.mk.inj (Except.ok.inj h)
      exact Nat.le_refl _

theorem length_scanFraction_le {n m : Numeral} {cs rest : List Char}
    (h : scanFraction n cs = .ok (m, rest)) : rest.length ≤ cs.length := by
  cases cs with
  | nil => simp_all [scanFraction]
  | cons c cs =>
    simp only [scanFraction] at h
    split at h
    · split at h
      · simp at h
      · have := length_scanExponent_le h
        have := length_afterDigits_le cs
        simp only [List.length_cons]
        omega
    · exact length_scanExponent_le h

/-- A numeral takes at least a digit of the text. -/
theorem length_scan_lt {n : Numeral} {cs rest : List Char} (h : scan cs = .ok (n, rest)) :
    rest.length < cs.length := by
  simp only [scan] at h
  split at h
  · simp at h
  · next some =>
    split at h
    · simp at h
    · have := length_scanFraction_le h
      have := length_afterDigits_lt some
      have := length_minus_le cs
      omega

end Numeral

end Workflow.Json
