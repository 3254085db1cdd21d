import Workflow.Decimal.Shortest
/-!
# How a double is written

The digits are `Decimal.shortest`'s; a `Style` decides the rest.  Two styles are in use: `Style.plain` in
messages and on the canvas, `Style.json` in documents.
-/
namespace Workflow

/-- The decisions of a number format: how ties between digits go, which magnitudes (the power of ten of
the leading digit) are written without an exponent, and whether a whole number keeps a fraction. -/
structure Style where
  tie : Decimal.Tie
  positional : Int → Bool
  wholeFraction : Bool

namespace Style

/-- Never an exponent, no fraction on whole numbers, ties away from zero. -/
def plain : Style := ⟨.up, fun _ => true, false⟩

/-- Positional from `1e-5` up to below `1e16`, whole numbers end in `.0`, ties to the even digit. -/
def json : Style := ⟨.even, fun k => -5 ≤ k && k < 16, true⟩

/-- The digits of a decimal without zeros at the end, and the place of the point after the first digit. -/
def spread (d : Decimal) : List Char × Int :=
  let all := Nat.toDigits 10 d.digits
  let kept := (all.reverse.dropWhile (· == '0')).reverse
  (kept, (all.length : Int) + d.exponent - 1)

def zeros (n : Nat) : List Char := List.replicate n '0'

/-- Digits with the leading one at `10^k`, written out in full. -/
def positionalText (whole : Bool) (digits : List Char) (k : Int) : List Char :=
  let before := (k + 1).toNat
  if k < 0 then '0' :: '.' :: zeros (-k - 1).toNat ++ digits
  else if digits.length ≤ before then
    digits ++ zeros (before - digits.length) ++ (if whole then ['.', '0'] else [])
  else digits.take before ++ '.' :: digits.drop before

/-- Digits with the leading one at `10^k`, one digit before the point and a signed exponent. -/
def exponentText (digits : List Char) (k : Int) : List Char :=
  let fraction := match digits.drop 1 with
    | [] => []
    | rest => '.' :: rest
  digits.take 1 ++ fraction ++ 'e' :: (if k < 0 then '-' else '+') :: Nat.toDigits 10 k.natAbs

/-- The text of a finite double that is not zero, without its sign. -/
def magnitude (s : Style) (x : Float) : List Char :=
  let (digits, k) := spread (Decimal.shortest s.tie (Binary.ofFloat x))
  if s.positional k then positionalText s.wholeFraction digits k else exponentText digits k

def text (s : Style) (x : Float) : String :=
  if x.isNaN then "NaN"
  else
    let unsigned :=
      if x.isInf then "inf".toList
      else if x == 0 then '0' :: (if s.wholeFraction then ['.', '0'] else [])
      else s.magnitude x
    String.ofList (if x.toBits.toNat / Nat.pow 2 63 = 1 then '-' :: unsigned else unsigned)

end Style

end Workflow
