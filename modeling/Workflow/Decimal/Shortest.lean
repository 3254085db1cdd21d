/-!
# The shortest decimal of a double

A finite double stands for every real number that rounds to it: an interval around `m · 2^q` whose ends
belong to it exactly when `m` is even.  `shortest` looks for the coarsest decimal grid with a point in that
interval.  If any point of a grid lies inside, one of the value's two neighbours on that grid does, so only
those two are tried; seventeen digits always suffice.
-/
namespace Workflow

/-- A positive decimal, `digits · 10^exponent`. -/
structure Decimal where
  digits : Nat
  exponent : Int
deriving DecidableEq, Repr

/-- A positive double, `mantissa · 2^exponent`; at a power of two the neighbour below is half as far away
as the one above. -/
structure Binary where
  mantissa : Nat
  exponent : Int
  powerOfTwo : Bool
deriving DecidableEq, Repr

/-- The magnitude of a finite double, read off its bits. -/
def Binary.ofFloat (x : Float) : Binary :=
  let bits := x.toBits.toNat
  let fraction := bits % Nat.pow 2 52
  let biased := bits / Nat.pow 2 52 % Nat.pow 2 11
  if biased = 0 then ⟨fraction, -1074, false⟩
  else ⟨fraction + Nat.pow 2 52, Int.ofNat biased - 1075, fraction == 0 && biased != 1⟩

namespace Decimal

/-- Which of two equally near candidates is written. -/
inductive Tie where
  | up
  | even
deriving DecidableEq, Repr

def tenPowerLe (k : Int) (num den : Nat) : Bool :=
  Nat.pow 10 k.toNat * den ≤ num * Nat.pow 10 (-k).toNat

/-- The place of the leading digit of `num / den`: the largest `k` with `10^k ≤ num / den`.  Counting
binary places brackets it to two neighbours. -/
def leadingPlace (num den : Nat) : Int :=
  let low := (((Nat.log2 num : Int) - Nat.log2 den - 1) * 30103).fdiv 100000
  if tenPowerLe (low + 1) num den then low + 1 else low

/-- The candidates of one grid, and what they are measured against, as whole multiples of one unit:
`step` apart, aiming at `value`, strictly between `low` and `high` or, if `closed`, at an end. -/
structure Grid where
  step : Nat
  value : Nat
  low : Nat
  high : Nat
  closed : Bool

/-- Does the grid point `c · step` read back as the value? -/
def Grid.readsBack (g : Grid) (c : Nat) : Bool :=
  let p := c * g.step
  (g.low < p && p < g.high) || (g.closed && (p == g.low || p == g.high))

/-- The nearer of the value's two neighbours that read back, if one does. -/
def Grid.pick (g : Grid) (tie : Tie) : Option Nat :=
  let below := g.value / g.step
  let above := below + 1
  match g.readsBack below, g.readsBack above with
  | false, false => none
  | true, false => some below
  | false, true => some above
  | true, true =>
    let toBelow := g.value - below * g.step
    let toAbove := above * g.step - g.value
    if toBelow < toAbove then some below
    else if toAbove < toBelow then some above
    else match tie with
      | .up => some above
      | .even => some (if below % 2 = 0 then below else above)

/-- The grid of multiples of `10^place` for a double, in units fine enough for its interval's ends. -/
def gridOf (b : Binary) (place : Int) : Grid :=
  let two := b.exponent - 2
  let scale := Nat.pow 2 two.toNat * Nat.pow 10 (-place).toNat
  { step := Nat.pow 10 place.toNat * Nat.pow 2 (-two).toNat
    value := 4 * b.mantissa * scale
    low := (4 * b.mantissa - if b.powerOfTwo then 1 else 2) * scale
    high := (4 * b.mantissa + 2) * scale
    closed := b.mantissa % 2 == 0 }

/-- The fewest digits that read back, and of those the nearest to the value. -/
def shortest (tie : Tie) (b : Binary) : Decimal :=
  let two := b.exponent - 2
  let top := leadingPlace (4 * b.mantissa * Nat.pow 2 two.toNat) (Nat.pow 2 (-two).toNat)
  let tries := (List.range 17).findSome? fun (n : Nat) =>
    let place := top - n
    ((gridOf b place).pick tie).map fun c => Decimal.mk c place
  tries.getD ⟨b.mantissa, b.exponent⟩

end Decimal

end Workflow
