/-!
# Scalars

Canvas geometry needs four operations, an order and decimal literals.  It is written once, over any type
that has them: `Float` is what a session runs on, `Rat` is where the laws that rounding breaks are stated.

`larger` and `smaller` ignore a value that is not even equal to itself, as the canvas does when a
coordinate has overflowed into nonsense: the other operand wins.
-/
namespace Workflow

/-- A type of coordinates: arithmetic, a decidable order, whole numbers and decimal literals. -/
class Scalar (α : Type) extends Zero α, One α, Add α, Sub α, Mul α, Div α, LT α, LE α, OfScientific α where
  ofNat : Nat → α
  decidableLT : DecidableLT α
  decidableLE : DecidableLE α

namespace Scalar

instance {α : Type} [Scalar α] : DecidableLT α := Scalar.decidableLT

instance {α : Type} [Scalar α] : DecidableLE α := Scalar.decidableLE

instance : Scalar Float where
  zero := 0
  one := 1
  ofNat := Float.ofNat
  decidableLT := inferInstance
  decidableLE := inferInstance

instance : Scalar Rat where
  zero := 0
  one := 1
  ofNat := fun n => (n : Rat)
  decidableLT := inferInstance
  decidableLE := inferInstance

variable {α : Type} [Scalar α]

/-- The larger of two; the second when they compare equal, the first when the second is no number. -/
def larger (x y : α) : α := if y < x then x else if y ≤ y then y else x

/-- The smaller of two; the second when they compare equal, the first when the second is no number. -/
def smaller (x y : α) : α := if x < y then x else if y ≤ y then y else x

/-- The part of a coordinate that is not negative: itself when positive, zero otherwise. -/
def nonNegative (x : α) : α := if 0 < x then x else 0

/-- What is left is zero or positive, whatever the order does. -/
theorem nonNegative_cases (x : α) : nonNegative x = 0 ∨ 0 < nonNegative x := by
  rw [nonNegative]
  split
  · next positive => exact .inr positive
  · exact .inl rfl

@[simp]
theorem nonNegative_nonNegative (x : α) : nonNegative (nonNegative x) = nonNegative x := by
  rcases nonNegative_cases x with zero | positive
  · rw [zero, nonNegative, ite_self]
  · rw [nonNegative, if_pos positive]

end Scalar

end Workflow
