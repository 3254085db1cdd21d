import Workflow.Json.Read
import Mathlib.Algebra.Group.Nat.Defs
/-!
# Whole numbers as doubles

A whole number of a JSON value is read as a double, which is finite: rounding a mantissa drops digits and adds one at
most, so the exponent of what is left stays far below the greatest.  Only sizes are followed here; that the double is
also the nearest one is no matter.
-/
namespace Workflow

open Float.Model (Format UnpackedFloat)
open Float.Model.UnpackedFloat (Accuracy ExtendedMantissa Sign pack roundWithAccuracy shiftToTargetExponent unpack
  unpackExponent)

/-- The greatest exponent of a finite double. -/
def greatestExponent : Int := 971

/-- Zero, or a number whose exponent is not above the greatest. -/
def InRange : UnpackedFloat → Prop
  | .zero _ => True
  | .finite _ _ e _ => e ≤ greatestExponent
  | _ => False

/-! ## Packing -/

theorem InRange.isFinite {u : UnpackedFloat} (inRange : InRange u) : u.isFinite = true := by
  cases u <;> trivial

theorem InRange.neg {u : UnpackedFloat} (inRange : InRange u) : InRange u.neg := by
  cases u <;> exact inRange

/-- **What is unpacked is in range unless its exponent has every bit.** -/
theorem inRange_unpack {b : BitVec Format.binary64.numBits} (exponent : unpackExponent b ≠ -1#_) :
    InRange (unpack Format.binary64 b) := by
  have below : (unpackExponent b).toNat ≤ 2046 := by
    have bound : (unpackExponent b).toNat < 2048 := (unpackExponent b).isLt
    have differs : (unpackExponent b).toNat ≠ 2047 := fun same => exponent (BitVec.eq_of_toNat_eq same)
    omega
  delta unpack
  dsimp only
  rw [if_neg exponent]
  by_cases least : unpackExponent b = 0#_
  · rw [if_pos least, least]
    by_cases zero : UnpackedFloat.unpackMantissa b = 0#_
    · rw [dif_pos zero]
      trivial
    · rw [dif_neg zero]
      show (0 : Int) - ((1023 : Nat) + 52 : Int) + 1 ≤ 971
      omega
  · rw [if_neg least]
    show (unpackExponent b).toNat - ((1023 : Nat) + 52 : Int) ≤ 971
    omega

/-- **What is in range is packed with an exponent that lacks a bit.** -/
theorem unpackExponent_pack {u : UnpackedFloat} (inRange : InRange u) :
    unpackExponent (pack Format.binary64 u) ≠ -1#_ := by
  cases u with
  | infinity => exact inRange.elim
  | notANumber => exact inRange.elim
  | zero s =>
    show unpackExponent (UnpackedFloat.packComponents Format.binary64 s 0 0) ≠ -1#_
    rw [UnpackedFloat.unpackExponent_packComponents]
    decide
  | finite s m e positive =>
    have bound : e ≤ 971 := inRange
    have bias : (Format.binary64.exponentBias : Int) = 1023 := rfl
    have bits : 2 ^ Format.binary64.exponentBits = 2048 := rfl
    delta pack
    dsimp only
    rw [if_neg (by omega)]
    split
    · rw [UnpackedFloat.unpackExponent_packComponents]
      intro same
      have values : (BitVec.ofNat 11 _).toNat = 2047 := congrArg BitVec.toNat same
      rw [BitVec.toNat_ofNat, Nat.mod_eq_of_lt (by omega)] at values
      omega
    · rw [UnpackedFloat.unpackExponent_packComponents]
      decide

/-- **Packing keeps in range what is in range.** -/
theorem inRange_unpack_pack {u : UnpackedFloat} (inRange : InRange u) : InRange (Float.Model.pack u).unpack :=
  inRange_unpack (unpackExponent_pack inRange)

/-! ## Rounding -/

theorem mantissa_shiftRight_le (em : ExtendedMantissa) (n : Nat) : (em >>> n).mantissa ≤ em.mantissa := by
  induction n with
  | zero => exact Nat.le_refl _
  | succ n ih => exact Nat.le_trans (Nat.div_le_self _ 2) ih

theorem mantissa_ofMantissaAndAccuracy (m : Nat) (a : Accuracy) :
    (ExtendedMantissa.ofMantissaAndAccuracy m a).mantissa = m := by
  rcases a with _ | (_ | _ | _) <;> rfl

theorem roundedMantissa_le (em : ExtendedMantissa) : em.roundedMantissa ≤ em.mantissa + 1 := by
  obtain ⟨m, r, s⟩ := em
  cases r <;> cases s
  · exact Nat.le_succ m
  · exact Nat.le_succ m
  · show m + m % 2 ≤ m + 1
    omega
  · exact Nat.le_refl _

/-- A shift to the exponent that a mantissa should have leaves no more of the mantissa. -/
theorem mantissa_shiftToTargetExponent_le (m : Nat) (e : Int) (a : Accuracy) :
    (shiftToTargetExponent Format.binary64 m e a).1.mantissa ≤ m :=
  Nat.le_trans (mantissa_shiftRight_le _ _) (Nat.le_of_eq (mantissa_ofMantissaAndAccuracy m a))

/-- A shift to the exponent that a mantissa should have ends no higher than where it starts and where that is. -/
theorem exponent_shiftToTargetExponent_le {m digits : Nat} {e bound : Int} (a : Accuracy) (below : m < 2 ^ digits)
    (start : e ≤ bound) (target : digits + e - 53 ≤ bound) (least : -1074 ≤ bound) :
    (shiftToTargetExponent Format.binary64 m e a).2 ≤ bound := by
  have log : m.log2 < digits ∨ m.log2 = 0 := by
    by_cases zero : m = 0
    · exact .inr (by rw [zero]; rfl)
    · exact .inl ((Nat.log2_lt zero).2 below)
  show e + ((max ((m.log2 : Int) + 1 + e - (53 : Nat)) (-1074) - e).toNat : Int) ≤ bound
  omega

/-- What rounding gives: zero where no digit is left. -/
theorem inRange_zero_or_finite {s : Sign} {m : Nat} {e : Int} (bound : e ≤ 971) :
    InRange (if zero : m = 0 then .zero s else .finite s m e (Nat.pos_of_ne_zero zero)) := by
  by_cases zero : m = 0
  · rw [dif_pos zero]
    trivial
  · rw [dif_neg zero]
    exact bound

/-- **Rounding stays in range** where a mantissa is neither long nor scaled up. -/
theorem inRange_roundWithAccuracy {s : Sign} {m digits : Nat} {e : Int} (a : Accuracy) (below : m < 2 ^ digits)
    (start : e ≤ 0) (room : digits ≤ 400) : InRange (roundWithAccuracy Format.binary64 s m e a) := by
  have first : (shiftToTargetExponent Format.binary64 m e a).2 ≤ 400 :=
    exponent_shiftToTargetExponent_le a below (by omega) (by omega) (by omega)
  -- rounding up may carry into one more digit, which is why there is a second shift
  have carried : (shiftToTargetExponent Format.binary64 m e a).1.roundedMantissa < 2 ^ (digits + 1) := by
    have less := mantissa_shiftToTargetExponent_le m e a
    have more := roundedMantissa_le (shiftToTargetExponent Format.binary64 m e a).1
    have double : 2 ^ (digits + 1) = 2 * 2 ^ digits := Nat.pow_succ'
    omega
  have second : (shiftToTargetExponent Format.binary64 (shiftToTargetExponent Format.binary64 m e a).1.roundedMantissa
      (shiftToTargetExponent Format.binary64 m e a).2 .exact).2 ≤ 971 :=
    exponent_shiftToTargetExponent_le .exact carried (by omega) (by omega) (by omega)
  exact inRange_zero_or_finite second

/-- **A whole number of 64 bits is rounded to what is in range.** -/
theorem inRange_round {s : Sign} {n : Nat} (below : n < 2 ^ 64) :
    InRange (UnpackedFloat.round Format.binary64 s n 0) := by
  -- the mantissa is first scaled up by what it lacks of 53 digits
  have shift : (0 - max ((n.log2 : Int) + 1 + 0 - (53 : Nat)) (-1074)).toNat ≤ 52 := by omega
  have scaled : n <<< (0 - max ((n.log2 : Int) + 1 + 0 - (53 : Nat)) (-1074)).toNat < 2 ^ 116 := by
    rw [Nat.shiftLeft_eq]
    calc n * 2 ^ _ ≤ n * 2 ^ 52 := Nat.mul_le_mul_left n (Nat.pow_le_pow_right (by omega) shift)
      _ < 2 ^ 64 * 2 ^ 52 := Nat.mul_lt_mul_of_pos_right below (by omega)
      _ = 2 ^ 116 := (Nat.pow_add 2 64 52).symm
  exact inRange_roundWithAccuracy .exact scaled (by omega) (by omega)

theorem inRange_ofNat {n : Nat} (below : n < 2 ^ 64) : InRange (UnpackedFloat.ofNat Format.binary64 n) := by
  rw [UnpackedFloat.ofNat, UnpackedFloat.ofInt, UnpackedFloat.normalize]
  split
  · next negative => exact absurd (Int.compare_eq_lt.1 negative) (by omega)
  · trivial
  · exact inRange_round below

/-- **A whole number is read as a finite double.** -/
theorem isFinite_floatOfInt (i : Int) : (Json.floatOfInt i).isFinite = true := by
  have inRange := inRange_unpack_pack (inRange_ofNat i.natAbs.toUInt64.toNat_lt)
  rw [Json.floatOfInt]
  split
  · exact (inRange_unpack_pack inRange.neg).isFinite
  · exact inRange.isFinite

end Workflow
