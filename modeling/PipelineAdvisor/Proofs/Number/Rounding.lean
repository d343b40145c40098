import Mathlib.Algebra.Order.Ring.Nat
import Mathlib.Tactic.Common
import Mathlib.Tactic.Ring
import PipelineAdvisor.Number.Decimal

/-!
Rounding to doubles. A fraction is rounded at the least scale at which its significand fits; this
depends on its value alone, not on how it is written, and the value of a finite double is rounded to
the double itself.
-/

namespace PipelineAdvisor.Binary64

theorem divideToEven_mul (numerator denominator : Nat) {factor : Nat} (positive : 0 < factor) :
    divideToEven (numerator * factor) (denominator * factor) =
      divideToEven numerator denominator := by
  have rest : ∀ k, 2 * (k * factor) = 2 * k * factor := fun k => by ring
  simp only [divideToEven, Nat.mul_div_mul_right _ _ positive, Nat.mul_mod_mul_right, rest,
    Nat.mul_lt_mul_right positive]

theorem divideToEven_exact (quotient : Nat) {denominator : Nat} (positive : 0 < denominator) :
    divideToEven (quotient * denominator) denominator = quotient := by
  simp [divideToEven, Nat.mul_div_cancel _ positive, positive]

theorem divideToEven_cases (numerator denominator : Nat) :
    divideToEven numerator denominator = numerator / denominator ∨
      divideToEven numerator denominator = numerator / denominator + 1 := by
  simp only [divideToEven]
  split_ifs <;> omega

structure IsScale (numerator denominator scale : Nat) : Prop where
  fits : numerator * 2 ^ 1074 < 2 ^ 53 * (denominator * 2 ^ scale)
  least : scale = 0 ∨ 2 ^ 53 * (denominator * 2 ^ (scale - 1)) ≤ numerator * 2 ^ 1074

namespace IsScale

variable {numerator denominator scale : Nat}

theorem le (isScale : IsScale numerator denominator scale) {other : Nat}
    (fits : numerator * 2 ^ 1074 < 2 ^ 53 * (denominator * 2 ^ other)) : scale ≤ other := by
  rcases isScale.least with zero | least
  · omega
  · by_contra larger
    have powers : 2 ^ other ≤ 2 ^ (scale - 1) := Nat.pow_le_pow_right (by decide) (by omega)
    have products := Nat.mul_le_mul_left (2 ^ 53) (Nat.mul_le_mul_left denominator powers)
    omega

theorem unique (isScale : IsScale numerator denominator scale) {other : Nat}
    (otherIsScale : IsScale numerator denominator other) : scale = other :=
  Nat.le_antisymm (isScale.le otherIsScale.fits) (otherIsScale.le isScale.fits)

theorem mul (isScale : IsScale numerator denominator scale) {factor : Nat}
    (positive : 0 < factor) : IsScale (numerator * factor) (denominator * factor) scale := by
  have top : numerator * factor * 2 ^ 1074 = numerator * 2 ^ 1074 * factor :=
    Nat.mul_right_comm _ _ _
  have bottom : ∀ scale, 2 ^ 53 * (denominator * factor * 2 ^ scale) =
      2 ^ 53 * (denominator * 2 ^ scale) * factor := fun scale => by ring
  constructor
  · rw [top, bottom]
    exact Nat.mul_lt_mul_of_pos_right isScale.fits positive
  · rw [top, bottom]
    exact isScale.least.imp id fun least => Nat.mul_le_mul_right factor least

end IsScale

theorem guess_bounds {numerator denominator power guess : Nat} (filled : numerator ≠ 0)
    (positive : 0 < denominator)
    (guessed : guess = numerator.log2 + power - (denominator.log2 + 53)) :
    numerator * 2 ^ power < 2 ^ 53 * (denominator * 2 ^ (guess + 1)) ∧
      (guess = 0 ∨ 2 ^ 53 * (denominator * 2 ^ (guess - 1)) ≤ numerator * 2 ^ power) := by
  have topLow : 2 ^ numerator.log2 ≤ numerator := Nat.log2_self_le filled
  have topHigh : numerator < 2 ^ (numerator.log2 + 1) := Nat.lt_log2_self
  have bottomLow : 2 ^ denominator.log2 ≤ denominator := Nat.log2_self_le (by omega)
  have bottomHigh : denominator ≤ 2 ^ (denominator.log2 + 1) := Nat.le_of_lt Nat.lt_log2_self
  constructor
  · calc numerator * 2 ^ power
        < 2 ^ (numerator.log2 + 1) * 2 ^ power :=
          Nat.mul_lt_mul_of_pos_right topHigh (Nat.two_pow_pos power)
      _ = 2 ^ (numerator.log2 + 1 + power) := (Nat.pow_add _ _ _).symm
      _ ≤ 2 ^ (53 + (denominator.log2 + (guess + 1))) :=
          Nat.pow_le_pow_right (by decide) (by omega)
      _ = 2 ^ 53 * (2 ^ denominator.log2 * 2 ^ (guess + 1)) := by rw [Nat.pow_add, Nat.pow_add]
      _ ≤ 2 ^ 53 * (denominator * 2 ^ (guess + 1)) :=
          Nat.mul_le_mul_left _ (Nat.mul_le_mul_right _ bottomLow)
  · rcases Nat.eq_zero_or_pos guess with zero | later
    · exact Or.inl zero
    · refine Or.inr ?_
      calc 2 ^ 53 * (denominator * 2 ^ (guess - 1))
          ≤ 2 ^ 53 * (2 ^ (denominator.log2 + 1) * 2 ^ (guess - 1)) :=
            Nat.mul_le_mul_left _ (Nat.mul_le_mul_right _ bottomHigh)
        _ = 2 ^ (53 + (denominator.log2 + 1 + (guess - 1))) := by
            rw [← Nat.pow_add, ← Nat.pow_add]
        _ = 2 ^ (numerator.log2 + power) := by
            congr 1
            omega
        _ = 2 ^ numerator.log2 * 2 ^ power := Nat.pow_add _ _ _
        _ ≤ numerator * 2 ^ power := Nat.mul_le_mul_right _ topLow

theorem significand_lt_iff {numerator denominator power scale : Nat}
    (positive : 0 < denominator) :
    numerator * Nat.pow 2 power / (denominator * Nat.pow 2 scale) < Nat.pow 2 53 ↔
      numerator * 2 ^ power < 2 ^ 53 * (denominator * 2 ^ scale) :=
  Nat.div_lt_iff_lt_mul (Nat.mul_pos positive (Nat.two_pow_pos scale))

theorem scaleOf_isScale {numerator denominator : Nat} (positive : 0 < denominator) :
    IsScale numerator denominator (scaleOf numerator denominator) := by
  by_cases zero : numerator = 0
  · subst zero
    dsimp only [scaleOf]
    rw [if_pos rfl, Nat.zero_mul, Nat.zero_div, if_pos (by decide)]
    refine ⟨?_, Or.inl rfl⟩
    rw [Nat.zero_mul]
    exact Nat.mul_pos (by decide) (Nat.mul_pos positive (Nat.two_pow_pos 0))
  · obtain ⟨above, below⟩ := guess_bounds zero positive rfl
    dsimp only [scaleOf]
    rw [if_neg zero]
    split
    next fits => exact ⟨(significand_lt_iff positive).mp fits, below⟩
    next tooLarge =>
      have reached := Nat.not_lt.mp (mt (significand_lt_iff positive).mpr tooLarge)
      exact ⟨above, Or.inr reached⟩

theorem scaleOf_mul {numerator denominator factor : Nat} (positive : 0 < denominator)
    (factorPositive : 0 < factor) :
    scaleOf (numerator * factor) (denominator * factor) = scaleOf numerator denominator :=
  (scaleOf_isScale (Nat.mul_pos positive factorPositive)).unique
    ((scaleOf_isScale positive).mul factorPositive)

theorem ofFraction_mul (negative : Bool) {numerator denominator factor : Nat}
    (positive : 0 < denominator) (factorPositive : 0 < factor) :
    ofFraction negative (numerator * factor) (denominator * factor) =
      ofFraction negative numerator denominator := by
  have top : numerator * factor * Nat.pow 2 1074 = numerator * Nat.pow 2 1074 * factor :=
    Nat.mul_right_comm _ _ _
  have bottom : ∀ scale, denominator * factor * Nat.pow 2 scale =
      denominator * Nat.pow 2 scale * factor := fun scale => Nat.mul_right_comm _ _ _
  rw [ofFraction, ofFraction, scaleOf_mul positive factorPositive, top, bottom,
    divideToEven_mul _ _ factorPositive]

/-! A finite double is its own rounding. -/

theorem ofMagnitude_magnitudeBits (x : Binary64) : ofMagnitude x.negative x.magnitudeBits = x := by
  have sign : signBit = 9223372036854775808 := rfl
  have size : x.bits.toNat < 18446744073709551616 := x.bits.toNat_lt
  have split : (if x.negative then signBit + x.magnitudeBits else x.magnitudeBits) =
      x.bits.toNat := by
    simp only [negative, decide_eq_true_eq, magnitudeBits, sign]
    split_ifs <;> omega
  rw [ofMagnitude, split, UInt64.ofNat_toNat]

theorem magnitudeBits_ofMagnitude (negative : Bool) {magnitude : Nat} (fits : magnitude < signBit) :
    (ofMagnitude negative magnitude).magnitudeBits = magnitude := by
  have sign : signBit = 9223372036854775808 := rfl
  rw [sign] at fits
  rw [ofMagnitude, magnitudeBits, UInt64.toNat_ofNat', sign]
  cases negative
  · rw [if_neg Bool.false_ne_true]
    omega
  · rw [if_pos rfl]
    omega

section Finite

variable {x : Binary64}

theorem significand_lt (x : Binary64) : x.significand < 2 ^ 53 := by
  have unit : exponentUnit = 2 ^ 52 := rfl
  have rest : x.magnitudeBits % exponentUnit < exponentUnit := Nat.mod_lt _ (by decide)
  simp only [significand]
  split_ifs <;> omega

theorem significand_normal (x : Binary64) : x.scale = 0 ∨ 2 ^ 52 ≤ x.significand := by
  have unit : exponentUnit = 2 ^ 52 := rfl
  simp only [significand, scale]
  split_ifs <;> omega

theorem scale_significand (x : Binary64) :
    x.scale * exponentUnit + x.significand = x.magnitudeBits := by
  have parts := Nat.div_add_mod x.magnitudeBits exponentUnit
  simp only [significand, scale]
  split_ifs with zero
  · rw [zero, Nat.mul_zero, Nat.zero_add] at parts
    rw [zero, Nat.zero_sub, Nat.zero_mul, Nat.zero_add, parts]
  · obtain ⟨exponent, next⟩ := Nat.exists_eq_add_one_of_ne_zero zero
    rw [next, Nat.add_sub_cancel]
    rw [next, Nat.mul_succ, Nat.mul_comm] at parts
    omega

theorem fraction_spec (x : Binary64) : 0 < x.fraction.2 ∧
    x.fraction.1 * 2 ^ 1074 = x.significand * (x.fraction.2 * 2 ^ x.scale) := by
  rw [fraction]
  split
  next large =>
    have powers : 2 ^ (x.scale - 1074) * 2 ^ 1074 = 2 ^ x.scale :=
      Nat.pow_sub_mul_pow 2 large
    refine ⟨Nat.one_pos, ?_⟩
    dsimp only
    rw [Nat.pow_eq, Nat.mul_assoc, powers, Nat.one_mul]
  next small =>
    have powers : 2 ^ (1074 - x.scale) * 2 ^ x.scale = 2 ^ 1074 :=
      Nat.pow_sub_mul_pow 2 (Nat.le_of_not_le small)
    refine ⟨Nat.two_pow_pos _, ?_⟩
    dsimp only
    rw [Nat.pow_eq, powers]

theorem fraction_isScale (x : Binary64) : IsScale x.fraction.1 x.fraction.2 x.scale := by
  obtain ⟨positive, value⟩ := fraction_spec x
  constructor
  · rw [value]
    exact Nat.mul_lt_mul_of_pos_right (significand_lt x)
      (Nat.mul_pos positive (Nat.two_pow_pos _))
  · cases shape : x.scale with
    | zero => exact Or.inl rfl
    | succ scale =>
        have normal : 2 ^ 52 ≤ x.significand := (significand_normal x).resolve_left (by omega)
        have halves : 2 ^ 53 * (x.fraction.2 * 2 ^ scale) =
            2 ^ 52 * (x.fraction.2 * 2 ^ (scale + 1)) := by ring
        rw [value, shape, Nat.add_sub_cancel, halves]
        exact Or.inr (Nat.mul_le_mul_right _ normal)

/-- The value of a finite double is rounded to the double itself. -/
theorem ofFraction_fraction (finite : x.isFinite = true) :
    ofFraction x.negative x.fraction.1 x.fraction.2 = x := by
  obtain ⟨positive, value⟩ := fraction_spec x
  have scale : scaleOf x.fraction.1 x.fraction.2 = x.scale :=
    (scaleOf_isScale positive).unique (fraction_isScale x)
  have finite : x.magnitudeBits < infinityBits := of_decide_eq_true finite
  have rounded : divideToEven (x.fraction.1 * Nat.pow 2 1074)
      (x.fraction.2 * Nat.pow 2 x.scale) = x.significand := by
    have product : 0 < x.fraction.2 * 2 ^ x.scale := Nat.mul_pos positive (Nat.two_pow_pos _)
    simp only [Nat.pow_eq, value]
    exact divideToEven_exact _ product
  dsimp only [ofFraction]
  rw [scale, rounded, scale_significand, Nat.min_eq_right (Nat.le_of_lt finite),
    ofMagnitude_magnitudeBits]

end Finite

end PipelineAdvisor.Binary64
