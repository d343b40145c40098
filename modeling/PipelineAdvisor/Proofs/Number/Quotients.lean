import Mathlib.Order.Basic
import PipelineAdvisor.Proofs.Number.WholeNumbers

/-!
Quotients of whole numbers, rounded to a double and then to a whole number. While the denominator is
small next to the precision, the double lies on the same side of every half as the quotient, so the
first rounding never shows.
-/

namespace PipelineAdvisor.Binary64

section DivideToEven

variable {numerator denominator : Nat}

theorem le_divideToEven {bound : Nat} (positive : 0 < denominator)
    (reached : bound * denominator ≤ numerator) : bound ≤ divideToEven numerator denominator := by
  have quotient : bound ≤ numerator / denominator :=
    (Nat.le_div_iff_mul_le positive).mpr reached
  rcases divideToEven_cases numerator denominator with same | next <;> omega

theorem divideToEven_le {bound : Nat} (positive : 0 < denominator)
    (below : numerator < bound * denominator) : divideToEven numerator denominator ≤ bound := by
  have quotient : numerator / denominator < bound :=
    (Nat.div_lt_iff_lt_mul positive).mpr below
  rcases divideToEven_cases numerator denominator with same | next <;> omega

theorem divideToEven_mul_le :
    2 * (divideToEven numerator denominator * denominator) ≤ 2 * numerator + denominator := by
  have parts := Nat.div_add_mod' numerator denominator
  simp only [divideToEven]
  split_ifs with below above
  · omega
  · rw [Nat.add_mul]
    omega
  · have tie : 2 * (numerator % denominator) = denominator := by omega
    have even : numerator / denominator % 2 ≤ 1 := by omega
    have half := Nat.mul_le_mul_right denominator even
    rw [Nat.add_mul]
    omega

end DivideToEven

theorem exists_parts {scale significand : Nat} (fits : significand ≤ 2 ^ 53)
    (normal : scale = 0 ∨ 2 ^ 52 ≤ significand) :
    ∃ nextScale nextSignificand, nextSignificand < 2 ^ 53 ∧
      (nextScale = 0 ∨ 2 ^ 52 ≤ nextSignificand) ∧
      scale * exponentUnit + significand = nextScale * exponentUnit + nextSignificand ∧
      significand * 2 ^ scale = nextSignificand * 2 ^ nextScale := by
  have unit : exponentUnit = 2 ^ 52 := rfl
  by_cases full : significand = 2 ^ 53
  · refine ⟨scale + 1, 2 ^ 52, by decide, Or.inr (Nat.le_refl _), ?_, ?_⟩
    · rw [full, unit]
      omega
    · rw [full, Nat.pow_succ]
      ring
  · exact ⟨scale, significand, by omega, normal, rfl, rfl⟩

section Quotient

variable {numerator denominator : Nat}

theorem ofFraction_value (positive : 0 < denominator)
    (low : scaleOf numerator denominator ≤ 1074) :
    let rounded := ofFraction false numerator denominator
    let scale := scaleOf numerator denominator
    rounded.negative = false ∧ rounded.fraction.1 * 2 ^ 1074 =
      divideToEven (numerator * 2 ^ 1074) (denominator * 2 ^ scale) * 2 ^ scale *
        rounded.fraction.2 := by
  intro rounded scale
  have isScale : IsScale numerator denominator scale := scaleOf_isScale positive
  have product : 0 < denominator * 2 ^ scale := Nat.mul_pos positive (Nat.two_pow_pos _)
  have fits := divideToEven_le product isScale.fits
  have normal : scale = 0 ∨
      2 ^ 52 ≤ divideToEven (numerator * 2 ^ 1074) (denominator * 2 ^ scale) := by
    rcases Nat.eq_zero_or_pos scale with zero | later
    · exact Or.inl zero
    · have least := isScale.least.resolve_left (by omega)
      have halves : 2 ^ scale = 2 * 2 ^ (scale - 1) := by
        rw [← Nat.pow_succ']
        congr 1
        omega
      have reached : 2 ^ 52 * (denominator * 2 ^ scale) ≤ numerator * 2 ^ 1074 := by
        calc 2 ^ 52 * (denominator * 2 ^ scale)
            = 2 ^ 53 * (denominator * 2 ^ (scale - 1)) := by rw [halves]; ring
          _ ≤ numerator * 2 ^ 1074 := least
      exact Or.inr (le_divideToEven product reached)
  obtain ⟨nextScale, nextSignificand, nextFits, nextNormal, laid, value⟩ := exists_parts fits normal
  have unit : exponentUnit = 4503599627370496 := rfl
  have infinite : infinityBits = 9218868437227405312 := rfl
  have sign : signBit = 9223372036854775808 := rfl
  have bounded : scale * exponentUnit +
      divideToEven (numerator * 2 ^ 1074) (denominator * 2 ^ scale) ≤ infinityBits := by
    rw [unit, infinite]
    omega
  have pattern : rounded = ofMagnitude false (scale * exponentUnit +
      divideToEven (numerator * 2 ^ 1074) (denominator * 2 ^ scale)) := by
    change ofMagnitude false (min infinityBits _) = _
    exact congrArg _ (Nat.min_eq_right bounded)
  have inRange : scale * exponentUnit +
      divideToEven (numerator * 2 ^ 1074) (denominator * 2 ^ scale) < signBit := by
    rw [sign]
    omega
  have bits : rounded.magnitudeBits = nextScale * exponentUnit + nextSignificand := by
    rw [pattern, magnitudeBits_ofMagnitude false inRange, laid]
  obtain ⟨scaled, significand⟩ := parts_of_magnitudeBits nextFits nextNormal bits
  refine ⟨by rw [pattern]; exact negative_ofMagnitude inRange, ?_⟩
  rw [(fraction_spec rounded).2, scaled, significand, value]
  ring

theorem scaleOf_le_of_small {bits : Nat} (positive : 0 < denominator) (bitsFit : bits ≤ 53)
    (bounded : numerator < 2 ^ (53 - bits) * denominator) :
    scaleOf numerator denominator + bits ≤ 1074 := by
  have fits : numerator * 2 ^ 1074 < 2 ^ 53 * (denominator * 2 ^ (1074 - bits)) := by
    have powers : 2 ^ (53 - bits) * 2 ^ 1074 = 2 ^ 53 * 2 ^ (1074 - bits) := by
      rw [← Nat.pow_add, ← Nat.pow_add]
      congr 1
      omega
    calc numerator * 2 ^ 1074
        < 2 ^ (53 - bits) * denominator * 2 ^ 1074 :=
          Nat.mul_lt_mul_of_pos_right bounded (Nat.two_pow_pos _)
      _ = 2 ^ (53 - bits) * 2 ^ 1074 * denominator := by ring
      _ = 2 ^ 53 * (denominator * 2 ^ (1074 - bits)) := by rw [powers]; ring
  have least := (scaleOf_isScale positive).le fits
  omega

/-- Rounding to a double keeps a quotient on its side of every half. -/
theorem half_le_divideToEven_iff {bits : Nat} (positive : 0 < denominator)
    (few : denominator < 2 ^ bits) {scale : Nat} (room : scale + bits ≤ 1074) (whole : Nat) :
    (2 * whole + 1) * 2 ^ 1074 ≤
        2 * (divideToEven (numerator * 2 ^ 1074) (denominator * 2 ^ scale) * 2 ^ scale) ↔
      (2 * whole + 1) * denominator ≤ 2 * numerator := by
  have product : 0 < denominator * 2 ^ scale := Nat.mul_pos positive (Nat.two_pow_pos _)
  have someBits : bits ≠ 0 := by
    rintro rfl
    omega
  constructor
  · intro above
    by_contra below
    -- Below a half the quotient keeps a distance that the rounding cannot bridge.
    have gap : denominator * 2 ^ scale < 2 ^ 1074 := by
      calc denominator * 2 ^ scale
          < 2 ^ bits * 2 ^ scale := Nat.mul_lt_mul_of_pos_right few (Nat.two_pow_pos _)
        _ = 2 ^ (scale + bits) := by rw [← Nat.pow_add, Nat.add_comm]
        _ ≤ 2 ^ 1074 := Nat.pow_le_pow_right (by decide) room
    have error := @divideToEven_mul_le (numerator * 2 ^ 1074) (denominator * 2 ^ scale)
    have apart : (2 * numerator + 1) * 2 ^ 1074 ≤ (2 * whole + 1) * denominator * 2 ^ 1074 :=
      Nat.mul_le_mul_right _ (by omega)
    have scaled := Nat.mul_le_mul_right denominator above
    have left : (2 * whole + 1) * 2 ^ 1074 * denominator =
        (2 * whole + 1) * denominator * 2 ^ 1074 := by ring
    have right : 2 * (divideToEven (numerator * 2 ^ 1074) (denominator * 2 ^ scale) * 2 ^ scale) *
        denominator = 2 * (divideToEven (numerator * 2 ^ 1074) (denominator * 2 ^ scale) *
          (denominator * 2 ^ scale)) := by ring
    rw [left, right] at scaled
    rw [Nat.add_mul] at apart
    omega
  · intro above
    -- A half is itself a double at this scale.
    obtain ⟨rest, split⟩ : ∃ rest, 1074 = rest + scale + 1 := ⟨1074 - scale - 1, by omega⟩
    have power : 2 ^ 1074 = 2 * (2 ^ rest * 2 ^ scale) := by
      rw [split, Nat.pow_succ, Nat.pow_add]
      ring
    have reached : (2 * whole + 1) * 2 ^ rest * (denominator * 2 ^ scale) ≤
        numerator * 2 ^ 1074 := by
      calc (2 * whole + 1) * 2 ^ rest * (denominator * 2 ^ scale)
          = (2 * whole + 1) * denominator * (2 ^ rest * 2 ^ scale) := by ring
        _ ≤ 2 * numerator * (2 ^ rest * 2 ^ scale) := Nat.mul_le_mul_right _ above
        _ = numerator * 2 ^ 1074 := by rw [power]; ring
    have rounded := Nat.mul_le_mul_right (2 ^ scale) (le_divideToEven product reached)
    calc (2 * whole + 1) * 2 ^ 1074
        = 2 * ((2 * whole + 1) * 2 ^ rest * 2 ^ scale) := by rw [power]; ring
      _ ≤ 2 * (divideToEven (numerator * 2 ^ 1074) (denominator * 2 ^ scale) * 2 ^ scale) :=
        Nat.mul_le_mul_left 2 rounded

theorem lt_half_up_iff (positive : 0 < denominator) (whole : Nat) :
    whole < (2 * numerator + denominator) / (2 * denominator) ↔
      (2 * whole + 1) * denominator ≤ 2 * numerator := by
  have expanded : (whole + 1) * (2 * denominator) = (2 * whole + 1) * denominator + denominator := by
    ring
  rw [← Nat.add_one_le_iff, Nat.le_div_iff_mul_le (by omega), expanded]
  omega

theorem half_le_iff_of_units {top bottom value unit : Nat} (filled : 0 < bottom) (positive : 0 < unit)
    (scaled : top * unit = value * bottom) (whole : Nat) :
    (2 * whole + 1) * bottom ≤ 2 * top ↔ (2 * whole + 1) * unit ≤ 2 * value := by
  have expanded : 2 * top * unit = 2 * value * bottom := by
    rw [Nat.mul_assoc, scaled, Nat.mul_assoc]
  rw [← Nat.mul_le_mul_right_iff positive, expanded, Nat.mul_right_comm,
    Nat.mul_le_mul_right_iff filled]

theorem roundHalfUp_of_positive {x : Binary64} (positive : x.negative = false) :
    x.roundHalfUp = (2 * x.fraction.1 + x.fraction.2) / (2 * x.fraction.2) := by
  simp only [roundHalfUp, positive, Bool.false_eq_true, if_false]

/-- A quotient that goes through a double is rounded like the exact one. -/
theorem ofFraction_roundHalfUp {bits : Nat} (positive : 0 < denominator)
    (few : denominator < 2 ^ bits) (bitsFit : bits ≤ 53)
    (bounded : numerator < 2 ^ (53 - bits) * denominator) :
    (ofFraction false numerator denominator).roundHalfUp =
      (2 * numerator + denominator) / (2 * denominator) := by
  have room := scaleOf_le_of_small positive bitsFit bounded
  obtain ⟨sign, value⟩ := @ofFraction_value numerator denominator positive (by omega)
  have filled := (fraction_spec (ofFraction false numerator denominator)).1
  rw [roundHalfUp_of_positive sign]
  apply eq_of_forall_lt_iff
  intro whole
  rw [lt_half_up_iff filled, lt_half_up_iff positive,
    half_le_iff_of_units filled (Nat.two_pow_pos 1074) value,
    half_le_divideToEven_iff positive few room]

end Quotient

end PipelineAdvisor.Binary64
