import PipelineAdvisor.Proofs.Number.Rounding

/-!
Whole numbers below `2 ^ 53` as doubles. Each of them is held exactly; so a sum that stays below this
bound is exact, and a quotient is rounded only once.
-/

namespace PipelineAdvisor.Binary64

theorem negative_ofMagnitude {magnitude : Nat} (fits : magnitude < signBit) :
    (ofMagnitude false magnitude).negative = false := by
  have sign : signBit = 9223372036854775808 := rfl
  rw [sign] at fits
  rw [ofMagnitude, negative, if_neg Bool.false_ne_true, UInt64.toNat_ofNat', sign]
  exact decide_eq_false (by omega)

theorem parts_of_magnitudeBits {x : Binary64} {scale significand : Nat}
    (fits : significand < 2 ^ 53) (normal : scale = 0 ∨ 2 ^ 52 ≤ significand)
    (laid : x.magnitudeBits = scale * exponentUnit + significand) :
    x.scale = scale ∧ x.significand = significand := by
  have unit : exponentUnit = 4503599627370496 := rfl
  rw [unit] at laid
  simp only [Binary64.scale, Binary64.significand, unit, laid]
  refine ⟨by omega, ?_⟩
  split_ifs <;> omega

theorem ofNat_magnitudeBits {value : Nat} (small : value < 2 ^ 53) :
    ∃ scale rest, scale + rest = 1074 ∧ value * 2 ^ rest < 2 ^ 53 ∧
      (scale = 0 ∨ 2 ^ 52 ≤ value * 2 ^ rest) ∧
      ofNat value = ofMagnitude false (scale * exponentUnit + value * 2 ^ rest) := by
  have isScale : IsScale value 1 (scaleOf value 1) := scaleOf_isScale Nat.one_pos
  have low : scaleOf value 1 ≤ 1074 := by
    apply isScale.le
    rw [Nat.one_mul]
    exact Nat.mul_lt_mul_of_pos_right small (Nat.two_pow_pos _)
  obtain ⟨rest, split⟩ := Nat.exists_eq_add_of_le low
  have whole : value * 2 ^ 1074 = value * 2 ^ rest * (1 * 2 ^ scaleOf value 1) := by
    rw [split, Nat.pow_add]
    ring
  have fits : value * 2 ^ rest < 2 ^ 53 := by
    have bound := isScale.fits
    rw [whole] at bound
    exact Nat.lt_of_mul_lt_mul_right bound
  have normal : scaleOf value 1 = 0 ∨ 2 ^ 52 ≤ value * 2 ^ rest := by
    refine isScale.least.imp_right fun least => ?_
    rcases Nat.eq_zero_or_pos (scaleOf value 1) with zero | positive
    · rw [whole, zero] at least
      omega
    · obtain ⟨scale, next⟩ := Nat.exists_eq_add_one_of_ne_zero (Nat.pos_iff_ne_zero.mp positive)
      have halves : value * 2 ^ rest * (1 * 2 ^ (scale + 1)) =
          2 * (value * 2 ^ rest) * (1 * 2 ^ scale) := by ring
      rw [whole, next, Nat.add_sub_cancel, halves] at least
      have reached := Nat.le_of_mul_le_mul_right least (by simp)
      omega
  refine ⟨scaleOf value 1, rest, split.symm, fits, normal, ?_⟩
  have rounded : divideToEven (value * Nat.pow 2 1074) (1 * Nat.pow 2 (scaleOf value 1)) =
      value * 2 ^ rest := by
    simp only [Nat.pow_eq, whole]
    exact divideToEven_exact _ (by simp)
  have unit : exponentUnit = 4503599627370496 := rfl
  have infinite : infinityBits = 9218868437227405312 := rfl
  have bounded : scaleOf value 1 * exponentUnit + value * 2 ^ rest ≤ infinityBits := by
    rw [unit, infinite]
    omega
  dsimp only [ofNat, ofFraction]
  rw [rounded, Nat.min_eq_right bounded]

theorem signedFraction_of_positive {x : Binary64} (positive : x.negative = false) :
    x.signedFraction = ((x.fraction.1 : Int), x.fraction.2) := by
  rcases value : x.fraction with ⟨numerator, denominator⟩
  rw [signedFraction, value, positive]
  rfl

theorem ofNat_signedFraction {value : Nat} (small : value < 2 ^ 53) :
    ∃ denominator, 0 < denominator ∧
      (ofNat value).signedFraction = (((value * denominator : Nat) : Int), denominator) := by
  obtain ⟨scale, rest, split, fits, normal, laid⟩ := ofNat_magnitudeBits small
  have unit : exponentUnit = 4503599627370496 := rfl
  have sign : signBit = 9223372036854775808 := rfl
  have inRange : scale * exponentUnit + value * 2 ^ rest < signBit := by
    rw [unit, sign]
    omega
  have positive : (ofNat value).negative = false := by
    rw [laid]
    exact negative_ofMagnitude inRange
  have bits : (ofNat value).magnitudeBits = scale * exponentUnit + value * 2 ^ rest := by
    rw [laid]
    exact magnitudeBits_ofMagnitude false inRange
  obtain ⟨scaled, significand⟩ := parts_of_magnitudeBits fits normal bits
  obtain ⟨filled, spec⟩ := fraction_spec (ofNat value)
  have exact : (ofNat value).fraction.1 = value * (ofNat value).fraction.2 := by
    apply Nat.eq_of_mul_eq_mul_right (Nat.two_pow_pos 1074)
    rw [spec, scaled, significand, ← split, Nat.pow_add]
    ring
  refine ⟨(ofNat value).fraction.2, filled, ?_⟩
  rw [signedFraction_of_positive positive, exact]

theorem ofSigned_natCast (numerator denominator : Nat) :
    ofSigned (numerator : Int) denominator = ofFraction false numerator denominator := by
  have nonnegative : decide ((numerator : Int) < 0) = false := decide_eq_false (by omega)
  rw [ofSigned, nonnegative, Int.natAbs_natCast]

/-- Adding whole numbers is exact below `2 ^ 53`. -/
theorem ofNat_add {first second : Nat} (small : first + second < 2 ^ 53) :
    (ofNat first).add (ofNat second) = ofNat (first + second) := by
  obtain ⟨below, positive, value⟩ := @ofNat_signedFraction first (by omega)
  obtain ⟨otherBelow, otherPositive, otherValue⟩ :=
    @ofNat_signedFraction second (by omega)
  have product : 0 < below * otherBelow := Nat.mul_pos positive otherPositive
  have expanded : ((first * below : Nat) : Int) * otherBelow +
      ((second * otherBelow : Nat) : Int) * below =
        (((first + second) * (below * otherBelow) : Nat) : Int) := by
    push_cast
    ring
  have reduced := @ofFraction_mul false (first + second) 1 _ Nat.one_pos product
  rw [Nat.one_mul] at reduced
  rw [add, value, otherValue]
  dsimp only
  rw [expanded, ofSigned_natCast, reduced, ofNat]

theorem ofNat_div {numerator denominator : Nat} (small : numerator < 2 ^ 53)
    (otherSmall : denominator < 2 ^ 53) (filled : 0 < denominator) :
    (ofNat numerator).div (ofNat denominator) = ofFraction false numerator denominator := by
  obtain ⟨below, positive, value⟩ := ofNat_signedFraction small
  obtain ⟨otherBelow, otherPositive, otherValue⟩ := ofNat_signedFraction otherSmall
  have product : 0 < below * otherBelow := Nat.mul_pos positive otherPositive
  have top : ((numerator * below : Nat) : Int) * otherBelow =
      ((numerator * (below * otherBelow) : Nat) : Int) := by
    push_cast
    ring
  have bottom : below * (denominator * otherBelow) = denominator * (below * otherBelow) := by ring
  rw [div, value, otherValue]
  dsimp only
  rw [top, Int.toNat_natCast, bottom, ofSigned_natCast, ofFraction_mul false filled product]

end PipelineAdvisor.Binary64
