import PipelineAdvisor.Proofs.Number.Rounding

/-!
Decimals that stand for doubles. More zeros at the end of a decimal do not matter, and the decimal
chosen for a finite double rounds to it.
-/

namespace PipelineAdvisor

theorem toDigits_mul_pow {value : Nat} (positive : 0 < value) (zeros : Nat) :
    Nat.toDigits 10 (value * 10 ^ zeros) = Nat.toDigits 10 value ++ List.replicate zeros '0' := by
  induction zeros with
  | zero => simp
  | succ zeros ih =>
      have filled : 0 < value * 10 ^ zeros := Nat.mul_pos positive (Nat.pow_pos (by decide))
      have next : value * 10 ^ (zeros + 1) = 10 * (value * 10 ^ zeros) + 0 := by ring
      rw [next, ← Nat.toDigits_append_toDigits (by decide) filled (by decide), ih,
        Nat.toDigits_zero, List.append_assoc, ← List.replicate_succ']

namespace Binary64

theorem ofDecimal_magnitude (digits : Nat) (exponent : Int) : ∃ magnitude ≤ infinityBits,
    ∀ negative, ofDecimal negative digits exponent = ofMagnitude negative magnitude := by
  simp only [ofDecimal]
  split_ifs
  · exact ⟨0, Nat.zero_le _, fun _ => rfl⟩
  · exact ⟨infinityBits, Nat.le_refl _, fun _ => rfl⟩
  · exact ⟨_, Nat.min_le_left _ _, fun _ => rfl⟩
  · exact ⟨_, Nat.min_le_left _ _, fun _ => rfl⟩

theorem ofDecimal_eq_of_magnitudeBits {x : Binary64} {digits : Nat} {exponent : Int}
    (same : (ofDecimal false digits exponent).magnitudeBits = x.magnitudeBits) :
    ofDecimal x.negative digits exponent = x := by
  obtain ⟨magnitude, bounded, rounds⟩ := ofDecimal_magnitude digits exponent
  have fits : magnitude < signBit := Nat.lt_of_le_of_lt bounded (by decide)
  rw [rounds, magnitudeBits_ofMagnitude _ fits] at same
  rw [rounds, same, ofMagnitude_magnitudeBits]

theorem ofDecimal_zero (negative : Bool) (exponent : Int) :
    ofDecimal negative 0 exponent = zero negative := by
  simp [ofDecimal]

def roundDecimal (negative : Bool) (digits : Nat) (exponent : Int) : Binary64 :=
  if 0 ≤ exponent then ofFraction negative (digits * 10 ^ exponent.toNat) 1
  else ofFraction negative digits (10 ^ (-exponent).toNat)

theorem roundDecimal_expand (negative : Bool) (digits : Nat) (exponent : Int) (zeros : Nat) :
    roundDecimal negative (digits * 10 ^ zeros) (exponent - zeros) =
      roundDecimal negative digits exponent := by
  have ten : ∀ power : Nat, 0 < 10 ^ power := fun _ => Nat.pow_pos (by decide)
  rw [roundDecimal, roundDecimal]
  by_cases whole : 0 ≤ exponent
  · by_cases still : 0 ≤ exponent - zeros
    · have powers : zeros + (exponent - zeros).toNat = exponent.toNat := by omega
      rw [if_pos whole, if_pos still, Nat.mul_assoc, ← Nat.pow_add, powers]
    · have powers : exponent.toNat + (-(exponent - zeros)).toNat = zeros := by omega
      have expanded := @ofFraction_mul negative (digits * 10 ^ exponent.toNat) 1 _ Nat.one_pos
        (ten (-(exponent - zeros)).toNat)
      rw [if_pos whole, if_neg still, ← expanded, Nat.mul_assoc, ← Nat.pow_add, powers,
        Nat.one_mul]
  · have still : ¬0 ≤ exponent - zeros := by omega
    have powers : (-exponent).toNat + zeros = (-(exponent - zeros)).toNat := by omega
    rw [if_neg whole, if_neg still, ← powers, Nat.pow_add, ofFraction_mul _ (ten _) (ten _)]

theorem ofDecimal_expand (negative : Bool) (digits : Nat) (exponent : Int) (zeros : Nat) :
    ofDecimal negative (digits * 10 ^ zeros) (exponent - zeros) =
      ofDecimal negative digits exponent := by
  rcases Nat.eq_zero_or_pos digits with rfl | positive
  · rw [Nat.zero_mul, ofDecimal_zero, ofDecimal_zero]
  have power : 0 < 10 ^ zeros := Nat.pow_pos (by decide)
  have place : exponent - zeros + ((Nat.toDigits 10 (digits * 10 ^ zeros)).length : Int) =
      exponent + (Nat.toDigits 10 digits).length := by
    rw [toDigits_mul_pow positive, List.length_append, List.length_replicate]
    omega
  have filled : digits * 10 ^ zeros = 0 ↔ digits = 0 := by simp
  have rounded := roundDecimal_expand negative digits exponent zeros
  rw [roundDecimal, roundDecimal] at rounded
  simp only [ofDecimal, place, filled, Nat.pow_eq, rounded]

theorem ofDecimal_eq_roundDecimal {digits : Nat} {exponent : Int} (negative : Bool)
    {low high : Nat} (least : 10 ^ low ≤ digits) (most : digits < 10 ^ high)
    (lowPlace : -331 ≤ exponent + low) (highPlace : exponent + high ≤ 310) :
    ofDecimal negative digits exponent = roundDecimal negative digits exponent := by
  have filled : 0 < digits := Nat.lt_of_lt_of_le (Nat.pow_pos (by decide)) least
  have some : 0 < (Nat.toDigits 10 digits).length := Nat.length_toDigits_pos
  have long : low < (Nat.toDigits 10 digits).length := by
    by_contra shorter
    have bound := (Nat.length_toDigits_le_iff (by decide) (by omega)).mp (Nat.not_lt.mp shorter)
    omega
  have short : (Nat.toDigits 10 digits).length ≤ high := by
    have places : high ≠ 0 := by
      rintro rfl
      omega
    exact (Nat.length_toDigits_le_iff (by decide) (Nat.pos_of_ne_zero places)).mpr most
  simp only [ofDecimal]
  rw [if_neg (by omega), if_neg (by omega)]
  rfl

theorem significand_pos {x : Binary64} (filled : x.magnitudeBits ≠ 0) : 0 < x.significand := by
  have unit : 0 < exponentUnit := by decide
  have parts := Nat.div_add_mod x.magnitudeBits exponentUnit
  simp only [significand]
  split_ifs with zero
  · rw [zero] at parts
    omega
  · omega

theorem scale_le {x : Binary64} (finite : x.isFinite = true) : x.scale ≤ 2045 := by
  have finite : x.magnitudeBits < infinityBits := of_decide_eq_true finite
  have exponent : x.magnitudeBits / exponentUnit < 2047 :=
    (Nat.div_lt_iff_lt_mul (by decide)).mpr finite
  rw [scale]
  omega

end Binary64

namespace Decimal

theorem ten_pow_le_five_pow {power : Nat} (few : power ≤ 1074) :
    10 ^ (power - 330) ≤ 5 ^ power := by
  rcases Nat.le_total power 330 with small | large
  · rw [Nat.sub_eq_zero_of_le small]
    exact Nat.pow_pos (by decide)
  · have bound : 2 ^ 744 ≤ 5 ^ 330 := by decide +kernel
    have twos : 2 ^ (power - 330) ≤ 5 ^ 330 :=
      Nat.le_trans (Nat.pow_le_pow_right (by decide) (by omega)) bound
    calc 10 ^ (power - 330)
        = 2 ^ (power - 330) * 5 ^ (power - 330) := by rw [← Nat.mul_pow]
      _ ≤ 5 ^ 330 * 5 ^ (power - 330) := Nat.mul_le_mul_right _ twos
      _ = 5 ^ power := by rw [Nat.mul_comm, Nat.pow_sub_mul_pow 5 large]

theorem ofDecimal_whole (negative : Bool) {digits : Nat} (positive : 0 < digits)
    (most : digits < 10 ^ 310) :
    Binary64.ofDecimal negative digits 0 = Binary64.ofFraction negative digits 1 := by
  have least : 10 ^ 0 ≤ digits := positive
  rw [Binary64.ofDecimal_eq_roundDecimal _ least most (by omega) (by omega), Binary64.roundDecimal,
    if_pos (Int.le_refl 0), Int.toNat_zero, Nat.pow_zero, Nat.mul_one]

/-- A number of halves of halves has as many places as it was halved. -/
theorem ofDecimal_halved (negative : Bool) {significand power : Nat} (positive : 0 < significand)
    (bounded : significand < 2 ^ 53) (few : power ≤ 1074) :
    Binary64.ofDecimal negative (significand * 5 ^ power) (-(power : Int)) =
      Binary64.ofFraction negative significand (2 ^ power) := by
  have most : significand * 5 ^ power < 10 ^ (power + 16) := by
    have bound : 2 ^ 53 ≤ 10 ^ 16 := by decide
    have powers : 5 ^ power ≤ 10 ^ power := Nat.pow_le_pow_left (by decide) _
    calc significand * 5 ^ power
        < 10 ^ 16 * 5 ^ power :=
          Nat.mul_lt_mul_of_pos_right (Nat.lt_of_lt_of_le bounded bound) (Nat.pow_pos (by decide))
      _ ≤ 10 ^ 16 * 10 ^ power := Nat.mul_le_mul_left _ powers
      _ = 10 ^ (power + 16) := by rw [Nat.pow_add, Nat.mul_comm]
  have least : 10 ^ (power - 330) ≤ significand * 5 ^ power :=
    Nat.le_trans (ten_pow_le_five_pow few) (Nat.le_mul_of_pos_left _ positive)
  have ten : (10 : Nat) ^ power = 2 ^ power * 5 ^ power := by rw [← Nat.mul_pow]
  rw [Binary64.ofDecimal_eq_roundDecimal _ least most (by omega) (by omega)]
  rcases Nat.eq_zero_or_pos power with rfl | places
  · simp [Binary64.roundDecimal]
  · rw [Binary64.roundDecimal, if_neg (by omega), Int.neg_neg, Int.toNat_natCast, ten,
      Binary64.ofFraction_mul _ (Nat.two_pow_pos _) (Nat.pow_pos (by decide))]

theorem exact_toBinary64 {x : Binary64} (finite : x.isFinite = true)
    (filled : x.magnitudeBits ≠ 0) : (exact x).toBinary64 x.negative = x := by
  have positive := Binary64.significand_pos filled
  have bounded := Binary64.significand_lt x
  have rounds := Binary64.ofFraction_fraction finite
  rw [Binary64.fraction] at rounds
  rw [toBinary64, exact]
  split
  next large =>
    rw [if_pos large] at rounds
    have most : x.significand * 2 ^ (x.scale - 1074) < 10 ^ 310 := by
      have powers : 2 ^ (x.scale - 1074) ≤ 2 ^ 971 :=
        Nat.pow_le_pow_right (by decide) (by have := Binary64.scale_le finite; omega)
      have bound : 2 ^ 53 * 2 ^ 971 < 10 ^ 310 := by decide +kernel
      exact Nat.lt_of_le_of_lt (Nat.mul_le_mul (Nat.le_of_lt bounded) powers) bound
    have whole := Nat.mul_pos positive (Nat.two_pow_pos (x.scale - 1074))
    exact (ofDecimal_whole x.negative whole most).trans rounds
  next small =>
    rw [if_neg small] at rounds
    exact (ofDecimal_halved x.negative positive bounded (Nat.sub_le _ _)).trans rounds

theorem atPlace?_toBinary64 {x : Binary64} {exponent : Int} {decimal : Decimal}
    (found : atPlace? x exponent = some decimal) : decimal.toBinary64 x.negative = x := by
  apply Binary64.ofDecimal_eq_of_magnitudeBits
  rcases units : inUnits x.fraction.1 x.fraction.2 exponent with ⟨top, bottom⟩
  rw [atPlace?, units] at found
  dsimp only [toBinary64] at found
  have nearest := Binary64.divideToEven_cases top bottom
  cases below : (Binary64.ofDecimal false (top / bottom) exponent).magnitudeBits ==
      x.magnitudeBits <;>
    cases above : (Binary64.ofDecimal false (top / bottom + 1) exponent).magnitudeBits ==
      x.magnitudeBits <;>
    simp only [below, above, Bool.and_self, Bool.and_false, Bool.false_and, if_true,
      Bool.false_eq_true, if_false, Option.some.injEq, reduceCtorEq] at found
  · subst found
    exact beq_iff_eq.mp above
  · subst found
    exact beq_iff_eq.mp below
  · subst found
    rcases nearest with isBelow | isAbove
    · rw [isBelow]
      exact beq_iff_eq.mp below
    · rw [isAbove]
      exact beq_iff_eq.mp above

/-- The decimal that is chosen for a finite double rounds to it. -/
theorem shortest_toBinary64 {x : Binary64} (finite : x.isFinite = true) :
    (shortest x).toBinary64 x.negative = x := by
  rw [shortest]
  split
  next zero =>
    apply Binary64.ofDecimal_eq_of_magnitudeBits
    rw [Binary64.ofDecimal_zero, zero]
    rfl
  next filled =>
    dsimp only
    cases found : (List.range 17).findSome? fun (count : Nat) =>
        atPlace? x (pointPosition x.fraction.1 x.fraction.2 - (count + 1)) with
    | none => exact exact_toBinary64 finite filled
    | some decimal =>
        obtain ⟨count, _, here⟩ := List.exists_of_findSome?_eq_some found
        exact atPlace?_toBinary64 here

end Decimal

end PipelineAdvisor
