import PipelineAdvisor.Json.Reader
import PipelineAdvisor.Proofs.Number.DecimalText

/-!
Numbers in data. A whole number of 64 bits and a finite double are each written with number
characters only, and the text reads back as the same number: the whole number has no point and no
exponent, the double has one of them.
-/

namespace PipelineAdvisor.Json

theorem isNumberChar_of_isDigit {c : Char} (digit : c.isDigit = true) : isNumberChar c = true := by
  simp [isNumberChar, digit]

structure NumberText (value : Json) (text : List Char) : Prop where
  chars : ∀ c ∈ text, isNumberChar c = true
  filled : text ≠ []
  reads : number? text = some value

/-! A literal starts with a digit, so that a sign in front of it is told apart. -/

theorem number?_of_digit {c : Char} (digit : c.isDigit = true) (others : List Char) :
    number? (c :: others) = unsignedNumber? false (c :: others) := by
  unfold number?
  split
  next sign =>
    injection sign with isSign
    subst isSign
    exact absurd digit (by decide)
  next => rfl

theorem number?_sign (text : List Char) : number? ('-' :: text) = unsignedNumber? true text := rfl

end PipelineAdvisor.Json

namespace PipelineAdvisor

open Json

theorem IsDigits.numberChars {text : List Char} (digits : IsDigits text) :
    ∀ c ∈ text, isNumberChar c = true :=
  fun c known => isNumberChar_of_isDigit (digits c known)

theorem IsDigits.not_mem {text : List Char} (digits : IsDigits text) (mark : Char)
    (other : mark.isDigit = false) : mark ∉ text := by
  intro known
  rw [digits mark known] at other
  exact Bool.noConfusion other

theorem ExponentPart.numberChars {tail : List Char} {power : Int}
    (exponent : ExponentPart tail power) : ∀ c ∈ tail, isNumberChar c = true := by
  have marked : ∀ {sign : Char} {ten : List Char}, isNumberChar sign = true → IsDigits ten →
      ∀ c ∈ 'e' :: sign :: ten, isNumberChar c = true := by
    intro sign ten known digits
    exact List.forall_mem_cons.mpr ⟨by decide, List.forall_mem_cons.mpr ⟨known, digits.numberChars⟩⟩
  cases exponent with
  | missing => simp
  | negative digits filled => exact marked (by decide) digits
  | positive digits filled => exact marked (by decide) digits

theorem ExponentPart.no_point {tail : List Char} {power : Int}
    (exponent : ExponentPart tail power) : '.' ∉ tail := by
  cases exponent with
  | missing => simp
  | negative digits filled => simp [digits.not_mem '.' (by decide)]
  | positive digits filled => simp [digits.not_mem '.' (by decide)]

namespace FloatLiteral

variable {text : List Char} {decimal : Decimal}

theorem numberChars (literal : FloatLiteral text decimal) : ∀ c ∈ text, isNumberChar c = true := by
  cases literal with
  | point wholeDigits wholeFilled lead placesDigits placesFilled exponent =>
      rw [List.forall_mem_append, List.forall_mem_cons, List.forall_mem_append]
      exact ⟨wholeDigits.numberChars, by decide, placesDigits.numberChars, exponent.numberChars⟩
  | noPoint wholeDigits wholeFilled lead exponent tailFilled =>
      rw [List.forall_mem_append]
      exact ⟨wholeDigits.numberChars, exponent.numberChars⟩

theorem front (literal : FloatLiteral text decimal) : ∃ whole mark rest,
    text = whole ++ mark :: rest ∧ IsDigits whole ∧ whole ≠ [] ∧ NoLeadingZero whole ∧
      mark.isDigit = false := by
  cases literal with
  | point wholeDigits wholeFilled lead placesDigits placesFilled exponent =>
      exact ⟨_, _, _, rfl, wholeDigits, wholeFilled, lead, by decide⟩
  | noPoint wholeDigits wholeFilled lead exponent tailFilled =>
      obtain ⟨mark, rest, parts⟩ := List.exists_cons_of_ne_nil tailFilled
      refine ⟨_, mark, rest, by rw [parts], wholeDigits, wholeFilled, lead, ?_⟩
      exact exponent.stops mark (by rw [parts]; rfl)

theorem digit_after_point (literal : FloatLiteral text decimal)
    (pointed : text.contains '.' = true) :
    ((text.dropWhile (· != '.')).drop 1).head?.elim false Char.isDigit = true := by
  cases literal with
  | @point whole places tail power wholeDigits wholeFilled lead placesDigits placesFilled
      exponent =>
      obtain ⟨first, others, rfl⟩ := List.exists_cons_of_ne_nil placesFilled
      have before : ∀ c ∈ whole, (c != '.') = true := by
        intro c known
        exact bne_iff_ne.mpr fun isPoint =>
          wholeDigits.not_mem '.' (by decide) (isPoint ▸ known)
      rw [List.dropWhile_append_of_pos before]
      simpa using placesDigits first (by simp)
  | noPoint wholeDigits wholeFilled lead exponent tailFilled =>
      rw [List.contains_iff_mem, List.mem_append] at pointed
      rcases pointed with inWhole | inTail
      · exact absurd inWhole (wholeDigits.not_mem '.' (by decide))
      · exact absurd inTail exponent.no_point

theorem fractional? (literal : FloatLiteral text decimal) (negative : Bool) :
    unsignedNumber?.fractional? negative text = some (.float (decimal.toBinary64 negative)) := by
  have pointed : (text.contains '.' &&
      !((text.dropWhile (· != '.')).drop 1).head?.elim false Char.isDigit) = false := by
    cases isPointed : text.contains '.' with
    | false => rfl
    | true => rw [literal.digit_after_point isPointed]; rfl
  have reads := literal.readDecimal?
  obtain ⟨whole, mark, rest, rfl, digits, filled, -, -⟩ := literal.front
  obtain ⟨first, others, rfl⟩ := List.exists_cons_of_ne_nil filled
  have digit : first.isDigit = true := digits first (by simp)
  rw [List.cons_append] at pointed reads ⊢
  simp only [unsignedNumber?.fractional?, pointed, Bool.false_eq_true, if_false, digit, if_true,
    reads, Option.map_some]

theorem unsignedNumber? (literal : FloatLiteral text decimal) (negative : Bool) :
    Json.unsignedNumber? negative text = some (.float (decimal.toBinary64 negative)) := by
  have fraction := literal.fractional? negative
  obtain ⟨whole, mark, rest, rfl, digits, filled, lead, stop⟩ := literal.front
  have mixed : (whole ++ mark :: rest).all Char.isDigit = false := by simp [stop]
  obtain ⟨first, others, rfl⟩ := List.exists_cons_of_ne_nil filled
  have digit : first.isDigit = true := digits first (by simp)
  rw [List.cons_append] at mixed fraction ⊢
  rw [Json.unsignedNumber?.eq_def, mixed, if_neg Bool.false_ne_true]
  split
  next text others point =>
    injection point with isPoint
    subst isPoint
    exact absurd digit (by decide)
  next text next more zero =>
    injection zero with isZero parts
    subst isZero
    have alone := lead rfl
    injection alone with _ none
    rw [none] at parts
    injection parts with isMark
    rw [← isMark, stop, if_neg Bool.false_ne_true]
    exact fraction
  next => exact fraction

theorem numberText (literal : FloatLiteral text decimal) (negative : Bool) :
    NumberText (.float (decimal.toBinary64 negative))
      (if negative then '-' :: text else text) := by
  have chars := literal.numberChars
  cases negative with
  | true =>
      exact ⟨List.forall_mem_cons.mpr ⟨by decide, chars⟩, by simp,
        (number?_sign text).trans (literal.unsignedNumber? true)⟩
  | false =>
      have reads := literal.unsignedNumber? false
      obtain ⟨whole, mark, rest, rfl, digits, filled, -, -⟩ := literal.front
      obtain ⟨first, others, rfl⟩ := List.exists_cons_of_ne_nil filled
      exact ⟨chars, by simp, (number?_of_digit (digits first (by simp)) _).trans reads⟩

end FloatLiteral

namespace Json

/-- A finite double is written as a number that reads back as itself. -/
theorem numberText_float {x : Binary64} (finite : x.isFinite = true) :
    NumberText (.float x) (floatLayout.render x) := by
  obtain ⟨text, decimal, rendered, literal, same⟩ :=
    @FloatLayout.render_literal floatLayout rfl x finite
  have number := literal.numberText x.negative
  rw [same, ← rendered] at number
  exact number

theorem decimalDigits_lead (value : Nat) : NoLeadingZero (FloatLayout.decimalDigits value) := by
  intro zero
  rcases Nat.eq_zero_or_pos value with rfl | positive
  · rfl
  · exact absurd zero (toDigits_head_ne_zero (Nat.pos_iff_ne_zero.mp positive))

theorem unsignedNumber?_decimalDigits (negative : Bool) (value : Nat) :
    unsignedNumber? negative (FloatLayout.decimalDigits value) =
      if negative then
        if 0 < value ∧ value ≤ 2 ^ 63 then some (.integer (-value))
        else some (.float (Binary64.ofDecimal true value 0))
      else if value < 2 ^ 64 then some (.integer value)
      else some (.float (Binary64.ofDecimal false value 0)) := by
  have digits : (FloatLayout.decimalDigits value).all Char.isDigit = true :=
    List.all_eq_true.mpr (IsDigits.decimalDigits value)
  have filled : (FloatLayout.decimalDigits value).isEmpty = false :=
    List.isEmpty_eq_false_iff.mpr Nat.toDigits_ne_nil
  have lead : (decide ((FloatLayout.decimalDigits value).length > 1) &&
      (FloatLayout.decimalDigits value).head? == some '0') = false := by
    by_contra extra
    simp only [Bool.not_eq_false, Bool.and_eq_true, decide_eq_true_eq, beq_iff_eq] at extra
    rw [decimalDigits_lead value extra.2] at extra
    exact absurd extra.1 (by decide)
  have total : (FloatLayout.decimalDigits value).foldl
      (fun total digit => 10 * total + (digit.toNat - '0'.toNat)) 0 = value := by
    rw [← Nat.ofDigitChars_eq_foldl]
    exact Nat.ofDigitChars_ten_toDigits
  rw [unsignedNumber?.eq_def, if_pos digits, filled, lead]
  simp only [Bool.or_self, Bool.false_eq_true, if_false, total, Nat.pow_eq]

theorem numberText_integer {value : Int} (least : -2 ^ 63 ≤ value) (most : value < 2 ^ 64) :
    NumberText (.integer value) (integerText value) := by
  have digits := IsDigits.decimalDigits value.natAbs
  have filled : FloatLayout.decimalDigits value.natAbs ≠ [] := Nat.toDigits_ne_nil
  rw [integerText]
  split
  next below =>
    refine ⟨List.forall_mem_cons.mpr ⟨by decide, digits.numberChars⟩, by simp, ?_⟩
    have back : -(value.natAbs : Int) = value := by omega
    rw [number?_sign, unsignedNumber?_decimalDigits, if_pos rfl, if_pos (by omega), back]
  next above =>
    refine ⟨digits.numberChars, filled, ?_⟩
    have back : (value.natAbs : Int) = value := by omega
    have reads := unsignedNumber?_decimalDigits false value.natAbs
    rw [if_neg Bool.false_ne_true, if_pos (by omega), back] at reads
    obtain ⟨first, others, parts⟩ := List.exists_cons_of_ne_nil filled
    rw [parts] at digits reads ⊢
    rw [number?_of_digit (digits first (by simp)), reads]

end Json

end PipelineAdvisor
