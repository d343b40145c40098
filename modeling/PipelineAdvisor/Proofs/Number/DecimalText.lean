import PipelineAdvisor.Proofs.Number.Decimals

/-!
Decimal texts. What is laid out for a finite double is a literal with a point or an exponent, and
the literal reads back as a decimal that rounds to this double.
-/

namespace PipelineAdvisor

section Runs

variable {kind : Char → Bool} {text rest : List Char}

theorem takeWhile_run (run : ∀ c ∈ text, kind c = true) (stops : ∀ c ∈ rest.head?, kind c = false) :
    (text ++ rest).takeWhile kind = text := by
  rw [List.takeWhile_append_of_pos run]
  cases rest with
  | nil => simp
  | cons c others => simp [stops c rfl]

theorem dropWhile_run (run : ∀ c ∈ text, kind c = true) (stops : ∀ c ∈ rest.head?, kind c = false) :
    (text ++ rest).dropWhile kind = rest := by
  rw [List.dropWhile_append_of_pos run]
  cases rest with
  | nil => rfl
  | cons c others => simp [stops c rfl]

end Runs

def IsDigits (text : List Char) : Prop :=
  ∀ c ∈ text, c.isDigit = true

namespace IsDigits

variable {text rest : List Char}

theorem append (digits : IsDigits text) (others : IsDigits rest) : IsDigits (text ++ rest) := by
  intro c known
  rcases List.mem_append.mp known with front | back
  · exact digits c front
  · exact others c back

theorem zeros (count : Nat) : IsDigits (List.replicate count '0') := by
  intro c known
  rw [List.eq_of_mem_replicate known]
  rfl

theorem decimalDigits (value : Nat) : IsDigits (FloatLayout.decimalDigits value) :=
  fun _ known => Nat.isDigit_of_mem_toDigits (by decide) (by decide) known

end IsDigits

inductive ExponentPart : List Char → Int → Prop
  | missing : ExponentPart [] 0
  | negative {ten : List Char} (digits : IsDigits ten) (filled : ten ≠ []) :
      ExponentPart ('e' :: '-' :: ten) (-(Nat.ofDigitChars 10 ten 0 : Nat))
  | positive {ten : List Char} (digits : IsDigits ten) (filled : ten ≠ []) :
      ExponentPart ('e' :: '+' :: ten) (Nat.ofDigitChars 10 ten 0 : Nat)

def NoLeadingZero (text : List Char) : Prop :=
  text.head? = some '0' → text = ['0']

/-- A literal with a point or an exponent, and the decimal that it writes. -/
inductive FloatLiteral : List Char → Decimal → Prop
  | point {whole places tail : List Char} {power : Int} (wholeDigits : IsDigits whole)
      (wholeFilled : whole ≠ []) (lead : NoLeadingZero whole) (placesDigits : IsDigits places)
      (placesFilled : places ≠ []) (exponent : ExponentPart tail power) :
      FloatLiteral (whole ++ '.' :: (places ++ tail))
        ⟨Nat.ofDigitChars 10 (whole ++ places) 0, power - places.length⟩
  | noPoint {whole tail : List Char} {power : Int} (wholeDigits : IsDigits whole)
      (wholeFilled : whole ≠ []) (lead : NoLeadingZero whole) (exponent : ExponentPart tail power)
      (tailFilled : tail ≠ []) :
      FloatLiteral (whole ++ tail) ⟨Nat.ofDigitChars 10 whole 0, power⟩

theorem ExponentPart.stops {tail : List Char} {power : Int} (exponent : ExponentPart tail power) :
    ∀ c ∈ tail.head?, c.isDigit = false := by
  cases exponent with
  | missing => simp
  | negative _ _ => simp
  | positive _ _ => simp

theorem FloatLiteral.readDecimal? {text : List Char} {decimal : Decimal}
    (literal : FloatLiteral text decimal) : readDecimal? text = some decimal := by
  have allDigits : ∀ {ten : List Char}, IsDigits ten → ten.all Char.isDigit = true :=
    fun digits => List.all_eq_true.mpr digits
  cases literal with
  | @point whole places tail power wholeDigits wholeFilled lead placesDigits placesFilled
      exponent =>
      have stops : ∀ c ∈ ('.' :: (places ++ tail)).head?, c.isDigit = false := by simp
      rw [PipelineAdvisor.readDecimal?]
      simp only [takeWhile_run wholeDigits stops, dropWhile_run wholeDigits stops,
        takeWhile_run placesDigits exponent.stops, dropWhile_run placesDigits exponent.stops]
      cases exponent with
      | missing => simp [wholeFilled, Nat.ofDigitChars_eq_foldl]
      | negative digits filled =>
          simp [wholeFilled, filled, allDigits digits, Nat.ofDigitChars_eq_foldl]
      | positive digits filled =>
          simp [wholeFilled, filled, allDigits digits, Nat.ofDigitChars_eq_foldl]
  | @noPoint whole tail power wholeDigits wholeFilled lead exponent tailFilled =>
      rw [PipelineAdvisor.readDecimal?]
      simp only [takeWhile_run wholeDigits exponent.stops,
        dropWhile_run wholeDigits exponent.stops]
      cases exponent with
      | missing => exact absurd rfl tailFilled
      | negative digits filled =>
          simp [wholeFilled, filled, allDigits digits, Nat.ofDigitChars_eq_foldl]
      | positive digits filled =>
          simp [wholeFilled, filled, allDigits digits, Nat.ofDigitChars_eq_foldl]

theorem toDigits_head_ne_zero {value : Nat} (filled : value ≠ 0) :
    (Nat.toDigits 10 value).head? ≠ some '0' := by
  induction value using Nat.strong_induction_on with
  | _ value ih =>
      rw [Nat.toDigits_eq_if (by decide)]
      split
      next => simpa using filled
      next large =>
        obtain ⟨first, others, digits⟩ :=
          List.exists_cons_of_ne_nil (Nat.toDigits_ne_nil (n := value / 10) (b := 10))
        have front := ih (value / 10) (by omega) (by omega)
        rw [digits] at front ⊢
        exact front

namespace FloatLayout

structure Placed (text : List Char) (point : Int) : Prop where
  digits : IsDigits text
  filled : text ≠ []
  lead : text.head? = some '0' → text = ['0'] ∧ point = 1

theorem withoutZeros (text : List Char) : ∃ zeros,
    text = (text.reverse.dropWhile (· == '0')).reverse ++ List.replicate zeros '0' := by
  refine ⟨(text.reverse.takeWhile (· == '0')).length, ?_⟩
  have zeros : text.reverse.takeWhile (· == '0') =
      List.replicate (text.reverse.takeWhile (· == '0')).length '0' := by
    refine List.eq_replicate_iff.mpr ⟨rfl, fun c known => ?_⟩
    have all := List.all_takeWhile (l := text.reverse) (p := (· == '0'))
    exact beq_iff_eq.mp (List.all_eq_true.mp all c known)
  have whole : text.reverse.takeWhile (· == '0') ++ text.reverse.dropWhile (· == '0') =
    text.reverse := List.takeWhile_append_dropWhile
  calc text = text.reverse.reverse := text.reverse_reverse.symm
    _ = (text.reverse.dropWhile (· == '0')).reverse ++
          (text.reverse.takeWhile (· == '0')).reverse := by rw [← whole, List.reverse_append]; simp
    _ = _ := by rw [zeros, List.reverse_replicate, List.length_replicate]

theorem keptDigits {digits : Nat} (positive : 0 < digits) : ∃ kept zeros,
    ((decimalDigits digits).reverse.dropWhile (· == '0')).reverse = kept ∧
      (decimalDigits digits).length = kept.length + zeros ∧ IsDigits kept ∧ kept ≠ [] ∧
      kept.head? ≠ some '0' ∧ Nat.ofDigitChars 10 kept 0 * 10 ^ zeros = digits := by
  obtain ⟨zeros, whole⟩ := withoutZeros (decimalDigits digits)
  have front : (decimalDigits digits).head? ≠ some '0' :=
    toDigits_head_ne_zero (Nat.pos_iff_ne_zero.mp positive)
  have allDigits := IsDigits.decimalDigits digits
  have value : Nat.ofDigitChars 10 (decimalDigits digits) 0 = digits :=
    Nat.ofDigitChars_ten_toDigits
  have filled : (decimalDigits digits) ≠ [] := Nat.toDigits_ne_nil
  refine ⟨_, zeros, rfl, ?_⟩
  generalize ((decimalDigits digits).reverse.dropWhile (· == '0')).reverse = kept at whole ⊢
  rw [whole] at front allDigits value filled ⊢
  rw [Nat.ofDigitChars_append, Nat.ofDigitChars_replicate_zero, Nat.mul_comm] at value
  -- were nothing kept, the digits would start with a zero
  have keptFilled : kept ≠ [] := by
    rintro rfl
    cases zeros with
    | zero => exact filled rfl
    | succ zeros => exact front rfl
  obtain ⟨first, others, rfl⟩ := List.exists_cons_of_ne_nil keptFilled
  exact ⟨by rw [List.length_append, List.length_replicate],
    fun c known => allDigits c (List.mem_append_left _ known), keptFilled, front, value⟩

theorem digitsAndPoint_spec (decimal : Decimal) :
    Placed (digitsAndPoint decimal).1 (digitsAndPoint decimal).2 ∧
      ∀ negative, Binary64.ofDecimal negative
        (Nat.ofDigitChars 10 (digitsAndPoint decimal).1 0)
        ((digitsAndPoint decimal).2 - (digitsAndPoint decimal).1.length) =
          decimal.toBinary64 negative := by
  obtain ⟨digits, exponent⟩ := decimal
  rcases Nat.eq_zero_or_pos digits with rfl | positive
  · have zero : digitsAndPoint ⟨0, exponent⟩ = (['0'], 1) := by
      simp [digitsAndPoint, decimalDigits]
    rw [zero]
    refine ⟨⟨IsDigits.zeros 1, by simp, fun _ => ⟨rfl, rfl⟩⟩, fun negative => ?_⟩
    rw [Decimal.toBinary64, Binary64.ofDecimal_zero]
    exact Binary64.ofDecimal_zero negative _
  obtain ⟨kept, zeros, isKept, length, allDigits, filled, front, value⟩ := keptDigits positive
  have parts : digitsAndPoint ⟨digits, exponent⟩ = (kept, exponent + (kept.length + zeros)) := by
    simp [digitsAndPoint, isKept, length, filled, Nat.pos_iff_ne_zero.mp positive]
  rw [parts]
  refine ⟨⟨allDigits, filled, fun zero => absurd zero front⟩, fun negative => ?_⟩
  have expanded := Binary64.ofDecimal_expand negative (Nat.ofDigitChars 10 kept 0)
    (exponent + zeros) zeros
  have back : exponent + zeros - zeros = exponent := by omega
  have point : exponent + ((kept.length : Int) + zeros) - kept.length = exponent + zeros := by
    omega
  rw [back, value] at expanded
  rw [point, Decimal.toBinary64, expanded]

theorem exponentPart (exponent : Int) :
    ExponentPart ('e' :: ((if exponent < 0 then ['-'] else ['+']) ++
      decimalDigits exponent.natAbs)) exponent := by
  have digits := IsDigits.decimalDigits exponent.natAbs
  have filled : decimalDigits exponent.natAbs ≠ [] := Nat.toDigits_ne_nil
  have value : Nat.ofDigitChars 10 (decimalDigits exponent.natAbs) 0 = exponent.natAbs :=
    Nat.ofDigitChars_ten_toDigits
  by_cases below : exponent < 0
  · have part := ExponentPart.negative digits filled
    rw [value, show -(exponent.natAbs : Int) = exponent by omega] at part
    rw [if_pos below]
    exact part
  · have part := ExponentPart.positive digits filled
    rw [value, show (exponent.natAbs : Int) = exponent by omega] at part
    rw [if_neg below]
    exact part

def WritesAt (literal text : List Char) (point : Int) : Prop :=
  ∃ decimal, FloatLiteral literal decimal ∧ ∀ negative, decimal.toBinary64 negative =
    Binary64.ofDecimal negative (Nat.ofDigitChars 10 text 0) (point - text.length)

/-! One lemma for each place of the point: after the digits, among them, before them, and after the
first one if there is an exponent. -/

section Laid

variable {text : List Char} {point : Int}

theorem Placed.whole (placed : Placed text point) (reaches : (text.length : Int) ≤ point) :
    WritesAt (text ++ List.replicate (point - text.length).toNat '0' ++ ['.', '0']) text point := by
  have allDigits := placed.digits.append (IsDigits.zeros (point - text.length).toNat)
  have lead : NoLeadingZero (text ++ List.replicate (point - text.length).toNat '0') := by
    intro zero
    obtain ⟨first, others, parts⟩ := List.exists_cons_of_ne_nil placed.filled
    obtain ⟨alone, one⟩ := placed.lead (by rw [parts] at zero ⊢; exact zero)
    rw [alone, one]
    rfl
  refine ⟨_, .point allDigits (by simp [placed.filled]) lead (IsDigits.zeros 1) (by simp) .missing,
    fun negative => ?_⟩
  have expanded := Binary64.ofDecimal_expand negative (Nat.ofDigitChars 10 text 0)
    (point - text.length) ((point - text.length).toNat + 1)
  have power : point - text.length - ((point - text.length).toNat + 1 : Nat) = -1 := by omega
  rw [power, Nat.mul_comm, ← Nat.ofDigitChars_replicate_zero, ← Nat.ofDigitChars_append,
    List.replicate_succ', ← List.append_assoc] at expanded
  rw [← expanded]
  rfl

theorem Placed.split (placed : Placed text point) (inside : 0 < point)
    (before : point < text.length) :
    WritesAt (text.take point.toNat ++ ['.'] ++ text.drop point.toNat) text point := by
  have lead : NoLeadingZero (text.take point.toNat) := by
    intro zero
    rw [List.head?_take, if_neg (by omega)] at zero
    obtain ⟨alone, one⟩ := placed.lead zero
    rw [alone, List.length_singleton] at before
    omega
  have literal : FloatLiteral (text.take point.toNat ++ '.' :: (text.drop point.toNat ++ [])) _ :=
    .point (fun c known => placed.digits c (List.mem_of_mem_take known))
      (List.ne_nil_of_length_pos (by rw [List.length_take]; omega)) lead
      (fun c known => placed.digits c (List.mem_of_mem_drop known))
      (List.ne_nil_of_length_pos (by rw [List.length_drop]; omega)) .missing
  rw [List.append_nil, List.append_cons] at literal
  refine ⟨_, literal, fun negative => ?_⟩
  have power : (0 : Int) - ((text.drop point.toNat).length : Int) = point - text.length := by
    rw [List.length_drop]
    omega
  rw [Decimal.toBinary64, power, List.take_append_drop]

theorem Placed.small (placed : Placed text point) (before : point ≤ 0) :
    WritesAt (['0', '.'] ++ List.replicate (-point).toNat '0' ++ text) text point := by
  have literal : FloatLiteral
      (['0'] ++ '.' :: ((List.replicate (-point).toNat '0' ++ text) ++ [])) _ :=
    .point (IsDigits.zeros 1) (by simp) (fun _ => rfl)
      ((IsDigits.zeros _).append placed.digits) (by simp [placed.filled]) .missing
  rw [List.append_nil] at literal
  refine ⟨_, literal, fun negative => ?_⟩
  have power : (0 : Int) - ((List.replicate (-point).toNat '0' ++ text).length : Int) =
      point - text.length := by
    rw [List.length_append, List.length_replicate]
    omega
  have digits : Nat.ofDigitChars 10 (['0'] ++ (List.replicate (-point).toNat '0' ++ text)) 0 =
      Nat.ofDigitChars 10 text 0 := by
    rw [List.singleton_append, ← List.cons_append, ← List.replicate_succ, Nat.ofDigitChars_append,
      Nat.ofDigitChars_replicate_zero, Nat.mul_zero]
  rw [Decimal.toBinary64, power, digits]

theorem Placed.scientific {first : Char} {others : List Char}
    (placed : Placed (first :: others) point) {tail : List Char}
    (exponent : ExponentPart tail (point - 1)) (filled : tail ≠ []) :
    WritesAt ((if others = [] then [first] else first :: '.' :: others) ++ tail) (first :: others)
      point := by
  have wholeDigits : IsDigits [first] := fun c known => placed.digits c (by simp_all)
  have lead : NoLeadingZero [first] := by simp [NoLeadingZero]
  split_ifs with alone
  · subst alone
    refine ⟨_, .noPoint wholeDigits (by simp) lead exponent filled, fun negative => ?_⟩
    rfl
  · have placesDigits : IsDigits others :=
      fun c known => placed.digits c (List.mem_cons_of_mem _ known)
    refine ⟨_, .point wholeDigits (by simp) lead placesDigits alone exponent, fun negative => ?_⟩
    have power : point - 1 - (others.length : Int) = point - ((first :: others).length : Nat) := by
      rw [List.length_cons]
      omega
    rw [Decimal.toBinary64, power]
    rfl

end Laid

theorem layDigits_writes {layout : FloatLayout} (plus : layout.exponentPlus = ['+'])
    {text : List Char} {point : Int} (placed : Placed text point) :
    WritesAt (layout.layDigits text point) text point := by
  obtain ⟨first, others, rfl⟩ := List.exists_cons_of_ne_nil placed.filled
  have scientific := placed.scientific (exponentPart (point - 1)) (by simp)
  simp only [layDigits, plus]
  split
  next reaches => exact placed.whole reaches.1
  next short =>
    split
    next inside => exact placed.split inside.1 (by omega)
    next =>
      split
      next before => exact placed.small before.2
      next => cases others <;> simpa using scientific

/-- The text of a finite double reads back as a decimal that rounds to it. -/
theorem render_literal {layout : FloatLayout} (plus : layout.exponentPlus = ['+']) {x : Binary64}
    (finite : x.isFinite = true) : ∃ text decimal,
    layout.render x = (if x.negative then '-' :: text else text) ∧ FloatLiteral text decimal ∧
      decimal.toBinary64 x.negative = x := by
  have bounded : x.magnitudeBits < Binary64.infinityBits := of_decide_eq_true finite
  have number : ¬x.isNaN = true := by simp [Binary64.isNaN, Nat.le_of_lt bounded]
  have notInfinite : ¬x.isInfinite = true := by simp [Binary64.isInfinite, Nat.ne_of_lt bounded]
  obtain ⟨placed, stands⟩ := digitsAndPoint_spec (Decimal.shortest x)
  obtain ⟨decimal, literal, same⟩ := layDigits_writes plus placed
  refine ⟨_, decimal, ?_, literal, ?_⟩
  · rw [render, if_neg number, if_neg notInfinite]
  · rw [same, stands, Decimal.shortest_toBinary64 finite]

end FloatLayout

end PipelineAdvisor
