import Mathlib.Data.List.Forall2
import PipelineAdvisor.Proofs.Finding.Totals

/-!
What a report as a whole promises, next to what its findings promise one by one. The cost is the exact
mean of the percentages, rounded half up. The time adds up the numbers that the time texts write; but
a number that does not fit into 32 bits, or has a digit of another script next to it, is left out
altogether.
-/

namespace PipelineAdvisor

def writtenDigits (text : List Char) : List Char :=
  (text.dropWhile fun c => !c.isDigit).takeWhile Char.isDigit

theorem isDecimalDigit_of_isDigit {c : Char} (digit : c.isDigit = true) :
    Text.isDecimalDigit c = true := by
  have low : c.toNat < 0x80 := by
    simp only [Char.isDigit, Bool.and_eq_true, decide_eq_true_eq] at digit
    have below : c.toNat ≤ '9'.toNat := digit.2
    have nine : '9'.toNat = 57 := rfl
    omega
  rw [Text.isDecimalDigit, if_pos low, digit]

theorem takeWhile_isDigit {text : List Char}
    (ascii : ∀ c ∈ text.takeWhile Text.isDecimalDigit, c.isDigit = true) :
    text.takeWhile Char.isDigit = text.takeWhile Text.isDecimalDigit := by
  induction text with
  | nil => rfl
  | cons c rest ih =>
      rw [List.takeWhile_cons] at ascii
      rw [List.takeWhile_cons, List.takeWhile_cons]
      by_cases known : Text.isDecimalDigit c = true
      · rw [if_pos known] at ascii
        have digit := ascii c List.mem_cons_self
        rw [if_pos known, if_pos digit, ih]
        exact fun other inRun => ascii other (List.mem_cons_of_mem c inRun)
      · rw [if_neg known, if_neg fun digit => known (isDecimalDigit_of_isDigit digit)]

theorem firstDigits_eq_iff {text : List Char} :
    firstDigits text = writtenDigits text ↔ (firstDigits text).all Char.isDigit = true := by
  constructor
  · intro same
    rw [same]
    exact List.all_takeWhile
  · intro ascii
    induction text with
    | nil => rfl
    | cons c rest ih =>
        by_cases known : Text.isDecimalDigit c = true
        · have run : firstDigits (c :: rest) = (c :: rest).takeWhile Text.isDecimalDigit := by
            rw [firstDigits, List.dropWhile_cons_of_neg (by simp [known])]
          rw [run, List.all_eq_true] at ascii
          have digit : c.isDigit = true := by
            apply ascii
            rw [List.takeWhile_cons, if_pos known]
            exact List.mem_cons_self
          rw [run, writtenDigits, List.dropWhile_cons_of_neg (by simp [digit]),
            takeWhile_isDigit ascii]
        · have noDigit : c.isDigit ≠ true := fun digit => known (isDecimalDigit_of_isDigit digit)
          have run : firstDigits (c :: rest) = firstDigits rest := by
            rw [firstDigits, List.dropWhile_cons_of_pos (by simpa using known), ← firstDigits]
          rw [run] at ascii
          rw [run, writtenDigits, List.dropWhile_cons_of_pos (by simpa using noDigit),
            ← writtenDigits, ih ascii]

namespace Finding

def writtenMinutes (finding : Finding) : Nat :=
  Nat.ofDigitChars 10 (writtenDigits (finding.time?.getD "").toList) 0

/-- Whether the number is read: no digit of another script comes before it or joins it, and it fits
into 32 bits. -/
def isRead (finding : Finding) : Bool :=
  firstDigits (finding.time?.getD "").toList == writtenDigits (finding.time?.getD "").toList &&
    finding.writtenMinutes < 2 ^ 32

def countedMinutes (finding : Finding) : Nat :=
  (finding.time?.bind leadingInteger?).getD 0

end Finding

theorem leadingInteger?_getD (text : String) : (leadingInteger? text).getD 0 =
    if firstDigits text.toList = writtenDigits text.toList ∧
        Nat.ofDigitChars 10 (writtenDigits text.toList) 0 < 2 ^ 32
    then Nat.ofDigitChars 10 (writtenDigits text.toList) 0 else 0 := by
  have value : (firstDigits text.toList).foldl
      (fun total digit => 10 * total + (digit.toNat - '0'.toNat)) 0 =
        Nat.ofDigitChars 10 (firstDigits text.toList) 0 := Nat.ofDigitChars_eq_foldl.symm
  have width : Nat.pow 2 32 = 2 ^ 32 := rfl
  simp only [leadingInteger?, value, width]
  by_cases ascii : (firstDigits text.toList).all Char.isDigit = true
  · have same := firstDigits_eq_iff.mpr ascii
    by_cases empty : writtenDigits text.toList = []
    · simp [same, empty]
    · have ownDigits : (writtenDigits text.toList).all Char.isDigit = true := List.all_takeWhile
      simp only [same, List.isEmpty_eq_false_iff.mpr empty, ownDigits, Bool.not_false,
        Bool.true_and, true_and, decide_eq_true_eq]
      split <;> rfl
  · have differ : firstDigits text.toList ≠ writtenDigits text.toList := fun same =>
      ascii (firstDigits_eq_iff.mp same)
    simp [ascii, differ]

namespace Finding

theorem countedMinutes_eq (finding : Finding) :
    finding.countedMinutes = if finding.isRead then finding.writtenMinutes else 0 := by
  cases given : finding.time? with
  | none =>
      have unwritten : finding.writtenMinutes = 0 := by
        rw [writtenMinutes, given]
        rfl
      rw [countedMinutes, given, unwritten, ite_self]
      rfl
  | some text =>
      rw [countedMinutes, given, Option.bind_some, leadingInteger?_getD]
      simp only [isRead, writtenMinutes, given, Option.getD_some, Bool.and_eq_true, beq_iff_eq,
        decide_eq_true_eq]

theorem countedMinutes_le (finding : Finding) : finding.countedMinutes ≤ finding.writtenMinutes := by
  rw [countedMinutes_eq]
  split <;> omega

end Finding

theorem totalSavings_minutes_eq (findings : List Finding) :
    (totalSavings findings).minutes = min 30 (findings.map Finding.countedMinutes).sum := by
  have sums : ((findings.filterMap Finding.time?).filterMap leadingInteger?).sum =
      (findings.map Finding.countedMinutes).sum := by
    induction findings with
    | nil => rfl
    | cons finding rest ih =>
        rw [List.map_cons, List.sum_cons, ← ih, Finding.countedMinutes, List.filterMap_cons]
        cases finding.time? with
        | none => simp
        | some text =>
            rw [List.filterMap_cons, Option.bind_some]
            cases leadingInteger? text with
            | none => simp
            | some minutes => simp
  have cap : timeSavedCap = 30 := rfl
  have largest : largestCount = 4294967295 := rfl
  simp only [totalSavings, saturatedSum_eq, sums, cap, largest]
  omega

theorem sum_of_read (findings : List Finding) (minutes : Finding → Nat) :
    (findings.map minutes).sum = ((findings.filter Finding.isRead).map minutes).sum +
      ((findings.filter fun finding => !finding.isRead).map minutes).sum := by
  have parted := (List.filter_append_perm Finding.isRead findings).map minutes
  rw [← parted.sum_eq, List.map_append, List.sum_append]

theorem sum_countedMinutes (findings : List Finding) :
    (findings.map Finding.countedMinutes).sum =
      ((findings.filter Finding.isRead).map Finding.writtenMinutes).sum := by
  have read : (findings.filter Finding.isRead).map Finding.countedMinutes =
      (findings.filter Finding.isRead).map Finding.writtenMinutes := by
    apply List.map_congr_left
    intro finding known
    rw [Finding.countedMinutes_eq, if_pos (List.mem_filter.mp known).2]
  have unread : ((findings.filter fun finding => !finding.isRead).map
      Finding.countedMinutes).sum = 0 := by
    rw [List.sum_eq_zero_iff, List.forall_mem_map]
    intro finding known
    have skipped := (List.mem_filter.mp known).2
    rw [Finding.countedMinutes_eq, if_neg (by simpa using skipped)]
  rw [sum_of_read, read, unread, Nat.add_zero]

/-- The numbers that are read add up, and a larger one never lowers the sum as long as it is read too.
The sum is the one of all numbers just if it reaches the cap or nothing but zeros is left out. -/
theorem totalSavings_minutes_written (findings : List Finding) :
    let readSum := ((findings.filter Finding.isRead).map Finding.writtenMinutes).sum
    (totalSavings findings).minutes = min 30 readSum ∧
      ((totalSavings findings).minutes = min 30 (findings.map Finding.writtenMinutes).sum ↔
        30 ≤ readSum ∨
          ∀ finding ∈ findings, finding.isRead = false → finding.writtenMinutes = 0) ∧
      ∀ others, List.Forall₂ (fun finding other : Finding => other = finding ∨
          (other.isRead = true ∧ finding.writtenMinutes ≤ other.writtenMinutes)) findings others →
        (totalSavings findings).minutes ≤ (totalSavings others).minutes := by
  intro readSum
  have minutes : (totalSavings findings).minutes = min 30 readSum := by
    rw [totalSavings_minutes_eq, sum_countedMinutes]
  refine ⟨minutes, ?_, ?_⟩
  · have leftOut : (∀ finding ∈ findings, finding.isRead = false → finding.writtenMinutes = 0) ↔
        ((findings.filter fun finding => !finding.isRead).map Finding.writtenMinutes).sum = 0 := by
      simp only [List.sum_eq_zero_iff, List.forall_mem_map, List.mem_filter, Bool.not_eq_true',
        and_imp]
    rw [minutes, leftOut, sum_of_read findings Finding.writtenMinutes]
    omega
  · intro others larger
    have each : List.Forall₂ (· ≤ ·) (findings.map Finding.countedMinutes)
        (others.map Finding.countedMinutes) := by
      rw [List.forall₂_map_left_iff, List.forall₂_map_right_iff]
      refine larger.imp ?_
      rintro finding other (rfl | ⟨read, more⟩)
      · exact Nat.le_refl _
      · rw [other.countedMinutes_eq, if_pos read]
        exact Nat.le_trans finding.countedMinutes_le more
    have sums := each.sum_le_sum
    rw [totalSavings_minutes_eq, totalSavings_minutes_eq]
    omega

def Finding.saving (time : String) : Finding :=
  { Finding.start .cache "missing" "build" .medium Score.missingCache "Cache dependencies" with
    savings? := some (Savings.ofTime time) }

theorem totalSavings_minutes_drop_long_number :
    let long := Finding.saving "4294967296 min"
    (totalSavings [long]).minutes = 0 ∧ min 30 ([long].map Finding.writtenMinutes).sum = 30 ∧
      (totalSavings [Finding.saving "4294967295 min"]).minutes = 30 := by
  decide +kernel

/-- With fewer than `2 ^ 21` percentages of 32 bits the cost is their exact mean, rounded half up and
cut off at 100; it depends on the percentages only, in any order. -/
theorem totalSavings_costPercent_eq {findings : List Finding}
    (few : (findings.filterMap Finding.costPercent?).length < 2 ^ 21)
    (bounded : ∀ percent ∈ findings.filterMap Finding.costPercent?, percent < 2 ^ 32) :
    let percents := findings.filterMap Finding.costPercent?
    (percents = [] → (totalSavings findings).costPercent = 0) ∧
      (percents ≠ [] → (totalSavings findings).costPercent =
        min 100 ((2 * percents.sum + percents.length) / (2 * percents.length))) ∧
      ∀ others : List Finding, (others.filterMap Finding.costPercent?).Perm percents →
        (totalSavings others).costPercent = (totalSavings findings).costPercent := by
  intro percents
  have mean := meanPercent_eq 21 (by decide) few bounded
  refine ⟨?_, ?_, ?_⟩
  · intro empty
    rw [totalSavings]
    exact congrArg meanPercent empty
  · intro _
    exact mean
  · intro others same
    exact meanPercent_of_perm same.symm few bounded

def Finding.cheapening (percent : Nat) : Finding :=
  { Finding.start .resource "oversized" "build" .high (Score.oversizedTier percent)
      "Use a smaller resource class" with
    savings? := some (Savings.cost percent) }

theorem totalSavings_costPercent_tie : (totalSavings
    [.cheapening 88, .saving "2-5 min", .cheapening 51]).costPercent = 70 := by
  have mean := (@totalSavings_costPercent_eq
    [.cheapening 88, .saving "2-5 min", .cheapening 51] (by decide) (by decide)).2.1 (by decide)
  exact mean.trans (by decide)

end PipelineAdvisor
