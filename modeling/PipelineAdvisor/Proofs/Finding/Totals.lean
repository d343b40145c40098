import Mathlib.Algebra.Order.BigOperators.Group.List
import PipelineAdvisor.Proofs.Finding.Ranking
import PipelineAdvisor.Proofs.Number.Quotients
import PipelineAdvisor.Proofs.Number.WholeNumbers

/-!
What totals depend on. Counts and sums are the same for every order of the findings; a mean of
percentages is exact in double precision as long as there are fewer than `2 ^ 21` of them; and ranking
puts the same priorities and scores into the same places. Only priorities and promised savings are
looked at.
-/

namespace PipelineAdvisor

theorem doubleSum_from {total : Nat} {values : List Nat} (small : total + values.sum < 2 ^ 53) :
    values.foldl (fun total value => total.add (.ofNat value)) (Binary64.ofNat total) =
      .ofNat (total + values.sum) := by
  induction values generalizing total with
  | nil => rfl
  | cons value rest ih =>
      rw [List.sum_cons] at small
      have first : total + value < 2 ^ 53 := by omega
      have later : total + value + rest.sum < 2 ^ 53 := by omega
      rw [List.foldl_cons, Binary64.ofNat_add first, ih later, List.sum_cons, Nat.add_assoc]

/-- Below `2 ^ 53` no addition rounds. -/
theorem doubleSum_eq {values : List Nat} (small : values.sum < 2 ^ 53) :
    doubleSum values = .ofNat values.sum := by
  have exact := @doubleSum_from 0 values (by omega)
  rwa [Nat.zero_add] at exact

theorem saturatedSum_eq (values : List Nat) :
    saturatedSum values = min largestCount values.sum := by
  have from_total : ∀ total, values.foldl (fun total value => min largestCount (total + value))
      (min largestCount total) = min largestCount (total + values.sum) := by
    induction values with
    | nil => intro total; rfl
    | cons value rest ih =>
        intro total
        have next : min largestCount (min largestCount total + value) =
            min largestCount (total + value) := by omega
        rw [List.foldl_cons, next, ih, List.sum_cons, Nat.add_assoc]
  have whole := from_total 0
  rwa [Nat.min_zero, Nat.zero_add] at whole

section Percents

variable {percents : List Nat}

theorem sum_percents_lt {bound : Nat} (filled : percents ≠ [])
    (bounded : ∀ percent ∈ percents, percent < bound) :
    percents.sum < bound * percents.length := by
  have atMost : percents.sum ≤ percents.length * (bound - 1) := by
    apply List.sum_le_card_nsmul
    intro percent known
    have small := bounded percent known
    omega
  obtain ⟨first, known⟩ := List.exists_mem_of_ne_nil percents filled
  have positive : 0 < bound := Nat.zero_lt_of_lt (bounded first known)
  have product : percents.length * (bound - 1) < percents.length * bound :=
    Nat.mul_lt_mul_of_pos_left (by omega) (List.length_pos_iff.mpr filled)
  rw [Nat.mul_comm bound]
  omega

/-- Neither the sum nor the quotient is rounded across a half, so the mean is exact. -/
theorem meanPercent_eq (bits : Nat) (bitsFit : bits ≤ 53) (few : percents.length < 2 ^ bits)
    (bounded : ∀ percent ∈ percents, percent < 2 ^ (53 - bits)) : meanPercent percents =
      min 100 ((2 * percents.sum + percents.length) / (2 * percents.length)) := by
  by_cases empty : percents = []
  · subst empty
    rfl
  have positive : 0 < percents.length := List.length_pos_iff.mpr empty
  have below := sum_percents_lt empty bounded
  have small : percents.sum < 2 ^ 53 := by
    calc percents.sum
        < 2 ^ (53 - bits) * percents.length := below
      _ ≤ 2 ^ (53 - bits) * 2 ^ bits := Nat.mul_le_mul_left _ (Nat.le_of_lt few)
      _ = 2 ^ 53 := by rw [← Nat.pow_add, Nat.sub_add_cancel bitsFit]
  have count : percents.length < 2 ^ 53 :=
    Nat.lt_of_lt_of_le few (Nat.pow_le_pow_right (by decide) bitsFit)
  rw [meanPercent, if_neg (by simpa using empty), doubleSum_eq small,
    Binary64.ofNat_div small count positive,
    Binary64.ofFraction_roundHalfUp positive few bitsFit below]

theorem meanPercent_of_perm {permuted : List Nat} (same : percents.Perm permuted)
    (few : percents.length < 2 ^ 21) (bounded : ∀ percent ∈ percents, percent < 2 ^ 32) :
    meanPercent permuted = meanPercent percents := by
  have permutedFew : permuted.length < 2 ^ 21 := by
    rw [← same.length_eq]
    exact few
  have permutedBounded : ∀ percent ∈ permuted, percent < 2 ^ 32 := fun percent known =>
    bounded percent (same.mem_iff.mpr known)
  rw [meanPercent_eq 21 (by decide) few bounded,
    meanPercent_eq 21 (by decide) permutedFew permutedBounded, same.sum_nat, same.length_eq]

end Percents

theorem PriorityCounts.ofFindings_of_perm {findings permuted : List Finding}
    (same : findings.Perm permuted) : ofFindings permuted = ofFindings findings := by
  rw [ofFindings, ofFindings, same.countP_eq, same.countP_eq, same.countP_eq]

theorem totalSavings_minutes_of_perm {findings permuted : List Finding}
    (same : findings.Perm permuted) :
    (totalSavings permuted).minutes = (totalSavings findings).minutes := by
  have times := (same.filterMap Finding.time?).filterMap leadingInteger?
  simp only [totalSavings, saturatedSum_eq, times.sum_nat]

theorem totalSavings_of_perm {findings permuted : List Finding} (same : findings.Perm permuted)
    (few : (findings.filterMap Finding.costPercent?).length < 2 ^ 21)
    (bounded : ∀ percent ∈ findings.filterMap Finding.costPercent?, percent < 2 ^ 32) :
    totalSavings permuted = totalSavings findings := by
  have percents := same.filterMap Finding.costPercent?
  have minutes := totalSavings_minutes_of_perm same
  have costs : (totalSavings permuted).costPercent = (totalSavings findings).costPercent :=
    meanPercent_of_perm percents few bounded
  calc totalSavings permuted
      = ⟨(totalSavings permuted).costPercent, (totalSavings permuted).minutes⟩ := rfl
    _ = ⟨(totalSavings findings).costPercent, (totalSavings findings).minutes⟩ := by
        rw [costs, minutes]

theorem summarize_of_map {findings others : List Finding}
    (priorities : others.map (·.priority) = findings.map (·.priority))
    (savings : others.map (·.savings?) = findings.map (·.savings?)) :
    (summarize others []).total = (summarize findings []).total ∧
      (summarize others []).counts = (summarize findings []).counts ∧
      (summarize others []).savings = (summarize findings []).savings := by
  have counted : ∀ list : List Finding, PriorityCounts.ofFindings list =
      ⟨(list.map (·.priority)).count .high, (list.map (·.priority)).count .medium,
        (list.map (·.priority)).count .low⟩ := by
    intro list
    simp only [PriorityCounts.ofFindings, List.count, List.countP_map]
    rfl
  have promised : ∀ {α : Type} (read : Savings → Option α),
      (others.filterMap fun finding => finding.savings?.bind read) =
        findings.filterMap fun finding => finding.savings?.bind read := by
    intro α read
    have seen : ∀ list : List Finding, (list.filterMap fun finding => finding.savings?.bind read) =
        (list.map (·.savings?)).filterMap fun promise => promise.bind read := by
      intro list
      rw [List.filterMap_map]
      rfl
    rw [seen, savings, ← seen]
  have costs : others.filterMap Finding.costPercent? = findings.filterMap Finding.costPercent? :=
    promised Savings.costPercent
  have times : others.filterMap Finding.time? = findings.filterMap Finding.time? :=
    promised Savings.time
  refine ⟨?_, ?_, ?_⟩
  · have lengths := congrArg List.length priorities
    rwa [List.length_map, List.length_map] at lengths
  · exact (counted others).trans (priorities ▸ (counted findings).symm)
  · simp only [summarize, totalSavings, costs, times]

/-! Findings of low priority that promise nothing can be left out of sums. -/

section Sums

variable {findings : List Finding} {drops : Finding → Bool}
  (low : ∀ finding ∈ findings, drops finding = true →
    finding.priority = .low ∧ finding.savings? = none)
include low

theorem countP_priority_of_kept {priority : Priority} (kept : priority ≠ .low) :
    ((findings.filter fun finding => !drops finding).countP
        fun finding => finding.priority == priority) =
      findings.countP fun finding => finding.priority == priority := by
  rw [List.countP_filter]
  apply List.countP_congr
  intro finding known
  cases dropped : drops finding with
  | false => simp
  | true => simp [(low finding known dropped).1, Ne.symm kept]

theorem countP_low_of_dropped :
    ((findings.filter fun finding => !drops finding).countP
        fun finding => finding.priority == .low) + (findings.filter drops).length =
      findings.countP fun finding => finding.priority == .low := by
  have droppedLow : ((findings.filter drops).countP fun finding => finding.priority == .low) =
      (findings.filter drops).length := by
    rw [List.countP_eq_length]
    intro finding known
    obtain ⟨known, dropped⟩ := List.mem_filter.mp known
    simp [(low finding known dropped).1]
  have parted := List.countP_eq_countP_filter_add findings
    (fun finding => finding.priority == .low) drops
  omega

theorem totalSavings_of_dropped :
    totalSavings (findings.filter fun finding => !drops finding) = totalSavings findings := by
  have unread : ∀ {α : Type} (read : Finding → Option α),
      (∀ finding, finding.savings? = none → read finding = none) →
      (findings.filter fun finding => !drops finding).filterMap read = findings.filterMap read := by
    intro α read none
    rw [List.filterMap_filter]
    apply List.filterMap_congr
    intro finding known
    cases dropped : drops finding with
    | false => rfl
    | true => simp [none finding (low finding known dropped).2]
  rw [totalSavings, totalSavings,
    unread Finding.costPercent? fun finding none => by simp [Finding.costPercent?, none],
    unread Finding.time? fun finding none => by simp [Finding.time?, none]]

end Sums

namespace Finding

def rankKey (finding : Finding) : Priority × Binary64 :=
  (finding.priority, finding.score)

def KeyMayPrecede (first second : Priority × Binary64) : Prop :=
  first.1.rank < second.1.rank ∨
    (first.1.rank = second.1.rank ∧ second.2.orderKey ≤ first.2.orderKey)

theorem keyMayPrecede_antisymm {first second : Priority × Binary64}
    (before : KeyMayPrecede first second) (after : KeyMayPrecede second first) :
    first = second := by
  unfold KeyMayPrecede at before after
  have ranks : first.1.rank = second.1.rank := by omega
  have orders : first.2.orderKey = second.2.orderKey := by omega
  exact Prod.ext (Priority.rank_injective ranks) (Binary64.orderKey_injective orders)

theorem ranked_keys_sorted (findings : List Finding) :
    ((ranked findings).map rankKey).Pairwise KeyMayPrecede := by
  rw [List.pairwise_map]
  refine (StableSort.mergeSort_sorted mayPrecede_preorder findings).imp ?_
  intro first second before
  exact (mayPrecede_iff first second).mp before

theorem ranked_keys_of_perm {findings permuted : List Finding} (same : findings.Perm permuted) :
    (ranked permuted).map rankKey = (ranked findings).map rankKey := by
  have reordered : (ranked permuted).Perm (ranked findings) :=
    ((List.mergeSort_perm permuted mayPrecede).trans same.symm).trans
      (List.mergeSort_perm findings mayPrecede).symm
  apply List.Perm.eq_of_pairwise _ (ranked_keys_sorted permuted) (ranked_keys_sorted findings)
    (reordered.map rankKey)
  intro first second _ _ before after
  exact keyMayPrecede_antisymm before after

end Finding

end PipelineAdvisor
