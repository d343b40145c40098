import PipelineAdvisor.Proofs.Finding.StableSort
import PipelineAdvisor.Finding.Summary

/-!
The order of a report. `mayPrecede` is a total preorder, and findings tie if they have the same
priority and the same score, down to its bits.
-/

namespace PipelineAdvisor

theorem Binary64.orderKey_injective {x y : Binary64} (same : x.orderKey = y.orderKey) : x = y := by
  have xBound := x.bits.toNat_lt
  have yBound := y.bits.toNat_lt
  have half : signBit = 9223372036854775808 := rfl
  simp only [orderKey, negative, magnitudeBits, half, decide_eq_true_eq] at same
  have bits : x.bits.toNat = y.bits.toNat := by
    split at same <;> split at same <;> omega
  cases x
  cases y
  simpa using UInt64.toNat_inj.mp bits

theorem Priority.rank_injective {first second : Priority} (same : first.rank = second.rank) :
    first = second := by
  revert same
  cases first <;> cases second <;> simp [rank]

namespace Finding

open StableSort

theorem mayPrecede_iff (first second : Finding) :
    mayPrecede first second = true ↔ first.priority.rank < second.priority.rank ∨
      (first.priority.rank = second.priority.rank ∧
        second.score.orderKey ≤ first.score.orderKey) := by
  simp [mayPrecede]

theorem mayPrecede_preorder : TotalPreorder mayPrecede where
  trans := by
    intro first second third before after
    rw [mayPrecede_iff] at before after ⊢
    omega
  total := by
    intro first second
    rw [Bool.or_eq_true, mayPrecede_iff, mayPrecede_iff]
    omega

theorem tied_iff (first second : Finding) :
    tied mayPrecede first second = true ↔
      first.priority = second.priority ∧ first.score = second.score := by
  rw [tied, Bool.and_eq_true, mayPrecede_iff, mayPrecede_iff]
  constructor
  · intro both
    exact ⟨Priority.rank_injective (by omega), Binary64.orderKey_injective (by omega)⟩
  · rintro ⟨priorities, scores⟩
    rw [priorities, scores]
    omega

theorem ranked_congr {left right : List Finding} (same : SameTies mayPrecede left right) :
    ranked left = ranked right :=
  mergeSort_congr mayPrecede_preorder same

theorem ranked_filter (keep : Finding → Bool) (findings : List Finding) :
    ranked (findings.filter keep) = (ranked findings).filter keep :=
  mergeSort_filter mayPrecede_preorder keep findings

theorem ranked_of_pairwise {findings : List Finding}
    (ordered : findings.Pairwise fun first second => mayPrecede first second) :
    ranked findings = findings :=
  List.mergeSort_of_pairwise ordered

end Finding

end PipelineAdvisor
