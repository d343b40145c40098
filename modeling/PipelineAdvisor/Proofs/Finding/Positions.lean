import PipelineAdvisor.Proofs.Finding.Ranking

/-!
Where the findings of a report come from. Numbering the elements of a list makes them distinct, and a
stable sort puts the numbered elements into the only order in which an earlier one is smaller, or ties
and has the smaller number.
-/

namespace PipelineAdvisor

namespace StableSort

variable {α : Type} {le : α → α → Bool}

/-- Whether a numbered element is smaller than another one, or ties with it and has a smaller number. -/
def Precedes (le : α → α → Bool) (first second : α × Nat) : Prop :=
  le first.1 second.1 = true ∧ (le second.1 first.1 = true → first.2 < second.2)

theorem not_precedes_of_precedes {first second : α × Nat} (before : Precedes le first second) :
    ¬Precedes le second first := by
  intro after
  have forward := before.2 after.1
  have backward := after.2 before.1
  omega

theorem zipIdx_numbers_distinct (list : List α) :
    list.zipIdx.Pairwise fun first second => first.2 ≠ second.2 := by
  have numbers : (list.zipIdx.map Prod.snd).Nodup := by
    rw [List.zipIdx_map_snd]
    exact List.nodup_range'
  exact List.pairwise_map.mp numbers

theorem mergeSort_numbered (order : TotalPreorder le) (list : List α) :
    ∃ numbered : List (α × Nat), numbered.Perm list.zipIdx ∧
      numbered.map Prod.fst = list.mergeSort le ∧ numbered.Pairwise (Precedes le) := by
  let numbered := list.zipIdx.mergeSort (List.zipIdxLE le)
  have reordered : numbered.Perm list.zipIdx := List.mergeSort_perm _ _
  refine ⟨numbered, reordered, List.mergeSort_zipIdx, ?_⟩
  have sorted : numbered.Pairwise fun first second => List.zipIdxLE le first second = true :=
    List.pairwise_mergeSort (List.zipIdxLE_trans order.trans) (List.zipIdxLE_total order.total) _
  have distinct : numbered.Pairwise fun first second => first.2 ≠ second.2 :=
    (reordered.pairwise_iff fun differ => differ.symm).mpr (zipIdx_numbers_distinct list)
  refine (sorted.and distinct).imp ?_
  rintro first second ⟨before, differ⟩
  by_cases forward : le first.1 second.1 = true
  · refine ⟨forward, ?_⟩
    intro backward
    simp only [List.zipIdxLE, forward, backward, if_true, decide_eq_true_eq] at before
    omega
  · simp [List.zipIdxLE, forward] at before

theorem eq_mergeSort_iff_numbered (order : TotalPreorder le) (list sorted : List α) :
    sorted = list.mergeSort le ↔
      ∃ numbered : List (α × Nat), numbered.Perm list.zipIdx ∧ numbered.map Prod.fst = sorted ∧
        numbered.Pairwise (Precedes le) := by
  obtain ⟨expected, expectedPerm, expectedMap, expectedSorted⟩ := mergeSort_numbered order list
  constructor
  · rintro rfl
    exact ⟨expected, expectedPerm, expectedMap, expectedSorted⟩
  · rintro ⟨numbered, reordered, same, pairs⟩
    have equal : numbered = expected := by
      apply List.Perm.eq_of_pairwise _ pairs expectedSorted (reordered.trans expectedPerm.symm)
      intro first second _ _ before after
      exact absurd after (not_precedes_of_precedes before)
    rw [← same, equal, expectedMap]

end StableSort

namespace Finding

open StableSort

theorem precedes_iff (first second : Finding × Nat) :
    Precedes mayPrecede first second ↔
      first.1.priority.rank < second.1.priority.rank ∨
        (first.1.priority.rank = second.1.priority.rank ∧
          second.1.score.orderKey < first.1.score.orderKey) ∨
        (first.1.priority = second.1.priority ∧ first.1.score = second.1.score ∧
          first.2 < second.2) := by
  rw [Precedes, mayPrecede_iff, mayPrecede_iff]
  constructor
  · rintro ⟨forward, numbers⟩
    by_cases ranks : first.1.priority.rank = second.1.priority.rank
    · by_cases scores : first.1.score.orderKey = second.1.score.orderKey
      · have smaller : first.2 < second.2 := numbers (by omega)
        exact Or.inr (Or.inr ⟨Priority.rank_injective ranks,
          Binary64.orderKey_injective scores, smaller⟩)
      · exact Or.inr (Or.inl ⟨ranks, by omega⟩)
    · exact Or.inl (by omega)
  · rintro (urgent | ⟨ranks, greater⟩ | ⟨priorities, scores, smaller⟩)
    · constructor <;> omega
    · constructor <;> omega
    · rw [priorities, scores]
      exact ⟨by omega, fun _ => smaller⟩

/-- The report of a list is the one list that holds its findings, each once, so that of any two the
first is more urgent, or as urgent with a greater score in the total order of doubles, or has the same
priority and score and stands first in the given list too. Ranking it again changes nothing. -/
theorem eq_ranked_iff_numbered (findings sorted : List Finding) :
    (sorted = ranked findings ↔
      ∃ numbered : List (Finding × Nat), numbered.Perm findings.zipIdx ∧
        numbered.map Prod.fst = sorted ∧
        numbered.Pairwise fun first second =>
          first.1.priority.rank < second.1.priority.rank ∨
            (first.1.priority.rank = second.1.priority.rank ∧
              second.1.score.orderKey < first.1.score.orderKey) ∨
            (first.1.priority = second.1.priority ∧ first.1.score = second.1.score ∧
              first.2 < second.2)) ∧
      ranked (ranked findings) = ranked findings := by
  constructor
  · simp only [ranked, eq_mergeSort_iff_numbered mayPrecede_preorder, ← precedes_iff]
  · exact ranked_of_pairwise (mergeSort_sorted mayPrecede_preorder findings)

end Finding

end PipelineAdvisor
