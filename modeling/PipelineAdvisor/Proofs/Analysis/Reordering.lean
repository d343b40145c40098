import PipelineAdvisor.Proofs.Analysis.Isolation
import PipelineAdvisor.Proofs.Finding.Totals

/-!
The order of analyzers. It decides in which order findings of equal priority and score are listed, and
in which order faults are; everything else in a result is the same for every order.
-/

namespace PipelineAdvisor.Analysis

theorem run_eq_resultOf (analyzers : List Analyzer) (parallel : Bool) (config : Config) :
    run analyzers parallel config = resultOf (outcomes analyzers config) :=
  (runBy_eq_run analyzers .sequential parallel config).symm

theorem findingsOf_of_perm {outcomes permuted : List Outcome} (reordered : outcomes.Perm permuted) :
    (findingsOf outcomes).Perm (findingsOf permuted) :=
  reordered.flatMap_right _

theorem faultsOf_of_perm {outcomes permuted : List Outcome} (reordered : outcomes.Perm permuted) :
    (faultsOf outcomes).Perm (faultsOf permuted) :=
  reordered.filterMap _

/-- Runs of the same analyzers in two orders have the same total, counts and savings, the same
findings in some order with the same priorities and scores place by place, and the same faults in some
order. The mean of cost percentages is exact for fewer than `2 ^ 21` percentages of 32 bits. -/
theorem run_of_perm {analyzers permuted : List Analyzer} (reordered : analyzers.Perm permuted)
    (parallel otherParallel : Bool) (config : Config) :
    let result := run analyzers parallel config
    let other := run permuted otherParallel config
    other.total = result.total ∧ other.counts = result.counts ∧
      other.savings.minutes = result.savings.minutes ∧
      ((result.findings.filterMap Finding.costPercent?).length < 2 ^ 21 →
        (∀ percent ∈ result.findings.filterMap Finding.costPercent?, percent < 2 ^ 32) →
        other.savings = result.savings) ∧
      result.findings.Perm other.findings ∧
      other.findings.map (fun finding => (finding.priority, finding.score)) =
        result.findings.map (fun finding => (finding.priority, finding.score)) ∧
      result.faults.Perm other.faults := by
  intro result other
  have outcomes := reordered.map (·.outcome config)
  have emitted := findingsOf_of_perm outcomes
  have own : result = resultOf (Analysis.outcomes analyzers config) :=
    run_eq_resultOf analyzers parallel config
  have others : other = resultOf (Analysis.outcomes permuted config) :=
    run_eq_resultOf permuted otherParallel config
  have findings : result.findings.Perm other.findings := by
    rw [own, others]
    exact ((List.mergeSort_perm _ _).trans emitted).trans (List.mergeSort_perm _ _).symm
  have summed : result = summarize result.findings result.faults := by rw [own]; rfl
  have otherSummed : other = summarize other.findings other.faults := by rw [others]; rfl
  refine ⟨?_, ?_, ?_, ?_, findings, ?_, ?_⟩
  · rw [summed, otherSummed]
    exact findings.length_eq.symm
  · rw [summed, otherSummed]
    exact PriorityCounts.ofFindings_of_perm findings
  · rw [summed, otherSummed]
    exact totalSavings_minutes_of_perm findings
  · intro few bounded
    rw [summed, otherSummed]
    exact totalSavings_of_perm findings few bounded
  · rw [own, others]
    exact Finding.ranked_keys_of_perm emitted
  · rw [own, others]
    exact faultsOf_of_perm outcomes

def graded (name : String) (score : Binary64) (percent : Nat) : Analyzer :=
  Analyzer.total name fun _ =>
    [{ Finding.start .practice "graded" name .low score name with
      savings? := some (Savings.cost percent) }]

def failing : Analyzer where
  name := "failing"
  inspect _ := .error none

theorem run_of_perm_tiedNaNs :
    let front := [graded "first" (.nan true) 88, failing]
    let back := [graded "second" (.nan true) 51]
    let config : Config := ⟨[], [], []⟩
    let result := run (front ++ back) false config
    let other := run (back ++ front) true config
    (front ++ back).Perm (back ++ front) ∧
      result.findings.map (·.title) = ["first", "second"] ∧
      other.findings.map (·.title) = ["second", "first"] ∧
      other.savings = result.savings ∧ result.savings.costPercent = 70 ∧
      other.findings.map (fun finding => (finding.priority, finding.score)) =
        result.findings.map (fun finding => (finding.priority, finding.score)) := by
  intro front back config result other
  have swapped : (front ++ back).Perm (back ++ front) := List.perm_append_comm
  have listed : result.findings = findingsOf (outcomes (front ++ back) config) :=
    Finding.ranked_of_pairwise (by decide +kernel)
  have otherListed : other.findings = findingsOf (outcomes (back ++ front) config) :=
    Finding.ranked_of_pairwise (by decide +kernel)
  have summed : result.savings = totalSavings result.findings := rfl
  obtain ⟨_, _, _, savings, _, keys, _⟩ := run_of_perm swapped false true config
  refine ⟨swapped, ?_, ?_, savings ?_ ?_, ?_, keys⟩
  · rw [listed]
    decide +kernel
  · rw [otherListed]
    decide +kernel
  · change (result.findings.filterMap Finding.costPercent?).length < 2 ^ 21
    rw [listed]
    decide +kernel
  · change ∀ percent ∈ result.findings.filterMap Finding.costPercent?, percent < 2 ^ 32
    rw [listed]
    decide +kernel
  · rw [summed, listed]
    decide +kernel

end PipelineAdvisor.Analysis
