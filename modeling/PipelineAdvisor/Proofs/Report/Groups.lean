import PipelineAdvisor.Report.Listing
import PipelineAdvisor.Proofs.Finding.Ranking

/-!
The groups of a report. Counts, groups and the threshold look at one list of findings in three ways
that agree: a group is listed just if its count is not zero and its priority meets the threshold, and
it holds that many findings. A ranked list is its groups, one behind the other.
-/

namespace PipelineAdvisor

theorem Priority.isListed_iff {threshold : Option Priority} {priority : Priority} :
    Priority.isListed threshold priority = true ↔
      ∀ bound ∈ threshold, priority.rank ≤ bound.rank := by
  cases threshold with
  | none => simp [isListed]
  | some bound => simp [isListed, meets]

namespace PriorityCounts

theorem get_ofFindings (findings : List Finding) (priority : Priority) :
    (ofFindings findings).get priority =
      findings.countP fun finding => finding.priority == priority := by
  cases priority <;> rfl

theorem ofFindings_sum (findings : List Finding) :
    (ofFindings findings).high + (ofFindings findings).medium + (ofFindings findings).low =
      findings.length := by
  induction findings with
  | nil => rfl
  | cons first rest ih =>
      simp only [ofFindings, List.countP_cons, List.length_cons] at ih ⊢
      cases first.priority <;> simp <;> omega

end PriorityCounts

theorem flatMap_priorities_of_sorted {findings : List Finding}
    (sorted : findings.Pairwise fun first second => first.priority.rank ≤ second.priority.rank) :
    Priority.all.flatMap (fun priority => findings.filter fun finding =>
      finding.priority == priority) = findings := by
  induction findings with
  | nil => rfl
  | cons first rest ih =>
      obtain ⟨least, sorted⟩ := List.pairwise_cons.mp sorted
      have parts := ih sorted
      -- No finding of the rest belongs to a group in front of that of the first finding.
      have none : ∀ priority : Priority, priority.rank < first.priority.rank →
          rest.filter (fun finding => finding.priority == priority) = [] := by
        intro priority before
        rw [List.filter_eq_nil_iff]
        intro finding known same
        have behind := least finding known
        rw [beq_iff_eq.mp same] at behind
        omega
      simp only [Priority.all, List.flatMap_cons, List.flatMap_nil, List.append_nil] at parts ⊢
      cases here : first.priority with
      | high => simpa [here] using parts
      | medium =>
          have noHigh := none .high (by simp [here, Priority.rank])
          simp only [noHigh, List.nil_append] at parts
          simpa [here, noHigh] using parts
      | low =>
          have noHigh := none .high (by simp [here, Priority.rank])
          have noMedium := none .medium (by simp [here, Priority.rank])
          simp only [noHigh, noMedium, List.nil_append] at parts
          simpa [here, noHigh, noMedium] using parts

namespace AnalysisResult

variable (result : AnalysisResult) (threshold : Option Priority)

theorem groups_eq : result.groups threshold =
    (Priority.all.filter fun priority =>
      Priority.isListed threshold priority && !(result.ofPriority priority).isEmpty).map
        fun priority => (priority, result.ofPriority priority) := by
  rw [groups, List.filter_map, List.filter_filter]
  congr 1
  apply List.filter_congr
  intro priority _
  exact Bool.and_comm _ _

theorem mem_groups {priority : Priority} {findings : List Finding}
    (known : (priority, findings) ∈ result.groups threshold) :
    findings = result.findings.filter fun finding => finding.priority == priority := by
  rw [groups_eq, List.mem_map] at known
  obtain ⟨_, _, same⟩ := known
  obtain ⟨rfl, rfl⟩ := Prod.mk.inj same
  rfl

theorem flatMap_listed (keep : Priority → Bool) (content : Priority → List Finding)
    (priorities : List Priority) :
    (((priorities.filter keep).map fun priority => (priority, content priority)).filter
        fun group => !group.2.isEmpty).flatMap Prod.snd =
      priorities.flatMap fun priority => if keep priority then content priority else [] := by
  induction priorities with
  | nil => rfl
  | cons first rest ih =>
      rw [List.flatMap_cons, ← ih, List.filter_cons]
      cases keep first with
      | false => rfl
      | true =>
          rw [if_pos rfl, if_pos rfl, List.map_cons, List.filter_cons]
          cases content first with
          | nil => rfl
          | cons finding others => rfl

theorem groups_flatMap_of_sorted (sorted : result.findings.Pairwise
      fun first second => first.priority.rank ≤ second.priority.rank) :
    (result.groups threshold).flatMap Prod.snd =
      result.findings.filter fun finding => Priority.isListed threshold finding.priority := by
  have group : ∀ priority : Priority, (result.ofPriority priority).filter
        (fun finding => Priority.isListed threshold finding.priority) =
      if Priority.isListed threshold priority then result.ofPriority priority else [] := by
    intro priority
    have same : ∀ finding ∈ result.ofPriority priority, finding.priority = priority := by
      intro finding known
      exact beq_iff_eq.mp (List.mem_filter.mp known).2
    split
    next listed =>
      rw [List.filter_eq_self]
      intro finding known
      rwa [same finding known]
    next hidden =>
      rw [List.filter_eq_nil_iff]
      intro finding known
      rwa [same finding known]
  calc (result.groups threshold).flatMap Prod.snd
      = Priority.all.flatMap fun priority =>
          if Priority.isListed threshold priority then result.ofPriority priority else [] :=
        flatMap_listed _ _ _
    _ = (Priority.all.flatMap result.ofPriority).filter
          fun finding => Priority.isListed threshold finding.priority := by
        rw [List.filter_flatMap]
        simp only [group]
    _ = result.findings.filter fun finding => Priority.isListed threshold finding.priority :=
        congrArg _ (flatMap_priorities_of_sorted sorted)

/-- The counts of a summary are the sizes of its groups: a priority has a group just if it meets the
threshold and is counted, the groups stand in the order of urgency, and each holds the findings of
its priority in their order. The groups of a ranked list are that list without the findings below
the threshold. -/
theorem summarize_groups (findings : List Finding) (faults : List Fault)
    (threshold : Option Priority) :
    let result := summarize findings faults
    let ranked := summarize (Finding.ranked findings) faults
    let ofPriority priority := findings.filter fun finding => finding.priority == priority
    result.total = findings.length ∧
      result.total = result.counts.high + result.counts.medium + result.counts.low ∧
      (∀ priority, result.counts.get priority = (ofPriority priority).length) ∧
      result.groups threshold = (([.high, .medium, .low] : List Priority).filter fun priority =>
        (∀ bound ∈ threshold, priority.rank ≤ bound.rank) ∧ result.counts.get priority ≠ 0).map
          (fun priority => (priority, ofPriority priority)) ∧
      (ranked.groups threshold).flatMap Prod.snd = ranked.findings.filter
        fun finding => ∀ bound ∈ threshold, finding.priority.rank ≤ bound.rank := by
  intro result ranked ofPriority
  have counted : ∀ priority, result.counts.get priority = (ofPriority priority).length := by
    intro priority
    rw [← List.countP_eq_length_filter]
    exact PriorityCounts.get_ofFindings findings priority
  refine ⟨rfl, (PriorityCounts.ofFindings_sum findings).symm, counted, ?_, ?_⟩
  · rw [groups_eq]
    congr 1
    apply List.filter_congr
    intro priority _
    rw [Bool.eq_iff_iff, Bool.and_eq_true, Priority.isListed_iff, decide_eq_true_eq, counted]
    simp [result, ofPriority, AnalysisResult.ofPriority, summarize]
  · have sorted : ranked.findings.Pairwise
        fun first second => first.priority.rank ≤ second.priority.rank := by
      refine (StableSort.mergeSort_sorted Finding.mayPrecede_preorder findings).imp ?_
      intro first second before
      have either := (Finding.mayPrecede_iff first second).mp before
      omega
    rw [groups_flatMap_of_sorted ranked threshold sorted]
    apply List.filter_congr
    intro finding _
    rw [Bool.eq_iff_iff, Priority.isListed_iff, decide_eq_true_eq]

end AnalysisResult

end PipelineAdvisor
