import PipelineAdvisor.Proofs.Finding.Ranking
import PipelineAdvisor.Proofs.Rules.Emission
import Mathlib.Data.List.Flatten

/-!
The order of the findings of a report. All findings of a check stand together, the checks follow each
other in a fixed order, and only the oversized executors are sorted among themselves. Where two
checks score the same, the order of the analyzers decides which block comes first.
-/

namespace PipelineAdvisor

open StableSort

def Finding.savedPercent (finding : Finding) : Nat :=
  finding.costPercent?.getD 0

def Finding.bySavings (findings : List Finding) : List Finding :=
  findings.mergeSort fun first second => second.savedPercent ≤ first.savedPercent

theorem Finding.savings_preorder :
    TotalPreorder fun first second : Finding =>
      decide (second.savedPercent ≤ first.savedPercent) where
  trans := by
    intro first second third before after
    simp only [decide_eq_true_eq] at before after ⊢
    omega
  total := by
    intro first second
    simp only [Bool.or_eq_true, decide_eq_true_eq]
    omega

namespace Check

def block (check : Check) (config : Config) : List Finding :=
  match check with
  | oversizedTier => Finding.bySavings (oversizedTier.emitted config)
  | check => check.emitted config

def mayTie (check other : Check) : Bool :=
  check.priority == other.priority &&
    (other.lowestScore.orderKey ≤ check.highestScore.orderKey &&
      check.lowestScore.orderKey ≤ other.highestScore.orderKey)

def precedes (check other : Check) : Bool :=
  check.priority.rank < other.priority.rank ||
    (check.priority.rank == other.priority.rank &&
      other.highestScore.orderKey ≤ check.lowestScore.orderKey)

theorem emitted_score {check : Check} {config : Config} {finding : Finding}
    (found : finding ∈ check.emitted config) :
    finding.priority = check.priority ∧
      check.lowestScore.orderKey ≤ finding.score.orderKey ∧
      finding.score.orderKey ≤ check.highestScore.orderKey := by
  obtain ⟨_, form⟩ := exists_form_of_emitted found
  exact ⟨form.priority, form.lowest, form.highest⟩

theorem untied_of_not_mayTie {check other : Check} (never : mayTie check other = false)
    {config : Config} {first second : Finding} (inFirst : first ∈ check.emitted config)
    (inSecond : second ∈ other.emitted config) :
    tied Finding.mayPrecede first second = false := by
  rw [Bool.eq_false_iff]
  intro tie
  rw [Finding.tied_iff] at tie
  obtain ⟨firstPriority, firstLow, firstHigh⟩ := emitted_score inFirst
  obtain ⟨secondPriority, secondLow, secondHigh⟩ := emitted_score inSecond
  have priorities : check.priority = other.priority := by
    rw [← firstPriority, ← secondPriority, tie.1]
  rw [tie.2] at firstLow firstHigh
  simp only [mayTie, priorities, beq_self_eq_true, Bool.true_and, Bool.and_eq_false_iff,
    decide_eq_false_iff_not] at never
  omega

theorem mayPrecede_of_precedes {check other : Check} (before : precedes check other = true)
    {config : Config} {first second : Finding} (inFirst : first ∈ check.emitted config)
    (inSecond : second ∈ other.emitted config) : Finding.mayPrecede first second = true := by
  obtain ⟨firstPriority, firstLow, _⟩ := emitted_score inFirst
  obtain ⟨secondPriority, _, secondHigh⟩ := emitted_score inSecond
  rw [Finding.mayPrecede_iff, firstPriority, secondPriority]
  simp only [precedes, Bool.or_eq_true, Bool.and_eq_true, decide_eq_true_eq, beq_iff_eq] at before
  omega

theorem all_pairwise_precedes : all.Pairwise fun check other => precedes check other = true := by
  decide +kernel

/-- Between the order of the analyzers and that of a report no possible tie changes sides. -/
theorem executionOrder_filter_mayTie (check : Check) :
    executionOrder.filter (mayTie check) = all.filter (mayTie check) := by
  cases check <;> decide +kernel

theorem oversizedTier_orderKey_le : ∀ percent ∈ [50, 75, 88, 94], ∀ other ∈ [50, 75, 88, 94],
    ((Score.oversizedTier other).orderKey ≤ (Score.oversizedTier percent).orderKey ↔
      other ≤ percent) := by
  decide +kernel

theorem oversizedTier_percent {config : Config} {finding : Finding}
    (found : finding ∈ oversizedTier.emitted config) :
    finding.priority = .high ∧ ∃ percent ∈ [50, 75, 88, 94], finding.savedPercent = percent ∧
      finding.score = Score.oversizedTier percent := by
  rw [emitted_of_jobs (fun _ => rfl)] at found
  obtain ⟨job, _, found⟩ := List.mem_flatMap.mp found
  cases foundInJob_of_mem found with
  | oversizedTier found =>
      obtain ⟨_, priority, _, percent, possible, promised, score⟩ :=
        ResourceClass.oversized?_spec found
      refine ⟨priority, percent, possible, ?_, score⟩
      rw [Finding.savedPercent, Finding.costPercent?, promised]
      rfl

theorem ranked_oversizedTier (config : Config) :
    Finding.ranked (oversizedTier.emitted config) =
      Finding.bySavings (oversizedTier.emitted config) := by
  have agree : ∀ first ∈ oversizedTier.emitted config, ∀ second ∈ oversizedTier.emitted config,
      Finding.mayPrecede first second = decide (second.savedPercent ≤ first.savedPercent) := by
    intro first inFirst second inSecond
    obtain ⟨firstPriority, percent, possible, saved, score⟩ := oversizedTier_percent inFirst
    obtain ⟨secondPriority, other, otherPossible, otherSaved, otherScore⟩ :=
      oversizedTier_percent inSecond
    rw [Bool.eq_iff_iff, Finding.mayPrecede_iff, decide_eq_true_eq, firstPriority, secondPriority,
      score, otherScore, saved, otherSaved,
      oversizedTier_orderKey_le percent possible other otherPossible]
    simp
  simpa [Finding.ranked, Finding.bySavings] using List.map_mergeSort (f := id) agree

theorem ranked_emitted {check : Check} (graded : check ≠ oversizedTier) (config : Config) :
    Finding.ranked (check.emitted config) = check.emitted config := by
  apply Finding.ranked_of_pairwise
  apply List.pairwise_of_forall_mem_list
  intro first inFirst second inSecond
  apply mayPrecede_of_precedes _ inFirst inSecond
  have fixed : check.highestScore = check.lowestScore := by
    cases check with
    | oversizedTier => exact absurd rfl graded
    | _ => rfl
  simp [precedes, fixed]

theorem ranked_eq_block (check : Check) (config : Config) :
    Finding.ranked (check.emitted config) = check.block config := by
  by_cases graded : check = oversizedTier
  · subst check
    exact ranked_oversizedTier config
  · rw [ranked_emitted graded]
    cases check with
    | oversizedTier => exact absurd rfl graded
    | _ => rfl

end Check

open Check

theorem analyze_findings (config : Config) :
    (analyze config).findings = Finding.ranked
      (ResourceClass.inspect config ++ DependencyCache.inspect config ++
        Parallelism.inspect config ++ LayerCaching.inspect config ++ OrbReuse.inspect config ++
        ApprovalGate.inspect config ++ HardcodedSecret.inspect config) := by
  simp [analyze, Analysis.run, Analysis.resultOf, Analysis.outcomes, Analysis.findingsOf, summarize,
    Analyzer.builtin, Analyzer.total, Analyzer.outcome, Except.mapError]

theorem interleaved_sameTies {front back : Check} (never : mayTie back front = false)
    (ofFront : ∀ workflow, front.ofWorkflow workflow = [])
    (ofBack : ∀ workflow, back.ofWorkflow workflow = []) (config : Config) :
    SameTies Finding.mayPrecede
      (config.jobs.flatMap fun job => front.ofJob config job ++ back.ofJob config job)
      (front.emitted config ++ back.emitted config) := by
  rw [emitted_of_jobs ofFront, emitted_of_jobs ofBack]
  apply SameTies.flatMap_append Finding.mayPrecede_preorder
  intro job known other otherKnown first inBack second inFront
  apply @untied_of_not_mayTie _ _ never config
  · rw [emitted_of_jobs ofBack]
    exact List.mem_flatMap.mpr ⟨job, known, inBack⟩
  · rw [emitted_of_jobs ofFront]
    exact List.mem_flatMap.mpr ⟨other, otherKnown, inFront⟩

theorem emission_sameTies (config : Config) :
    SameTies Finding.mayPrecede
      (ResourceClass.inspect config ++ DependencyCache.inspect config ++
        Parallelism.inspect config ++ LayerCaching.inspect config ++ OrbReuse.inspect config ++
        ApprovalGate.inspect config ++ HardcodedSecret.inspect config)
      (executionOrder.flatMap fun check => check.emitted config) := by
  -- Only the first two analyzers run two checks on one job; the others emit check by check.
  have sizes : SameTies Finding.mayPrecede (ResourceClass.inspect config)
      (oversizedTier.emitted config ++ unspecifiedTier.emitted config) := by
    rw [ResourceClass.inspect, funext (resourceClass_inspectJob config)]
    exact interleaved_sameTies (by decide +kernel) (fun _ => rfl) (fun _ => rfl) config
  have caches : SameTies Finding.mayPrecede (DependencyCache.inspect config)
      (missingCache.emitted config ++ weakCacheKey.emitted config) := by
    rw [DependencyCache.inspect, funext (dependencyCache_inspectJob config)]
    exact interleaved_sameTies (by decide +kernel) (fun _ => rfl) (fun _ => rfl) config
  have front := (sizes.append caches).append
    (SameTies.refl (Parallelism.inspect config ++ LayerCaching.inspect config ++
      OrbReuse.inspect config ++ ApprovalGate.inspect config ++ HardcodedSecret.inspect config))
  simpa [executionOrder, parallelism_inspect, layerCaching_inspect, orbReuse_inspect,
    approvalGate_inspect, hardcodedSecret_inspect] using front

theorem analyze_findings_eq_ranked (config : Config) : (analyze config).findings =
    Finding.ranked (executionOrder.flatMap fun check => check.emitted config) := by
  rw [analyze_findings, Finding.ranked_congr (emission_sameTies config)]

theorem analyze_findings_eq_blocks (config : Config) :
    (analyze config).findings = Check.all.flatMap fun check => check.block config := by
  have reordered : SameTies Finding.mayPrecede
      (executionOrder.flatMap fun check => check.emitted config)
      (Check.all.flatMap fun check => check.emitted config) :=
    SameTies.flatMap_reorder Finding.mayPrecede_preorder executionOrder Check.all _ mayTie
      (fun _ _ never _ inFirst _ inSecond => untied_of_not_mayTie never inFirst inSecond)
      (fun check _ => executionOrder_filter_mayTie check)
  have ordered := all_pairwise_precedes.imp fun {check other} before =>
    fun first (inFirst : first ∈ check.emitted config) second
      (inSecond : second ∈ other.emitted config) => mayPrecede_of_precedes before inFirst inSecond
  calc (analyze config).findings
      = Finding.ranked (executionOrder.flatMap fun check => check.emitted config) :=
        analyze_findings_eq_ranked config
    _ = Finding.ranked (Check.all.flatMap fun check => check.emitted config) :=
        Finding.ranked_congr reordered
    _ = Check.all.flatMap fun check => Finding.ranked (check.emitted config) :=
        mergeSort_flatMap Finding.mayPrecede_preorder Check.all _ ordered
    _ = Check.all.flatMap fun check => check.block config := by
        simp only [ranked_eq_block]

theorem bySavings_filter (findings : List Finding) (percent : Nat) :
    ((Finding.bySavings findings).filter fun finding => finding.savedPercent == percent) =
      findings.filter fun finding => finding.savedPercent == percent := by
  have same := mergeSort_sameTies Finding.savings_preorder findings
    { (default : Finding) with savings? := some (Savings.cost percent) }
  have tie : tied (fun first second : Finding => decide (second.savedPercent ≤ first.savedPercent))
      { (default : Finding) with savings? := some (Savings.cost percent) } =
        fun finding => finding.savedPercent == percent := by
    funext finding
    rw [Bool.eq_iff_iff]
    simp only [tied, Bool.and_eq_true, decide_eq_true_eq, beq_iff_eq]
    change finding.savedPercent ≤ percent ∧ percent ≤ finding.savedPercent ↔ _
    omega
  rwa [tie] at same

theorem pair_sublist_flatMap {α β : Type} {parts : List β} {content : β → List α} {part other : β}
    (before : [part, other].Sublist parts) {first second : α} (inPart : first ∈ content part)
    (inOther : second ∈ content other) : [first, second].Sublist (parts.flatMap content) := by
  have both : [first, second].Sublist (content part ++ content other) :=
    (List.singleton_sublist.mpr inPart).append (List.singleton_sublist.mpr inOther)
  exact both.trans (by simpa using before.flatMap content)

theorem mem_block {check : Check} {config : Config} {finding : Finding} :
    finding ∈ check.block config ↔ finding ∈ check.emitted config := by
  cases check with
  | oversizedTier => simp [block, Finding.bySavings]
  | _ => rfl

theorem block_form {config : Config} {check : Check} {finding : Finding}
    (found : finding ∈ check.block config) : finding.priority = check.priority ∧
      ∃ name ∈ check.names, ∃ subject,
        subject ∈ config.jobs.map (·.name) ++ config.workflows.map (·.name) ∧
          finding.id = Finding.idOf check.category name subject := by
  rcases emitted_form (mem_block.mp found) with ⟨job, known, form⟩ | ⟨workflow, known, form⟩
  · obtain ⟨name, named, id⟩ := form.id
    exact ⟨form.priority, name, named, job.name,
      List.mem_append_left _ (List.mem_map_of_mem known), id⟩
  · obtain ⟨name, named, id⟩ := form.id
    exact ⟨form.priority, name, named, workflow.name,
      List.mem_append_right _ (List.mem_map_of_mem known), id⟩

theorem score_of_fixed {check : Check} (fixed : check.highestScore = check.lowestScore)
    {config : Config} {finding : Finding} (found : finding ∈ check.emitted config) :
    finding.score = check.lowestScore := by
  obtain ⟨_, low, high⟩ := emitted_score found
  rw [fixed] at high
  exact Binary64.orderKey_injective (by omega)

/-- The list holds the findings of a configuration check by check. -/
structure InBlocks (config : Config) (findings : List Finding) : Prop where
  blocks : findings = Check.all.flatMap fun check => check.block config
  /-- The findings of a block have the priority of the check and an id made from it. -/
  form : ∀ (check : Check), ∀ finding ∈ check.block config, finding.priority = check.priority ∧
    ∃ name ∈ check.names, ∃ subject,
      subject ∈ config.jobs.map (·.name) ++ config.workflows.map (·.name) ∧
        finding.id = Finding.idOf check.category name subject
  savingsFall : (oversizedTier.block config).Pairwise fun first second =>
    second.savedPercent ≤ first.savedPercent
  /-- Oversized executors that save the same stand in the order of their jobs. -/
  savingsStable : ∀ percent,
    ((oversizedTier.block config).filter fun finding => finding.savedPercent == percent) =
      (oversizedTier.emitted config).filter fun finding => finding.savedPercent == percent
  /-- Also an oversized executor that scores like a secret stands before it. -/
  oversizedFirst : ∀ large ∈ oversizedTier.block config,
    ∀ secret ∈ hardcodedSecret.block config, [large, secret].Sublist findings ∧
      (large.savedPercent = 50 → large.score = secret.score)
  /-- Undeclared sizes stand before missing approvals, which score the same. -/
  unspecifiedFirst : ∀ undeclared ∈ unspecifiedTier.block config,
    ∀ approval ∈ missingApproval.block config, [undeclared, approval].Sublist findings ∧
      undeclared.score = approval.score

theorem analyze_inBlocks (config : Config) : InBlocks config (analyze config).findings where
  blocks := analyze_findings_eq_blocks config
  form := fun _ _ found => block_form found
  savingsFall := by
    simpa [block, Finding.bySavings] using
      mergeSort_sorted Finding.savings_preorder (oversizedTier.emitted config)
  savingsStable := fun percent => bySavings_filter _ percent
  oversizedFirst := by
    intro large inLarge secret inSecret
    rw [analyze_findings_eq_blocks]
    refine ⟨pair_sublist_flatMap (by decide) inLarge inSecret, ?_⟩
    intro half
    obtain ⟨_, percent, _, saved, score⟩ := oversizedTier_percent (mem_block.mp inLarge)
    rw [score_of_fixed rfl (mem_block.mp inSecret), score, ← saved, half]
    decide +kernel
  unspecifiedFirst := by
    intro undeclared inUndeclared approval inApproval
    rw [analyze_findings_eq_blocks]
    refine ⟨pair_sublist_flatMap (by decide) inUndeclared inApproval, ?_⟩
    rw [score_of_fixed rfl (mem_block.mp inUndeclared), score_of_fixed rfl (mem_block.mp inApproval)]
    rfl

end PipelineAdvisor
