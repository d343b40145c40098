import Mathlib.Data.List.Basic
import Mathlib.Tactic.Common
import PipelineAdvisor.Proofs.Rules.Check

/-!
What the checks emit. Every finding of a check has its category, its priority, an id made of one of
its names and the subject, and a score inside its range; and the analyzers emit the findings of the
checks and nothing else.
-/

namespace PipelineAdvisor

namespace ResourceClass

theorem estimatedMinutes_of_short {steps : Nat}
    (short : ¬shortJobMinutes ≤ estimatedMinutes steps) :
    estimatedMinutes steps = 2 ∨ estimatedMinutes steps = 4 := by
  unfold estimatedMinutes shortJobMinutes at *
  split_ifs at * <;> omega

theorem savingsPercent_of_oversized {tier : String} {minutes rate recommendedRate : Nat}
    (large : isOversized tier = true) (short : minutes = 2 ∨ minutes = 4)
    (rateFound : creditRate? tier = some rate)
    (recommendedFound : creditRate? (recommendedTier minutes) = some recommendedRate) :
    savingsPercent (rate * minutes) (recommendedRate * minutes) ∈ [50, 75, 88, 94] := by
  have tiers : tier = "large" ∨ tier = "xlarge" ∨ tier = "2xlarge" := by
    simpa [isOversized, oversizedTiers] using large
  have rates : rate = 20 ∨ rate = 40 ∨ rate = 80 := by
    rcases tiers with rfl | rfl | rfl
    · exact Or.inl (Option.some.inj rateFound).symm
    · exact Or.inr (Or.inl (Option.some.inj rateFound).symm)
    · exact Or.inr (Or.inr (Option.some.inj rateFound).symm)
  rcases short with rfl | rfl
  · have small : recommendedRate = 5 := (Option.some.inj recommendedFound).symm
    subst small
    rcases rates with rfl | rfl | rfl <;> decide +kernel
  · have medium : recommendedRate = 10 := (Option.some.inj recommendedFound).symm
    subst medium
    rcases rates with rfl | rfl | rfl <;> decide +kernel

theorem oversized?_spec {job : Job} {finding : Finding} (found : oversized? job = some finding) :
    finding.category = .resource ∧ finding.priority = .high ∧
      finding.id = Finding.idOf .resource "oversized" job.name ∧
      ∃ percent ∈ [50, 75, 88, 94], finding.savings? = some (Savings.cost percent) ∧
        finding.score = Score.oversizedTier percent := by
  simp only [oversized?, Option.ite_none_left_eq_some, not_or, Bool.not_eq_true',
    Bool.not_eq_false, Option.bind_eq_bind, Option.bind_eq_some_iff] at found
  obtain ⟨⟨long, large⟩, rate, rateFound, recommendedRate, recommendedFound, rest⟩ := found
  obtain rfl := Option.some.inj rest
  exact ⟨rfl, rfl, rfl, _, savingsPercent_of_oversized large (estimatedMinutes_of_short long)
    rateFound recommendedFound, rfl, rfl⟩

end ResourceClass

namespace Check

/-- What the findings of a check about a subject have in common. -/
structure Form (check : Check) (subject : String) (finding : Finding) : Prop where
  category : finding.category = check.category
  priority : finding.priority = check.priority
  id : ∃ name ∈ check.names, finding.id = Finding.idOf check.category name subject
  lowest : check.lowestScore.orderKey ≤ finding.score.orderKey
  highest : finding.score.orderKey ≤ check.highestScore.orderKey

theorem Form.ofStart {check : Check} {name subject : String} {finding : Finding}
    (known : name ∈ check.names) (id : finding.id = Finding.idOf check.category name subject)
    (category : finding.category = check.category) (priority : finding.priority = check.priority)
    (score : finding.score = check.lowestScore)
    (fixed : check.highestScore = check.lowestScore) : Form check subject finding where
  category
  priority
  id := ⟨name, known, id⟩
  lowest := Int.le_of_eq (congrArg Binary64.orderKey score.symm)
  highest := Int.le_of_eq (congrArg Binary64.orderKey (score.trans fixed.symm))

theorem oversizedTier_form {job : Job} {finding : Finding}
    (found : ResourceClass.oversized? job = some finding) : Form oversizedTier job.name finding := by
  obtain ⟨category, priority, id, percent, possible, _, score⟩ :=
    ResourceClass.oversized?_spec found
  have range : ∀ percent ∈ [50, 75, 88, 94],
      (Score.oversizedTier 50).orderKey ≤ (Score.oversizedTier percent).orderKey ∧
        (Score.oversizedTier percent).orderKey ≤ (Score.oversizedTier 94).orderKey := by
    decide +kernel
  refine ⟨category, priority, ⟨"oversized", by simp [names], id⟩, ?_, ?_⟩
  · rw [score]
    exact (range percent possible).1
  · rw [score]
    exact (range percent possible).2

inductive FoundInJob (job : Job) : Check → Finding → Prop where
  | oversizedTier {finding : Finding} (found : ResourceClass.oversized? job = some finding) :
      FoundInJob job .oversizedTier finding
  | unspecifiedTier : FoundInJob job .unspecifiedTier (ResourceClass.unspecified job)
  | missingCache (command : String) :
      FoundInJob job .missingCache (DependencyCache.missing job command)
  | weakCacheKey : FoundInJob job .weakCacheKey (DependencyCache.weakKey job)
  | testSplitting : FoundInJob job .testSplitting (Parallelism.testSplitting job)
  | layerCaching : FoundInJob job .layerCaching (LayerCaching.disabled job)
  | orbReuse {pattern : OrbReuse.Pattern} (known : pattern ∈ OrbReuse.patterns) :
      FoundInJob job .orbReuse (OrbReuse.suggestion job pattern)
  | hardcodedSecret (step : Step) (literal : List Char) :
      FoundInJob job .hardcodedSecret (HardcodedSecret.finding job step literal)

theorem foundInJob_of_mem {config : Config} {job : Job} {check : Check} {finding : Finding}
    (found : finding ∈ check.ofJob config job) : FoundInJob job check finding := by
  cases check with
  | oversizedTier =>
      simp only [ofJob, List.mem_ite_nil_right, Option.mem_toList] at found
      exact .oversizedTier found.2
  | unspecifiedTier =>
      simp only [ofJob, List.mem_ite_nil_right, List.mem_singleton] at found
      obtain ⟨_, rfl⟩ := found
      exact .unspecifiedTier
  | missingCache =>
      simp only [ofJob] at found
      split at found
      · simp only [List.mem_ite_nil_left, List.mem_singleton] at found
        obtain ⟨_, rfl⟩ := found
        exact .missingCache _
      · simp at found
  | weakCacheKey =>
      simp only [ofJob, List.mem_ite_nil_right, List.mem_singleton] at found
      obtain ⟨_, rfl⟩ := found
      exact .weakCacheKey
  | testSplitting =>
      simp only [ofJob, Parallelism.inspectJob?, Option.mem_toList,
        Option.ite_none_right_eq_some] at found
      obtain ⟨_, same⟩ := found
      obtain rfl := Option.some.inj same
      exact .testSplitting
  | layerCaching =>
      simp only [ofJob, List.mem_ite_nil_right, List.mem_singleton] at found
      obtain ⟨_, rfl⟩ := found
      exact .layerCaching
  | orbReuse =>
      simp only [ofJob, OrbReuse.inspectJob, List.mem_map, List.mem_filter] at found
      obtain ⟨pattern, ⟨known, _⟩, rfl⟩ := found
      exact .orbReuse known
  | hardcodedSecret =>
      simp only [ofJob, HardcodedSecret.inspectJob?, Option.mem_toList,
        Option.map_eq_some_iff] at found
      obtain ⟨⟨step, literal⟩, _, rfl⟩ := found
      exact .hardcodedSecret step literal
  | fanOut => simp [ofJob] at found
  | missingApproval => simp [ofJob] at found

theorem ofJob_form {config : Config} {job : Job} {check : Check} {finding : Finding}
    (found : finding ∈ check.ofJob config job) : Form check job.name finding := by
  cases foundInJob_of_mem found with
  | oversizedTier found => exact oversizedTier_form found
  | orbReuse known => exact Form.ofStart (List.mem_map_of_mem known) rfl rfl rfl rfl rfl
  | _ => exact Form.ofStart (by simp [names]) rfl rfl rfl rfl rfl

inductive FoundInWorkflow (workflow : Workflow) : Check → Finding → Prop where
  | fanOut (several : 2 ≤ (workflow.independentJobs.map (·.name)).length) :
      FoundInWorkflow workflow .fanOut
        (Parallelism.fanOut workflow (workflow.independentJobs.map (·.name)))
  | missingApproval : FoundInWorkflow workflow .missingApproval (ApprovalGate.missing workflow)

theorem foundInWorkflow_of_mem {workflow : Workflow} {check : Check} {finding : Finding}
    (found : finding ∈ check.ofWorkflow workflow) : FoundInWorkflow workflow check finding := by
  cases check with
  | fanOut =>
      simp only [ofWorkflow, Parallelism.inspectWorkflow?, Option.mem_toList,
        Option.ite_none_left_eq_some] at found
      obtain ⟨several, same⟩ := found
      obtain rfl := Option.some.inj same
      exact .fanOut (Nat.le_of_not_lt several)
  | missingApproval =>
      simp only [ofWorkflow, List.mem_ite_nil_right, List.mem_singleton] at found
      obtain ⟨_, rfl⟩ := found
      exact .missingApproval
  | _ => simp [ofWorkflow] at found

theorem ofWorkflow_form {workflow : Workflow} {check : Check} {finding : Finding}
    (found : finding ∈ check.ofWorkflow workflow) : Form check workflow.name finding := by
  cases foundInWorkflow_of_mem found with
  | _ => exact Form.ofStart (by simp [names]) rfl rfl rfl rfl rfl

theorem emitted_form {config : Config} {check : Check} {finding : Finding}
    (found : finding ∈ check.emitted config) :
    (∃ job ∈ config.jobs, Form check job.name finding) ∨
      ∃ workflow ∈ config.workflows, Form check workflow.name finding := by
  rcases List.mem_append.mp found with ofJobs | ofWorkflows
  · obtain ⟨job, known, found⟩ := List.mem_flatMap.mp ofJobs
    exact Or.inl ⟨job, known, ofJob_form found⟩
  · obtain ⟨workflow, known, found⟩ := List.mem_flatMap.mp ofWorkflows
    exact Or.inr ⟨workflow, known, ofWorkflow_form found⟩

theorem exists_form_of_emitted {config : Config} {check : Check} {finding : Finding}
    (found : finding ∈ check.emitted config) : ∃ subject, Form check subject finding := by
  rcases emitted_form found with ⟨job, _, form⟩ | ⟨workflow, _, form⟩
  · exact ⟨job.name, form⟩
  · exact ⟨workflow.name, form⟩

/-- Besides its own job a check reads only which namespaces of orbs are declared. -/
theorem ofJob_of_declares (check : Check) {config other : Config}
    (same : ∀ space, config.declaresOrb space = other.declaresOrb space) (job : Job) :
    check.ofJob config job = check.ofJob other job := by
  cases check with
  | orbReuse => simp only [ofJob, OrbReuse.inspectJob, same]
  | _ => rfl

/-! The analyzers run the checks, subject by subject or check by check. -/

theorem map_filter_eq_flatMap {α β : Type} (test : α → Bool) (name : α → β) (list : List α) :
    (list.filter test).map name = list.flatMap fun element =>
      if test element then [name element] else [] := by
  induction list with
  | nil => rfl
  | cons element rest ih =>
      rw [List.filter_cons, List.flatMap_cons, ← ih]
      split <;> simp

theorem flatMap_filter {α β : Type} {parts : List β} {content : β → List α} {keepPart : β → Bool}
    {keep : α → Bool}
    (agree : ∀ part ∈ parts, ∀ element ∈ content part, keep element = keepPart part) :
    (parts.filter keepPart).flatMap content = (parts.flatMap content).filter keep := by
  induction parts with
  | nil => rfl
  | cons part rest ih =>
      have others := ih fun other inRest => agree other (List.mem_cons_of_mem part inRest)
      have here := agree part List.mem_cons_self
      rw [List.flatMap_cons, List.filter_append, ← others, List.filter_cons]
      cases kept : keepPart part with
      | true =>
          rw [kept] at here
          rw [if_pos rfl, List.flatMap_cons, List.filter_eq_self.mpr here]
      | false =>
          have none : (content part).filter keep = [] :=
            List.filter_eq_nil_iff.mpr fun element known => by simp [here element known, kept]
          rw [if_neg Bool.false_ne_true, none, List.nil_append]

theorem resourceClass_inspectJob (config : Config) (job : Job) :
    ResourceClass.inspectJob job =
      oversizedTier.ofJob config job ++ unspecifiedTier.ofJob config job := by
  unfold ResourceClass.inspectJob ofJob
  cases job.executor.isContainer <;> simp

theorem dependencyCache_inspectJob (config : Config) (job : Job) :
    DependencyCache.inspectJob job =
      missingCache.ofJob config job ++ weakCacheKey.ofJob config job :=
  rfl

theorem emitted_of_jobs {check : Check} (none : ∀ workflow, check.ofWorkflow workflow = [])
    (config : Config) : check.emitted config = config.jobs.flatMap (check.ofJob config) := by
  simp [emitted, none]

theorem emitted_of_workflows {check : Check} (none : ∀ config job, check.ofJob config job = [])
    (config : Config) : check.emitted config = config.workflows.flatMap check.ofWorkflow := by
  simp [emitted, none]

theorem parallelism_inspect (config : Config) :
    Parallelism.inspect config = testSplitting.emitted config ++ fanOut.emitted config := by
  rw [emitted_of_jobs (fun _ => rfl), emitted_of_workflows (fun _ _ => rfl), Parallelism.inspect,
    List.filterMap_eq_flatMap_toList, List.filterMap_eq_flatMap_toList]
  rfl

theorem layerCaching_inspect (config : Config) :
    LayerCaching.inspect config = layerCaching.emitted config := by
  rw [emitted_of_jobs (fun _ => rfl), LayerCaching.inspect, map_filter_eq_flatMap]
  rfl

theorem orbReuse_inspect (config : Config) : OrbReuse.inspect config = orbReuse.emitted config := by
  rw [emitted_of_jobs (fun _ => rfl), OrbReuse.inspect]
  rfl

theorem approvalGate_inspect (config : Config) :
    ApprovalGate.inspect config = missingApproval.emitted config := by
  rw [emitted_of_workflows (fun _ _ => rfl), ApprovalGate.inspect, map_filter_eq_flatMap]
  rfl

theorem hardcodedSecret_inspect (config : Config) :
    HardcodedSecret.inspect config = hardcodedSecret.emitted config := by
  rw [emitted_of_jobs (fun _ => rfl), HardcodedSecret.inspect, List.filterMap_eq_flatMap_toList]
  rfl

end Check

end PipelineAdvisor
