import PipelineAdvisor.Proofs.Analysis.Savings
import PipelineAdvisor.Proofs.Analysis.Subjects

/-!
How many findings a report can hold. The ids of what a check says about one subject differ in their
rules only, so there are at most as many findings as the check has names; and two pairs of checks never
speak about the same job. The bounds of a whole report follow subject by subject.
-/

namespace PipelineAdvisor

open Check

def AnalysisResult.Reports (result : AnalysisResult) (category : Category)
    (rule subject : String) : Prop :=
  ∃ finding ∈ result.findings, finding.id = Finding.idOf category rule subject

def AnalysisResult.about (result : AnalysisResult) (subject : Subject) (category : Category) :
    List Finding :=
  (result.findings.filter fun finding => finding.category = category).filter fun finding =>
    finding.isAbout subject

namespace Check

section Single

variable {check : Check} {config : Config} {job : Job} {workflow : Workflow}

theorem length_le_of_ids {findings : List Finding} {subject : String}
    (distinct : (findings.map (·.id)).Nodup)
    (form : ∀ finding ∈ findings, Form check subject finding) :
    findings.length ≤ check.names.length := by
  have named : findings.map (·.id) ⊆
      check.names.map fun rule => Finding.idOf check.category rule subject := by
    intro id known
    obtain ⟨finding, found, rfl⟩ := List.mem_map.mp known
    obtain ⟨rule, listed, id⟩ := (form finding found).id
    exact List.mem_map.mpr ⟨rule, listed, id.symm⟩
  have fewer := (List.subperm_of_subset distinct named).length_le
  rwa [List.length_map, List.length_map] at fewer

theorem ofJob_length_le : (check.ofJob config job).length ≤ check.names.length :=
  length_le_of_ids (ofJob_ids_nodup check config job) fun _ found => ofJob_form found

theorem ofWorkflow_length_le : (check.ofWorkflow workflow).length ≤ check.names.length :=
  length_le_of_ids (ofWorkflow_ids_nodup check workflow) fun _ found => ofWorkflow_form found

/-- A job that declares no size has the default one, which is not large. -/
theorem ofJob_sizes_exclusive (config : Config) (job : Job) :
    oversizedTier.ofJob config job = [] ∨ unspecifiedTier.ofJob config job = [] := by
  cases declared : job.resourceClass with
  | none =>
      have small : isOversized job.tier = false := by
        rw [Job.tier, declared]
        decide
      have quiet : ResourceClass.oversized? job = none := by
        rw [ResourceClass.oversized?, if_pos (Or.inr (by simp [small]))]
      exact Or.inl (by simp [ofJob, quiet])
  | some tier => exact Or.inr (by simp [ofJob, declared])

theorem ofJob_caches_exclusive (config : Config) (job : Job) :
    missingCache.ofJob config job = [] ∨ weakCacheKey.ofJob config job = [] := by
  cases restores : DependencyCache.restoresCache job with
  | true =>
      refine Or.inl ?_
      simp only [ofJob, restores]
      split <;> rfl
  | false => exact Or.inr (by simp [ofJob, restores])

end Single

theorem found_of_id {config : Config} {check : Check} {rule subject : String} {finding : Finding}
    (known : rule ∈ check.names) (reported : finding ∈ (analyze config).findings)
    (id : finding.id = Finding.idOf check.category rule subject) :
    (∃ job ∈ config.jobs, job.name = subject ∧ finding ∈ check.ofJob config job) ∨
      ∃ workflow ∈ config.workflows, workflow.name = subject ∧
        finding ∈ check.ofWorkflow workflow := by
  obtain ⟨other, emits⟩ := mem_analyze_findings.mp reported
  have own : ∀ {otherSubject}, Form other otherSubject finding →
      other = check ∧ otherSubject = subject := by
    intro otherSubject form
    obtain ⟨otherRule, otherKnown, otherId⟩ := form.id
    obtain ⟨checks, _, subjects⟩ := idOf_inj otherKnown known (otherId ▸ id)
    exact ⟨checks, subjects⟩
  rcases List.mem_append.mp emits with ofJobs | ofWorkflows
  · obtain ⟨job, inConfig, found⟩ := List.mem_flatMap.mp ofJobs
    obtain ⟨rfl, named⟩ := own (ofJob_form found)
    exact Or.inl ⟨job, inConfig, named, found⟩
  · obtain ⟨workflow, inConfig, found⟩ := List.mem_flatMap.mp ofWorkflows
    obtain ⟨rfl, named⟩ := own (ofWorkflow_form found)
    exact Or.inr ⟨workflow, inConfig, named, found⟩

theorem ofJob_ne_nil_of_reports (check : Check) {config : Config} {rule : String} {job : Job}
    (names : (config.jobs.map (·.name)).Nodup) (inConfig : job ∈ config.jobs)
    (known : rule ∈ check.names) (ofJobs : check.isOfJobs = true)
    (reported : (analyze config).Reports check.category rule job.name) :
    check.ofJob config job ≠ [] := by
  obtain ⟨finding, inReport, id⟩ := reported
  rcases found_of_id known inReport id with ⟨other, otherKnown, same, found⟩ | ⟨_, _, _, found⟩
  · obtain rfl := List.inj_on_of_nodup_map names otherKnown inConfig same
    exact List.ne_nil_of_mem found
  · rw [ofWorkflow_isOfJobs found] at ofJobs
    cases ofJobs

end Check

theorem length_flatMap_le {α β : Type} {parts : List β} {content : β → List α} {most : Nat}
    (few : ∀ part, (content part).length ≤ most) :
    (parts.flatMap content).length ≤ parts.length * most := by
  induction parts with
  | nil => simp
  | cons part rest ih =>
      have here := few part
      rw [List.flatMap_cons, List.length_append, List.length_cons, Nat.add_one_mul]
      omega

theorem filter_flatMap_of_nodup {α β γ : Type} [DecidableEq γ] {parts : List β} {content : β → List α}
    {key : β → γ} {keep : α → Bool} {part : β} (distinct : (parts.map key).Nodup)
    (known : part ∈ parts)
    (agree : ∀ other ∈ parts, ∀ element ∈ content other, keep element = decide (key other = key part)) :
    (parts.flatMap content).filter keep = content part := by
  have single : parts.filter (fun other => decide (key other = key part)) = [part] := by
    obtain ⟨before, after, rfl⟩ := List.append_of_mem known
    have others : (before ++ after).filter (fun other => decide (key other = key part)) = [] := by
      rw [List.filter_eq_nil_iff]
      intro other listed same
      exact name_ne_around distinct other listed (of_decide_eq_true same)
    obtain ⟨first, last⟩ := List.append_eq_nil_iff.mp (List.filter_append before after ▸ others)
    rw [List.filter_append, List.filter_cons_of_pos (by simp), first, last, List.nil_append]
  rw [← flatMap_filter agree, single, List.flatMap_singleton]

namespace Category

def mostOfJob : Category → Nat
  | .orbs => 3
  | .workflow => 0
  | _ => 1

def mostOfWorkflow : Category → Nat
  | .parallel | .workflow => 1
  | _ => 0

theorem ofJob_length_le (category : Category) (config : Config) (job : Job) :
    (category.ofJob config job).length ≤ category.mostOfJob := by
  have few : ∀ check : Check, (check.ofJob config job).length ≤ check.names.length :=
    fun _ => Check.ofJob_length_le
  cases category with
  | resource =>
      have large := few oversizedTier
      have unnamed := few unspecifiedTier
      rcases ofJob_sizes_exclusive config job with none | none <;>
        simp_all [ofJob, checks, mostOfJob, names]
  | cache =>
      have missing := few missingCache
      have weak := few weakCacheKey
      rcases ofJob_caches_exclusive config job with none | none <;>
        simp_all [ofJob, checks, mostOfJob, names]
  | parallel => simp [ofJob, checks, mostOfJob, Check.ofJob]
  | layerCache => simpa [ofJob, checks, mostOfJob, names] using few layerCaching
  | orbs => simpa [ofJob, checks, mostOfJob, names, OrbReuse.patterns] using few orbReuse
  | workflow => simp [ofJob, checks, Check.ofJob]
  | practice => simpa [ofJob, checks, mostOfJob, names] using few hardcodedSecret

theorem ofWorkflow_length_le (category : Category) (workflow : Workflow) :
    (category.ofWorkflow workflow).length ≤ category.mostOfWorkflow := by
  have few : ∀ check : Check, (check.ofWorkflow workflow).length ≤ check.names.length :=
    fun _ => Check.ofWorkflow_length_le
  cases category with
  | parallel => simp [ofWorkflow, checks, mostOfWorkflow, Check.ofWorkflow]
  | workflow => simpa [ofWorkflow, checks, mostOfWorkflow, names] using few missingApproval
  | _ => simp [ofWorkflow, checks, Check.ofWorkflow]

theorem inspect_length_le (category : Category) (config : Config) :
    (category.inspect config).length ≤ config.jobs.length * category.mostOfJob +
      config.workflows.length * category.mostOfWorkflow := by
  rw [inspect_eq, List.length_append]
  exact Nat.add_le_add (length_flatMap_le fun job => ofJob_length_le category config job)
    (length_flatMap_le fun workflow => ofWorkflow_length_le category workflow)

theorem inspect_category {category : Category} {config : Config} {finding : Finding}
    (found : finding ∈ category.inspect config) : finding.category = category := by
  have own : ∀ check ∈ category.checks, check.category = category := by
    cases category <;> decide
  rw [inspect_eq] at found
  rcases List.mem_append.mp found with ofJobs | ofWorkflows
  · obtain ⟨job, _, inJob⟩ := List.mem_flatMap.mp ofJobs
    obtain ⟨check, listed, emits⟩ := List.mem_flatMap.mp inJob
    rw [(ofJob_form emits).category, own check listed]
  · obtain ⟨workflow, _, inWorkflow⟩ := List.mem_flatMap.mp ofWorkflows
    obtain ⟨check, listed, emits⟩ := List.mem_flatMap.mp inWorkflow
    rw [(ofWorkflow_form emits).category, own check listed]

section Subjects

variable {config : Config} (category : Category)

theorem inspect_about_job {job : Job} (names : (config.jobs.map (·.name)).Nodup)
    (inConfig : job ∈ config.jobs) :
    (category.inspect config).filter (·.isAbout (.job job.name)) = category.ofJob config job := by
  have none : (config.workflows.flatMap category.ofWorkflow).filter
      (·.isAbout (.job job.name)) = [] := by
    rw [List.filter_eq_nil_iff]
    intro finding found
    obtain ⟨workflow, _, inWorkflow⟩ := List.mem_flatMap.mp found
    simp [ofWorkflow_isAbout inWorkflow]
  have subjects : (config.jobs.map fun job => Subject.job job.name).Nodup := by
    simpa [Function.comp_def] using names.map fun _ _ same => Subject.job.inj same
  rw [inspect_eq, List.filter_append, none, List.append_nil]
  exact filter_flatMap_of_nodup subjects inConfig fun _ _ _ found => ofJob_isAbout found _

theorem inspect_about_workflow {workflow : Workflow} (names : (config.workflows.map (·.name)).Nodup)
    (inConfig : workflow ∈ config.workflows) :
    (category.inspect config).filter (·.isAbout (.workflow workflow.name)) =
      category.ofWorkflow workflow := by
  have none : (config.jobs.flatMap (category.ofJob config)).filter
      (·.isAbout (.workflow workflow.name)) = [] := by
    rw [List.filter_eq_nil_iff]
    intro finding found
    obtain ⟨job, _, inJob⟩ := List.mem_flatMap.mp found
    simp [ofJob_isAbout inJob]
  have subjects : (config.workflows.map fun workflow => Subject.workflow workflow.name).Nodup := by
    simpa [Function.comp_def] using names.map fun _ _ same => Subject.workflow.inj same
  rw [inspect_eq, List.filter_append, none, List.nil_append]
  exact filter_flatMap_of_nodup subjects inConfig fun _ _ _ found => ofWorkflow_isAbout found _

end Subjects

end Category

theorem analyze_findings_perm_inspect (config : Config) :
    (analyze config).findings.Perm (Category.all.flatMap fun category => category.inspect config) := by
  rw [analyze_findings]
  simpa [Category.all, Category.inspect, Finding.ranked] using List.mergeSort_perm _ _

section Report

variable {config : Config} {subject : Subject} {found : Category → List Finding}

theorem about_length_eq (about : ∀ category : Category,
      (category.inspect config).filter (·.isAbout subject) = found category) (category : Category) :
    ((analyze config).about subject category).length = (found category).length := by
  have listed : (Category.all.map id).Nodup := by
    decide
  have known : category ∈ Category.all := by
    cases category <;> decide
  have ofCategory : (Category.all.flatMap fun category => category.inspect config).filter
      (fun finding => decide (finding.category = category)) = category.inspect config :=
    filter_flatMap_of_nodup listed known fun other _ finding inspected => by
      rw [Category.inspect_category inspected, id, id]
  have same := ((analyze_findings_perm_inspect config).filter
    fun finding => decide (finding.category = category)).filter (·.isAbout subject)
  rw [ofCategory, about] at same
  exact same.length_eq

theorem countP_isAbout_le {most : Category → Nat} (about : ∀ category : Category,
      (category.inspect config).filter (·.isAbout subject) = found category)
    (few : ∀ category, (found category).length ≤ most category) :
    (analyze config).findings.countP (·.isAbout subject) ≤ (Category.all.map most).sum := by
  rw [(analyze_findings_perm_inspect config).countP_eq, List.countP_flatMap]
  refine List.sum_le_sum fun category _ => ?_
  rw [Function.comp_apply, List.countP_eq_length_filter, about]
  exact few category

end Report

/-- In a configuration whose jobs differ in name, and whose workflows do, no job is found both
oversized and without a size, nor both without a cache and with weak keys; so a report holds at most
eight findings about a job and two about a workflow. -/
theorem analyze_findings_bounded {config : Config} (jobNames : (config.jobs.map (·.name)).Nodup)
    (workflowNames : (config.workflows.map (·.name)).Nodup) :
    let result := analyze config
    (∀ job ∈ config.jobs,
      ¬(result.Reports .resource "oversized" job.name ∧
          result.Reports .resource "unspecified" job.name) ∧
        ¬(result.Reports .cache "missing" job.name ∧ result.Reports .cache "weak-key" job.name) ∧
        (∀ category, (result.about (.job job.name) category).length ≤ category.mostOfJob) ∧
        result.findings.countP (·.isAbout (.job job.name)) ≤ 8) ∧
      (∀ workflow ∈ config.workflows,
        result.findings.countP (·.isAbout (.workflow workflow.name)) ≤ 2) ∧
      result.total ≤ 8 * config.jobs.length + 2 * config.workflows.length := by
  intro result
  refine ⟨?_, ?_, ?_⟩
  · intro job inConfig
    have about := fun category => Category.inspect_about_job category jobNames inConfig
    refine ⟨?_, ?_, ?_, ?_⟩
    · rintro ⟨large, unnamed⟩
      rcases ofJob_sizes_exclusive config job with none | none
      · exact ofJob_ne_nil_of_reports oversizedTier jobNames inConfig (by decide) rfl large none
      · exact ofJob_ne_nil_of_reports unspecifiedTier jobNames inConfig (by decide) rfl unnamed none
    · rintro ⟨missing, weak⟩
      rcases ofJob_caches_exclusive config job with none | none
      · exact ofJob_ne_nil_of_reports missingCache jobNames inConfig (by decide) rfl missing none
      · exact ofJob_ne_nil_of_reports weakCacheKey jobNames inConfig (by decide) rfl weak none
    · intro category
      rw [about_length_eq about]
      exact category.ofJob_length_le config job
    · exact countP_isAbout_le about fun category => category.ofJob_length_le config job
  · intro workflow inConfig
    have about := fun category =>
      Category.inspect_about_workflow category workflowNames inConfig
    exact countP_isAbout_le about fun category => category.ofWorkflow_length_le workflow
  · have total : result.total = result.findings.length :=
      congrArg AnalysisResult.total (analyze_eq_summarize config)
    have sum : (Category.all.map fun category => (category.inspect config).length).sum ≤
        (Category.all.map fun category => config.jobs.length * category.mostOfJob +
          config.workflows.length * category.mostOfWorkflow).sum :=
      List.sum_le_sum fun category _ => category.inspect_length_le config
    rw [total, (analyze_findings_perm_inspect config).length_eq, List.length_flatMap]
    simp only [Category.all, Category.mostOfJob, Category.mostOfWorkflow, List.map_cons, List.map_nil,
      List.sum_cons, List.sum_nil] at sum ⊢
    omega

def neglectedJob : Job where
  name := "test"
  executor := .docker none
  resourceClass := some "2xlarge"
  steps := [⟨.mapping [(.string "run", .string "npm install && docker build .")]⟩,
    ⟨.mapping [(.string "run", .string "aws s3 cp log s3://log0123456789abcdefghij")]⟩,
    ⟨.mapping [(.string "run", .string "curl hooks.slack.com")]⟩]

def neglectedWorkflow : Workflow :=
  ⟨"test", [{ name := "a" }, { name := "b" }, { name := "c" }, { name := "d" }]⟩

def neglected : Config where
  jobs := [neglectedJob]
  workflows := [neglectedWorkflow]

theorem analyze_findings_bounded_neglected :
    let result := analyze neglected
    (neglected.jobs.map (·.name)).Nodup ∧ (neglected.workflows.map (·.name)).Nodup ∧
      result.total = 10 ∧ result.findings.countP (·.isAbout (.job neglectedJob.name)) ≤ 8 ∧
      result.findings.countP (·.isAbout (.workflow neglectedWorkflow.name)) ≤ 2 := by
  intro result
  have jobNames : (neglected.jobs.map (·.name)).Nodup := by
    decide
  have workflowNames : (neglected.workflows.map (·.name)).Nodup := by
    decide
  obtain ⟨ofJobs, ofWorkflows, _⟩ := analyze_findings_bounded jobNames workflowNames
  have total : result.total = result.findings.length :=
    congrArg AnalysisResult.total (analyze_eq_summarize neglected)
  have length : (Check.all.flatMap fun check => check.emitted neglected).length = 10 := by
    decide +kernel
  refine ⟨jobNames, workflowNames, ?_, ?_, ?_⟩
  · rw [total, (analyze_findings_perm neglected).length_eq, length]
  · exact (ofJobs neglectedJob (List.mem_singleton.mpr rfl)).2.2.2
  · exact ofWorkflows neglectedWorkflow (List.mem_singleton.mpr rfl)

end PipelineAdvisor
