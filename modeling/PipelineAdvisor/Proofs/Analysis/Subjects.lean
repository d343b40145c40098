import PipelineAdvisor.Proofs.Analysis.Independence
import PipelineAdvisor.Proofs.Analysis.Selection

/-!
Analyzers go through jobs and workflows one by one. What an analyzer finds without one of them is what
it finds otherwise, less the findings about this one.
-/

namespace PipelineAdvisor

open Check

/-- What a finding can be about. A job and a workflow may share a name. -/
inductive Subject where
  | job (name : String)
  | workflow (name : String)
deriving DecidableEq

def Finding.isAbout (finding : Finding) : Subject → Bool
  | .job name => finding.isAboutJob name
  | .workflow name => Check.all.any fun check => !check.isOfJobs && check.names.any fun rule =>
      finding.id == Finding.idOf check.category rule name

def Config.without (config : Config) : Subject → Config
  | .job name => config.withoutJob name
  | .workflow name =>
    { config with workflows := config.workflows.filter fun workflow => workflow.name != name }

theorem name_ne_around {α β : Type} {name : α → β} {before after : List α} {item : α}
    (distinct : ((before ++ item :: after).map name).Nodup) :
    ∀ other ∈ before ++ after, name other ≠ name item := by
  rw [List.map_append, List.map_cons, List.nodup_middle, List.nodup_cons, ← List.map_append]
    at distinct
  intro other known same
  exact distinct.1 (same ▸ List.mem_map_of_mem known)

namespace Category

def inspect : Category → Config → List Finding
  | .resource => ResourceClass.inspect
  | .cache => DependencyCache.inspect
  | .parallel => Parallelism.inspect
  | .layerCache => LayerCaching.inspect
  | .orbs => OrbReuse.inspect
  | .workflow => ApprovalGate.inspect
  | .practice => HardcodedSecret.inspect

theorem inspect_mem_builtin (category : Category) :
    Analyzer.total category.analyzerName category.inspect ∈ Analyzer.builtin := by
  cases category <;> simp [Analyzer.builtin, inspect, analyzerName]

def checks : Category → List Check
  | .resource => [oversizedTier, unspecifiedTier]
  | .cache => [missingCache, weakCacheKey]
  | .parallel => [testSplitting, Check.fanOut]
  | .layerCache => [layerCaching]
  | .orbs => [orbReuse]
  | .workflow => [missingApproval]
  | .practice => [hardcodedSecret]

def ofJob (category : Category) (config : Config) (job : Job) : List Finding :=
  category.checks.flatMap fun check => check.ofJob config job

def ofWorkflow (category : Category) (workflow : Workflow) : List Finding :=
  category.checks.flatMap fun check => check.ofWorkflow workflow

theorem emitted_of_only {category : Category} {check : Check} (only : category.checks = [check])
    (config : Config) :
    check.emitted config = config.jobs.flatMap (category.ofJob config) ++
      config.workflows.flatMap category.ofWorkflow := by
  have ofJobs : category.ofJob config = check.ofJob config := by
    funext job
    simp [ofJob, only]
  have ofWorkflows : category.ofWorkflow = check.ofWorkflow := by
    funext workflow
    simp [ofWorkflow, only]
  rw [emitted, ofJobs, ofWorkflows]

theorem flatMap_of_pair {category : Category} {first second : Check} {config : Config}
    {inspectJob : Job → List Finding} (pair : category.checks = [first, second])
    (parts : ∀ job, inspectJob job = first.ofJob config job ++ second.ofJob config job)
    (none : ∀ workflow, category.ofWorkflow workflow = []) :
    config.jobs.flatMap inspectJob = config.jobs.flatMap (category.ofJob config) ++
      config.workflows.flatMap category.ofWorkflow := by
  have ofJobs : category.ofJob config = inspectJob := by
    funext job
    simp [ofJob, pair, parts]
  rw [ofJobs, List.flatMap_eq_nil_iff.mpr fun workflow _ => none workflow, List.append_nil]

theorem inspect_eq (category : Category) (config : Config) :
    category.inspect config = config.jobs.flatMap (category.ofJob config) ++
      config.workflows.flatMap category.ofWorkflow := by
  cases category with
  | resource => exact flatMap_of_pair rfl (resourceClass_inspectJob config) fun _ => rfl
  | cache => exact flatMap_of_pair rfl (dependencyCache_inspectJob config) fun _ => rfl
  | parallel =>
      have ofJobs : ofJob .parallel config = testSplitting.ofJob config := by
        funext job
        exact List.append_nil _
      have ofWorkflows : ofWorkflow .parallel = Check.fanOut.ofWorkflow := by
        funext workflow
        exact List.append_nil _
      rw [ofJobs, ofWorkflows, ← emitted_of_jobs (fun _ => rfl), ← emitted_of_workflows fun _ _ => rfl]
      exact parallelism_inspect config
  | layerCache => exact (layerCaching_inspect config).trans (emitted_of_only rfl config)
  | orbs => exact (orbReuse_inspect config).trans (emitted_of_only rfl config)
  | workflow => exact (approvalGate_inspect config).trans (emitted_of_only rfl config)
  | practice => exact (hardcodedSecret_inspect config).trans (emitted_of_only rfl config)

theorem ofJob_isAbout {category : Category} {config : Config} {job : Job} {finding : Finding}
    (found : finding ∈ category.ofJob config job) (subject : Subject) :
    finding.isAbout subject = decide (.job job.name = subject) := by
  obtain ⟨check, _, found⟩ := List.mem_flatMap.mp found
  cases subject with
  | job name =>
      rw [Finding.isAbout, ofJob_isAboutJob found]
      simp [beq_eq_decide]
  | workflow name =>
      have ofJobs := ofJob_isOfJobs found
      rw [Finding.isAbout, Bool.eq_iff_iff, (ofJob_form found).any_iff fun check => !check.isOfJobs]
      simp [ofJobs]

theorem ofWorkflow_isAbout {category : Category} {workflow : Workflow} {finding : Finding}
    (found : finding ∈ category.ofWorkflow workflow) (subject : Subject) :
    finding.isAbout subject = decide (.workflow workflow.name = subject) := by
  obtain ⟨check, _, found⟩ := List.mem_flatMap.mp found
  cases subject with
  | job name =>
      rw [Finding.isAbout, ofWorkflow_isAboutJob found]
      simp
  | workflow name =>
      have ofWorkflows := ofWorkflow_isOfJobs found
      rw [Finding.isAbout, Bool.eq_iff_iff,
        (ofWorkflow_form found).any_iff fun check => !check.isOfJobs]
      simp [ofWorkflows]

theorem ofJob_of_orbs (category : Category) {config other : Config}
    (same : config.orbs = other.orbs) : category.ofJob config = category.ofJob other := by
  funext job
  simp only [ofJob, Check.ofJob_of_orbs _ same]

/-- Without a subject an analyzer finds what it finds otherwise, less what is about the subject. -/
theorem inspect_without (category : Category) (config : Config) (subject : Subject) :
    category.inspect (config.without subject) =
      (category.inspect config).filter fun finding => !finding.isAbout subject := by
  have jobs : (config.without subject).jobs =
      config.jobs.filter fun job => !decide (.job job.name = subject) := by
    cases subject <;> simp [Config.without, Config.withoutJob, bne, beq_eq_decide]
  have workflows : (config.without subject).workflows =
      config.workflows.filter fun workflow => !decide (.workflow workflow.name = subject) := by
    cases subject <;> simp [Config.without, Config.withoutJob, bne, beq_eq_decide]
  have sameOrbs : (config.without subject).orbs = config.orbs := by
    cases subject <;> rfl
  rw [inspect_eq, inspect_eq, List.filter_append, ofJob_of_orbs category sameOrbs, jobs, workflows]
  congr 1
  · apply flatMap_filter
    intro job _ finding found
    rw [ofJob_isAbout found]
  · apply flatMap_filter
    intro workflow _ finding found
    rw [ofWorkflow_isAbout found]

end Category

end PipelineAdvisor
