import Mathlib.Data.List.DropRight
import PipelineAdvisor.Proofs.Analysis.Subjects

/-!
Following recommendations. A job or workflow changed as a finding recommends is passed over by the
analyzer that gave the finding, and the analyzer says the same as before about all others. An inserted
step may change what else is read from a job, its length and its text, but a step that restores a
cache by a checksum keeps both rules of caches quiet, whatever the text is.
-/

namespace PipelineAdvisor

/-- What follows the last blank of an example. In the example of a declared size this is the size. -/
def Snippet.lastWord (text : String) : String :=
  String.ofList (text.toList.rtakeWhile (· != ' '))

theorem Snippet.lastWord_resourceClass (job : String) {tier : String} (word : ' ' ∉ tier.toList) :
    lastWord (resourceClass job tier) = tier := by
  have text : (resourceClass job tier).toList =
      ("jobs:\n  " ++ job ++ ":\n    resource_class:").toList ++ ' ' :: tier.toList := by
    simp [resourceClass, ofLines, String.intercalate_cons_cons, String.toList_append]
  have letters : ∀ c ∈ tier.toList.reverse, (c != ' ') = true := by
    intro c known
    rw [bne_iff_ne]
    rintro rfl
    exact word (List.mem_reverse.mp known)
  rw [lastWord, text, List.rtakeWhile, List.reverse_append, List.reverse_cons, List.append_assoc,
    List.takeWhile_append_of_pos letters]
  simp

/-- The recommended changes of a job, by the check of the finding. Steps go anywhere in the list, keys
anywhere among the keys of a step. -/
inductive Job.Remedied (finding : Finding) : Check → Job → Job → Prop where
  | sizeNamed {check : Check} (sizes : check = .oversizedTier ∨ check = .unspecifiedTier)
      (job : Job) :
      Remedied finding check job
        { job with resourceClass := finding.example?.map Snippet.lastWord }
  | cacheRestored {job : Job} {before after : List Step} (steps : job.steps = before ++ after)
      {step : Step} {keys : List String} (restores : step.kind = .restoreCache keys)
      (tracks : ∃ key ∈ keys, Text.contains key "checksum" = true) :
      Remedied finding .missingCache job { job with steps := before ++ step :: after }
  | keyAdded {job : Job} {before after : List Step} {step : Step}
      (steps : job.steps = before ++ step :: after) {front back : List String}
      (restores : step.kind = .restoreCache (front ++ back)) {key : String}
      (tracks : Text.contains key "checksum" = true) {changed : Step}
      (added : changed.kind = .restoreCache (front ++ key :: back)) :
      Remedied finding .weakCacheKey job { job with steps := before ++ changed :: after }
  | testsSplit (job : Job) {count : Nat} (several : 2 ≤ count) :
      Remedied finding .testSplitting job { job with parallelism := some count }
  | layersCached {job : Job} {before after : List Step} (steps : job.steps = before ++ after)
      {step : Step} (caches : step.kind = .setupRemoteDocker true) :
      Remedied finding .layerCaching job { job with steps := before ++ step :: after }

inductive Config.Remedied (config : Config) (finding : Finding) : Check → Subject → Config → Prop where
  | job {check : Check} {before after : List Job} {job changed : Job}
      (jobs : config.jobs = before ++ job :: after)
      (about : ∃ rule ∈ check.names, finding.id = Finding.idOf check.category rule job.name)
      (remedied : Job.Remedied finding check job changed) :
      Remedied config finding check (.job job.name) { config with jobs := before ++ changed :: after }
  | workflow {before after : List Workflow} {workflow : Workflow}
      (workflows : config.workflows = before ++ workflow :: after)
      (about : finding.id = Finding.idOf .workflow "approval" workflow.name)
      {front back : List JobReference} (jobs : workflow.jobs = front ++ back)
      {approval : JobReference} (approves : approval.kind = .approval) :
      Remedied config finding .missingApproval (.workflow workflow.name)
        { config with
          workflows := before ++ { workflow with jobs := front ++ approval :: back } :: after }

/-! Sizes that examples name are not large ones. -/

namespace ResourceClass

theorem recommendedTier_mem (minutes : Nat) : recommendedTier minutes ∈ ["small", "medium"] := by
  rw [recommendedTier]
  split <;> simp

theorem oversized?_example {job : Job} {finding : Finding} (found : oversized? job = some finding) :
    ∃ tier ∈ ["small", "medium"],
      finding.example? = some (Snippet.resourceClass job.name tier) := by
  simp only [oversized?, Option.ite_none_left_eq_some, Option.bind_eq_bind,
    Option.bind_eq_some_iff] at found
  obtain ⟨_, _, _, _, _, rest⟩ := found
  obtain rfl := Option.some.inj rest
  exact ⟨_, recommendedTier_mem _, rfl⟩

theorem inspectJob_example {job : Job} {finding : Finding} (found : finding ∈ inspectJob job) :
    ∃ tier ∈ ["small", "medium"],
      finding.example? = some (Snippet.resourceClass job.name tier) := by
  rw [inspectJob, List.mem_ite_nil_right, List.mem_append, Option.mem_toList,
    List.mem_ite_nil_right, List.mem_singleton] at found
  obtain ⟨_, large | ⟨_, rfl⟩⟩ := found
  · exact oversized?_example large
  · exact ⟨defaultTier, by decide, rfl⟩

theorem recommended_fits {tier : String} (known : tier ∈ ["small", "medium"]) :
    tier ∈ creditRates.map Prod.fst ∧ isOversized tier = false ∧ ' ' ∉ tier.toList := by
  have all : ∀ tier ∈ ["small", "medium"],
      tier ∈ creditRates.map Prod.fst ∧ isOversized tier = false ∧ ' ' ∉ tier.toList := by
    decide
  exact all tier known

theorem inspect_example {config : Config} {finding : Finding} (found : finding ∈ inspect config) :
    ∃ tier, isOversized tier = false ∧ finding.example?.map Snippet.lastWord = some tier := by
  obtain ⟨job, _, found⟩ := List.mem_flatMap.mp found
  obtain ⟨tier, known, shown⟩ := inspectJob_example found
  obtain ⟨_, fits, word⟩ := recommended_fits known
  exact ⟨tier, fits, by rw [shown, Option.map_some, Snippet.lastWord_resourceClass _ word]⟩

theorem inspect_example_of_isAbout {config : Config} {finding : Finding} {subject : Subject}
    (found : finding ∈ inspect config) (about : finding.isAbout subject = true) :
    ∃ name tier, subject = .job name ∧ tier ∈ creditRates.map Prod.fst ∧
      finding.example? = some (Snippet.resourceClass name tier) ∧
      finding.example?.map Snippet.lastWord = some tier := by
  obtain ⟨job, _, found⟩ := List.mem_flatMap.mp found
  have ofJob : finding ∈ Category.resource.ofJob config job := by
    rw [Check.resourceClass_inspectJob config] at found
    simpa [Category.ofJob, Category.checks] using found
  rw [Category.ofJob_isAbout ofJob, decide_eq_true_eq] at about
  obtain ⟨tier, known, shown⟩ := inspectJob_example found
  obtain ⟨priced, _, word⟩ := recommended_fits known
  exact ⟨job.name, tier, about.symm, priced, shown,
    by rw [shown, Option.map_some, Snippet.lastWord_resourceClass _ word]⟩

end ResourceClass

/-! What keeps an analyzer quiet about a job or a workflow. -/

namespace Category

theorem resource_ofJob_of_tier {job : Job} {tier : String} (declared : job.resourceClass = some tier)
    (fits : isOversized tier = false) (config : Config) : resource.ofJob config job = [] := by
  have small : ResourceClass.oversized? job = none := by
    rw [ResourceClass.oversized?, if_pos (Or.inr _)]
    simp [Job.tier, declared, fits]
  simp [ofJob, checks, Check.ofJob, small, declared]

theorem cache_ofJob_of_tracking {job : Job} {step : Step} {keys : List String} {key : String}
    (known : step ∈ job.steps) (restores : step.kind = .restoreCache keys) (used : key ∈ keys)
    (tracks : Text.contains key "checksum" = true) (config : Config) :
    cache.ofJob config job = [] := by
  have restored : DependencyCache.restoresCache job = true :=
    List.any_eq_true.mpr ⟨step, known, by rw [restores]⟩
  have inKeys : key ∈ DependencyCache.restoreKeys job :=
    List.mem_flatMap.mpr ⟨step, known, by rwa [restores]⟩
  have tracked : DependencyCache.hasChecksumKey job = true :=
    List.any_eq_true.mpr ⟨key, inKeys, tracks⟩
  have missing : Check.missingCache.ofJob config job = [] := by
    simp only [Check.ofJob, restored]
    split <;> rfl
  have weak : Check.weakCacheKey.ofJob config job = [] := by
    simp [Check.ofJob, tracked]
  simp [ofJob, checks, missing, weak]

theorem parallel_ofJob_of_split {job : Job} {count : Nat} (declared : job.parallelism = some count)
    (several : 2 ≤ count) (config : Config) : parallel.ofJob config job = [] := by
  have split : job.isParallelized = true := by
    rw [Job.isParallelized, declared]
    exact decide_eq_true several
  simp [ofJob, checks, Check.ofJob, Parallelism.inspectJob?, split]

theorem layerCache_ofJob_of_cached {job : Job} {step : Step} (known : step ∈ job.steps)
    (caches : step.kind = .setupRemoteDocker true) (config : Config) :
    layerCache.ofJob config job = [] := by
  have enabled : LayerCaching.isEnabled job = true := by
    rw [LayerCaching.isEnabled, Bool.or_eq_true]
    exact Or.inl (List.any_eq_true.mpr ⟨step, known, decide_eq_true caches⟩)
  simp [ofJob, checks, Check.ofJob, enabled]

theorem workflow_ofWorkflow_of_approved {workflow : Workflow} {approval : JobReference}
    (known : approval ∈ workflow.jobs) (approves : approval.kind = .approval) :
    Category.workflow.ofWorkflow workflow = [] := by
  have gated : workflow.hasApprovalGate = true :=
    List.any_eq_true.mpr ⟨approval, known, decide_eq_true approves⟩
  simp [ofWorkflow, checks, Check.ofWorkflow, ApprovalGate.isMissing, gated]

end Category

theorem Job.Remedied.silences {config : Config} {check : Check} {finding : Finding}
    {job changed : Job} (found : finding ∈ check.category.inspect config)
    (remedied : Job.Remedied finding check job changed) (other : Config) :
    check.category.ofJob other changed = [] := by
  cases remedied with
  | sizeNamed sizes =>
      have resource : check.category = .resource := by
        rcases sizes with rfl | rfl <;> rfl
      rw [resource] at found ⊢
      obtain ⟨tier, fits, named⟩ := ResourceClass.inspect_example found
      exact Category.resource_ofJob_of_tier named fits other
  | cacheRestored _ restores tracks =>
      obtain ⟨key, used, tracks⟩ := tracks
      exact Category.cache_ofJob_of_tracking (List.mem_append_right _ List.mem_cons_self) restores
        used tracks other
  | keyAdded _ _ tracks added =>
      exact Category.cache_ofJob_of_tracking (List.mem_append_right _ List.mem_cons_self) added
        (List.mem_append_right _ List.mem_cons_self) tracks other
  | testsSplit _ several => exact Category.parallel_ofJob_of_split rfl several other
  | layersCached _ caches =>
      exact Category.layerCache_ofJob_of_cached (List.mem_append_right _ List.mem_cons_self) caches
        other

theorem Config.Remedied.isAbout {config changed : Config} {finding : Finding} {check : Check}
    {subject : Subject} (remedied : Config.Remedied config finding check subject changed) :
    finding.isAbout subject = true := by
  cases remedied with
  | job _ about remedied =>
      obtain ⟨rule, known, id⟩ := about
      have ofJobs : check.isOfJobs = true := by
        cases remedied with
        | sizeNamed sizes => rcases sizes with rfl | rfl <;> rfl
        | _ => rfl
      simp only [Finding.isAbout, Finding.isAboutJob, List.any_eq_true, Bool.and_eq_true, beq_iff_eq]
      exact ⟨check, Check.mem_all check, ofJobs, rule, known, id⟩
  | workflow _ about =>
      simp only [Finding.isAbout, List.any_eq_true, Bool.and_eq_true, beq_iff_eq]
      exact ⟨.missingApproval, Check.mem_all _, rfl, "approval", by simp [Check.names], about⟩

theorem filter_name_around {α : Type} {name : α → String} {before after : List α} {item : α}
    (distinct : ((before ++ item :: after).map name).Nodup) :
    (before ++ item :: after).filter (fun other => name other != name item) = before ++ after := by
  have others : ∀ other ∈ before ++ after, (name other != name item) = true := by
    intro other known
    exact bne_iff_ne.mpr (name_ne_around distinct other known)
  rw [List.filter_append, List.filter_cons_of_neg (by simp), ← List.filter_append,
    List.filter_eq_self.mpr others]

namespace Category

theorem inspect_of_silent_job (category : Category) {config : Config} {before after : List Job}
    {job changed : Job} (jobs : config.jobs = before ++ job :: after)
    (names : (config.jobs.map (·.name)).Nodup)
    (silent : ∀ other, category.ofJob other changed = []) :
    category.inspect { config with jobs := before ++ changed :: after } =
      (category.inspect config).filter fun finding => !finding.isAbout (.job job.name) := by
  have rest : config.without (.job job.name) = { config with jobs := before ++ after } := by
    rw [Config.without, Config.withoutJob, jobs, filter_name_around (jobs ▸ names)]
  have sameOrbs : category.ofJob { config with jobs := before ++ changed :: after } =
      category.ofJob { config with jobs := before ++ after } := ofJob_of_orbs category rfl
  rw [← inspect_without, rest, inspect_eq, inspect_eq, sameOrbs]
  simp only [List.flatMap_append, List.flatMap_cons, silent, List.nil_append]

theorem inspect_of_silent_workflow (category : Category) {config : Config}
    {before after : List Workflow} {workflow changed : Workflow}
    (workflows : config.workflows = before ++ workflow :: after)
    (names : (config.workflows.map (·.name)).Nodup)
    (silent : category.ofWorkflow changed = []) :
    category.inspect { config with workflows := before ++ changed :: after } =
      (category.inspect config).filter fun finding =>
        !finding.isAbout (.workflow workflow.name) := by
  have rest : config.without (.workflow workflow.name) =
      { config with workflows := before ++ after } := by
    rw [Config.without, workflows, filter_name_around (workflows ▸ names)]
  have sameOrbs : category.ofJob { config with workflows := before ++ changed :: after } =
      category.ofJob { config with workflows := before ++ after } := ofJob_of_orbs category rfl
  rw [← inspect_without, rest, inspect_eq, inspect_eq, sameOrbs]
  simp only [List.flatMap_append, List.flatMap_cons, silent, List.nil_append]

theorem resource_remedied {config changed : Config} {check : Check} {finding : Finding}
    {subject : Subject} (found : finding ∈ check.category.inspect config)
    (remedied : Config.Remedied config finding check subject changed)
    (sizes : check.category = .resource) :
    ∃ name tier, subject = .job name ∧ tier ∈ creditRates.map Prod.fst ∧
      finding.example? = some (Snippet.resourceClass name tier) ∧
      ∃ job ∈ changed.jobs, job.name = name ∧ job.resourceClass = some tier := by
  have about := remedied.isAbout
  rw [sizes] at found
  obtain ⟨name, tier, rfl, priced, shown, named⟩ :=
    ResourceClass.inspect_example_of_isAbout found about
  refine ⟨name, tier, rfl, priced, shown, ?_⟩
  cases remedied with
  | job jobs _ remedied =>
      cases remedied with
      | sizeNamed => exact ⟨_, List.mem_append_right _ List.mem_cons_self, rfl, named⟩
      | _ => cases sizes

/-- After a recommended change the analyzer of the finding finds nothing about its subject, and the
same as before, in the same order, about all other subjects. The size that a job is changed to is one
of the credit table, the one in the example of the finding. -/
theorem inspect_of_remedied {config changed : Config} {check : Check} {finding : Finding}
    {subject : Subject} (jobNames : (config.jobs.map (·.name)).Nodup)
    (workflowNames : (config.workflows.map (·.name)).Nodup)
    (found : finding ∈ check.category.inspect config)
    (remedied : Config.Remedied config finding check subject changed) :
    Analyzer.total check.category.analyzerName check.category.inspect ∈ Analyzer.builtin ∧
      finding.isAbout subject = true ∧
      check.category.inspect changed =
        (check.category.inspect config).filter (fun other => !other.isAbout subject) ∧
      (check.category = .resource → ∃ name tier, subject = .job name ∧
        tier ∈ creditRates.map Prod.fst ∧
        finding.example? = some (Snippet.resourceClass name tier) ∧
        ∃ job ∈ changed.jobs, job.name = name ∧ job.resourceClass = some tier) := by
  refine ⟨inspect_mem_builtin _, remedied.isAbout, ?_, resource_remedied found remedied⟩
  cases remedied with
  | job jobs _ remedied =>
      exact inspect_of_silent_job _ jobs jobNames (remedied.silences found)
  | workflow workflows _ _ approves =>
      refine inspect_of_silent_workflow _ workflows workflowNames ?_
      exact workflow_ofWorkflow_of_approved (List.mem_append_right _ List.mem_cons_self) approves

def restoring (keys : List String) : Step where
  node := .mapping [(.string "restore_cache",
    .mapping [(.string "keys", .sequence (keys.map .string))])]

def installing : Step where
  node := .mapping [(.string "run", .string "npm ci")]

def cachedInstall (keys : List String) : Job where
  name := "deps"
  steps := [restoring keys, installing]

def installers (keys : List String) : Config where
  jobs := [cachedInstall keys, { name := "deploy", steps := [installing] }]
  workflows := [⟨"deps", [{ name := "deps" }, { name := "deploy" }]⟩]

theorem inspect_of_remedied_installers :
    (cache.inspect (installers ["v1"])).map (·.id) =
        ["cache-weak-key-deps", "cache-missing-deploy"] ∧
      (cache.inspect (installers [Snippet.checksumKey .nodeJs, "v1"])).map (·.id) =
        ["cache-missing-deploy"] := by
  let job := cachedInstall ["v1"]
  let finding := DependencyCache.weakKey job
  let deploy : Job := { name := "deploy", steps := [installing] }
  have found : finding ∈ cache.inspect (installers ["v1"]) := by
    decide +kernel
  have remedied : Job.Remedied finding .weakCacheKey job
      (cachedInstall [Snippet.checksumKey .nodeJs, "v1"]) :=
    @Job.Remedied.keyAdded finding job [] [installing] (restoring ["v1"]) rfl [] ["v1"]
      (by decide +kernel) (Snippet.checksumKey .nodeJs) (by decide +kernel)
      (restoring [Snippet.checksumKey .nodeJs, "v1"]) (by decide +kernel)
  have followed := inspect_of_remedied (by decide) (by decide) found
    (@Config.Remedied.job (installers ["v1"]) finding .weakCacheKey [] [deploy] job _ rfl
      ⟨"weak-key", by decide, by decide⟩ remedied)
  refine ⟨by decide +kernel, ?_⟩
  have rest := congrArg (List.map fun finding => finding.id) followed.2.2.1
  refine rest.trans ?_
  decide +kernel

end Category

end PipelineAdvisor
