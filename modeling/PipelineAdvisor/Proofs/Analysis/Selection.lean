import PipelineAdvisor.Settings.Basic
import PipelineAdvisor.Proofs.Analysis.Isolation
import PipelineAdvisor.Proofs.Analysis.ReportOrder

/-!
Leaving out analyzers. All findings of an analyzer have categories that no other analyzer reports, and
leaving findings out keeps the order of the rest; so a run without some analyzers reports what a full
run reports in the other categories.
-/

namespace PipelineAdvisor

def Category.analyzerName : Category → String
  | .resource => "resource-class"
  | .cache => "cache"
  | .parallel => "parallelism"
  | .layerCache => "docker-layer-cache"
  | .orbs => "orbs"
  | .workflow => "workflow"
  | .practice => "best-practices"

namespace Analyzer

open Check

/-- An analyzer that never fails and reports no category of another analyzer. -/
def StaysInCategories (analyzer : Analyzer) (config : Config) : Prop :=
  ∃ findings, analyzer.inspect config = .ok findings ∧
    ∀ finding ∈ findings, finding.category.analyzerName = analyzer.name

section Total

variable {name : String} {inspect : Config → List Finding} {config : Config}

theorem staysInCategories_of_jobs {first second : Check} {inspectJob : Job → List Finding}
    (parts : ∀ job, inspectJob job = first.ofJob config job ++ second.ofJob config job)
    (jobs : inspect config = config.jobs.flatMap inspectJob)
    (named : first.category.analyzerName = name ∧ second.category.analyzerName = name) :
    (total name inspect).StaysInCategories config := by
  refine ⟨inspect config, rfl, ?_⟩
  intro finding found
  rw [jobs] at found
  obtain ⟨job, _, inJob⟩ := List.mem_flatMap.mp found
  rw [parts] at inJob
  rcases List.mem_append.mp inJob with inFirst | inSecond
  · rw [(ofJob_form inFirst).category]
    exact named.1
  · rw [(ofJob_form inSecond).category]
    exact named.2

theorem staysInCategories_of_emitted (checks : List Check)
    (emits : inspect config = checks.flatMap fun check => check.emitted config)
    (named : ∀ check ∈ checks, check.category.analyzerName = name) :
    (total name inspect).StaysInCategories config := by
  refine ⟨inspect config, rfl, ?_⟩
  intro finding found
  rw [emits] at found
  obtain ⟨check, known, found⟩ := List.mem_flatMap.mp found
  obtain ⟨_, form⟩ := exists_form_of_emitted found
  rw [form.category]
  exact named check known

end Total

theorem builtin_staysInCategories {analyzer : Analyzer} (known : analyzer ∈ builtin)
    (config : Config) : analyzer.StaysInCategories config := by
  simp only [builtin, List.mem_cons, List.not_mem_nil, or_false] at known
  rcases known with rfl | rfl | rfl | rfl | rfl | rfl | rfl
  · exact staysInCategories_of_jobs (resourceClass_inspectJob config) rfl ⟨rfl, rfl⟩
  · exact staysInCategories_of_jobs (dependencyCache_inspectJob config) rfl ⟨rfl, rfl⟩
  · apply staysInCategories_of_emitted [testSplitting, fanOut]
    · simp [parallelism_inspect]
    · decide
  · apply staysInCategories_of_emitted [layerCaching]
    · simp [layerCaching_inspect]
    · decide
  · apply staysInCategories_of_emitted [orbReuse]
    · simp [orbReuse_inspect]
    · decide
  · apply staysInCategories_of_emitted [missingApproval]
    · simp [approvalGate_inspect]
    · decide
  · apply staysInCategories_of_emitted [hardcodedSecret]
    · simp [hardcodedSecret_inspect]
    · decide

end Analyzer

namespace Analysis

theorem findingsOf_filter {analyzers : List Analyzer} {config : Config} (kept : String → Bool)
    (stays : ∀ analyzer ∈ analyzers, analyzer.StaysInCategories config) :
    findingsOf (outcomes (analyzers.filter fun analyzer => kept analyzer.name) config) =
      (findingsOf (outcomes analyzers config)).filter fun finding =>
        kept finding.category.analyzerName := by
  have parts : ∀ list : List Analyzer, findingsOf (outcomes list config) =
      list.flatMap fun analyzer => findingsOf [analyzer.outcome config] := by
    intro list
    simp [findingsOf, outcomes, List.flatMap_map]
  rw [parts, parts]
  apply Check.flatMap_filter
  intro analyzer known finding found
  obtain ⟨findings, inspected, categories⟩ := stays analyzer known
  have gave : findingsOf [analyzer.outcome config] = findings := by
    rw [Analyzer.outcome, inspected]
    exact List.append_nil findings
  rw [gave] at found
  rw [categories finding found]

theorem faultsOf_eq_nil {analyzers : List Analyzer} {config : Config}
    (stays : ∀ analyzer ∈ analyzers, analyzer.StaysInCategories config) :
    faultsOf (outcomes analyzers config) = [] := by
  rw [faultsOf, outcomes, List.filterMap_map, List.filterMap_eq_nil_iff]
  intro analyzer known
  obtain ⟨findings, inspected, _⟩ := stays analyzer known
  rw [Function.comp_apply, Analyzer.outcome, inspected]
  rfl

end Analysis

theorem analyze_eq_summarize (config : Config) :
    analyze config = summarize (analyze config).findings [] := by
  have faults : Analysis.faultsOf (Analysis.outcomes Analyzer.builtin config) = [] :=
    Analysis.faultsOf_eq_nil fun _ known => Analyzer.builtin_staysInCategories known config
  rw [analyze, Analysis.run, if_neg Bool.false_ne_true, Analysis.resultOf, faults]
  rfl

theorem analyze_of_emitted {config other : Config}
    (same : ∀ check : Check, check.emitted config = check.emitted other) :
    analyze config = analyze other := by
  rw [analyze_eq_summarize config, analyze_eq_summarize other, analyze_findings_eq_ranked,
    analyze_findings_eq_ranked]
  simp only [same]

namespace Settings

theorem not_isDisabled (settings : Settings) (name : String) :
    (!settings.isDisabled name) = decide (name ∉ settings.disabledAnalyzers) := by
  simp [isDisabled]

/-- A run by settings reports what the full run reports, in the same order, without the categories of
disabled analyzers, and sums up what is left; names of no analyzer do not matter. -/
theorem analyze_eq_filtered (settings : Settings) (config : Config) :
    settings.analyze config = summarize ((PipelineAdvisor.analyze config).findings.filter
        fun finding => finding.category.analyzerName ∉ settings.disabledAnalyzers) [] ∧
      (∀ schedule : Analysis.Schedule settings.analyzers.length,
        Analysis.runBy settings.analyzers schedule config = settings.analyze config) ∧
      (∀ analyzer ∈ Analyzer.builtin, analyzer.StaysInCategories config) ∧
      { settings with
        disabledAnalyzers := settings.disabledAnalyzers.filter
          fun name => Analyzer.builtinNames.contains name }.analyze config =
        settings.analyze config := by
  have filtered : ∀ settings : Settings, settings.analyze config =
      summarize ((PipelineAdvisor.analyze config).findings.filter
        fun finding => finding.category.analyzerName ∉ settings.disabledAnalyzers) [] := by
    intro settings
    have stays : ∀ analyzer ∈ Analyzer.builtin, analyzer.StaysInCategories config :=
      fun _ known => Analyzer.builtin_staysInCategories known config
    have findings := Analysis.findingsOf_filter (fun name => !settings.isDisabled name) stays
    have faults : Analysis.faultsOf (Analysis.outcomes settings.analyzers config) = [] :=
      Analysis.faultsOf_eq_nil fun analyzer known => stays analyzer (List.mem_of_mem_filter known)
    rw [analyze, ← Analysis.runBy_eq_run _ .sequential, Analysis.runBy, Analysis.resultOf, faults,
      analyzers, findings, Finding.ranked_filter]
    simp only [not_isDisabled]
    rfl
  refine ⟨filtered settings, fun schedule => Analysis.runBy_eq_run _ schedule _ config,
    fun _ known => Analyzer.builtin_staysInCategories known config, ?_⟩
  have known : ∀ category : Category,
      Analyzer.builtinNames.contains category.analyzerName = true := by
    intro category
    cases category <;> decide
  rw [filtered, filtered settings]
  congr 2
  funext finding
  have listed := List.contains_iff_mem.mp (known finding.category)
  simp [listed]

end Settings

end PipelineAdvisor
