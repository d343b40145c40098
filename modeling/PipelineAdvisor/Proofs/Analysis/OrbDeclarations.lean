import Mathlib.Data.List.TakeWhile
import PipelineAdvisor.Proofs.Analysis.Identity
import PipelineAdvisor.Proofs.Analysis.Selection
import PipelineAdvisor.Proofs.Finding.Totals
import PipelineAdvisor.Proofs.Rules.OrbMatching

/-!
Declaring orbs. One more declaration takes the suggestions of its namespace out of the report, for all
jobs, and changes nothing else; so only the set of declared namespaces counts, not their order, their
number or the versions.
-/

namespace PipelineAdvisor

open Check

/-- The reference that a suggestion of an orb asks to declare, which stands in its advice between the
first word and the next blank. -/
def Finding.recommendedOrb? (finding : Finding) : Option String :=
  if finding.category = .orbs then
    some (String.ofList (Text.before ' ' (finding.recommendation.toList.drop "Declare ".length)))
  else none

def Finding.suggestsOrbOf (space : String) (finding : Finding) : Bool :=
  finding.recommendedOrb?.map orbNamespace == some space

theorem Text.before_append_mark (mark : Char) (front back : List Char) :
    before mark (front ++ mark :: back) = before mark front := by
  induction front with
  | nil => simp [before]
  | cons c rest ih =>
      by_cases same : c = mark
      · simp [before, same]
      · simpa [before, same] using ih

theorem orbNamespace_version (reference version : String) :
    orbNamespace (reference ++ "@" ++ version) = orbNamespace reference := by
  have text : (reference ++ "@" ++ version).toList = reference.toList ++ '@' :: version.toList := by
    simp [String.toList_append]
  rw [orbNamespace, orbNamespace, text, Text.before_append_mark]

theorem Config.declaresOrb_iff (config : Config) (space : String) :
    config.declaresOrb space = true ↔ space ∈ config.orbs.map orbNamespace := by
  simp [declaresOrb]

namespace OrbReuse

theorem recommendedOrb?_suggestion {pattern : Pattern} (known : pattern ∈ patterns) (job : Job) :
    (suggestion job pattern).recommendedOrb? = some pattern.reference := by
  have unbroken : ∀ pattern ∈ patterns, ' ' ∉ pattern.reference.toList := by decide +kernel
  have whole : Text.before ' ' pattern.reference.toList = pattern.reference.toList := by
    rw [Text.before, List.takeWhile_eq_self_iff]
    intro c inside
    rw [bne_iff_ne]
    rintro rfl
    exact unbroken pattern known inside
  have category : (suggestion job pattern).category = .orbs := rfl
  have advice : (suggestion job pattern).recommendation = "Declare " ++ pattern.reference ++
      " and replace the custom commands with its jobs and " ++ "commands." := by rfl
  have rest : " and replace the custom commands with its jobs and ".toList =
      ' ' :: "and replace the custom commands with its jobs and ".toList := by decide +kernel
  rw [Finding.recommendedOrb?, if_pos category, advice, String.toList_append, String.toList_append,
    String.toList_append, List.append_assoc, List.append_assoc,
    List.drop_left' String.length_toList, rest, List.cons_append, Text.before_append_mark, whole,
    String.ofList_toList]

theorem suggestsOrbOf_suggestion {pattern : Pattern} (known : pattern ∈ patterns) (job : Job)
    (space : String) :
    (suggestion job pattern).suggestsOrbOf space = (orbNamespace pattern.reference == space) := by
  rw [Finding.suggestsOrbOf, recommendedOrb?_suggestion known, Option.map_some, Option.some_beq_some]

theorem inspectJob_declaring {config declared : Config} {space : String}
    (declares : ∀ other, declared.declaresOrb other = (space == other || config.declaresOrb other))
    (job : Job) :
    inspectJob declared job =
      (inspectJob config job).filter fun finding => !finding.suggestsOrbOf space := by
  rw [inspectJob, inspectJob, List.filter_map, List.filter_filter]
  refine congrArg (List.map (suggestion job)) (List.filter_congr ?_)
  intro pattern known
  rw [Function.comp_apply, suggestsOrbOf_suggestion known, declares, Bool.beq_comm]
  cases pattern.matchesText (Text.lowerAscii job.stepsText) <;>
    cases space == orbNamespace pattern.reference <;> simp

end OrbReuse

namespace Check

theorem emitted_of_other {check : Check} (other : check ≠ orbReuse) {config declared : Config}
    (jobs : declared.jobs = config.jobs) (workflows : declared.workflows = config.workflows) :
    check.emitted declared = check.emitted config := by
  rw [emitted, emitted, jobs, workflows]
  cases check with
  | orbReuse => exact absurd rfl other
  | _ => rfl

theorem not_suggestsOrbOf_of_other {check : Check} (other : check ≠ orbReuse) {config : Config}
    {finding : Finding} (found : finding ∈ check.emitted config) (space : String) :
    finding.suggestsOrbOf space = false := by
  have categories : check.category ≠ .orbs := by
    cases check with
    | orbReuse => exact absurd rfl other
    | _ => simp [category]
  obtain ⟨_, form⟩ := exists_form_of_emitted found
  rw [Finding.suggestsOrbOf, Finding.recommendedOrb?, form.category, if_neg categories]
  rfl

theorem emitted_declaring (check : Check) {config declared : Config} {space : String}
    (jobs : declared.jobs = config.jobs) (workflows : declared.workflows = config.workflows)
    (declares : ∀ other, declared.declaresOrb other = (space == other || config.declaresOrb other)) :
    check.emitted declared =
      (check.emitted config).filter fun finding => !finding.suggestsOrbOf space := by
  by_cases ofOrbs : check = orbReuse
  · subst check
    rw [emitted_of_jobs (fun _ => rfl), emitted_of_jobs (fun _ => rfl), jobs, List.filter_flatMap]
    congr 1
    funext job
    exact OrbReuse.inspectJob_declaring declares job
  · rw [emitted_of_other ofOrbs jobs workflows, eq_comm, List.filter_eq_self]
    intro finding found
    rw [not_suggestsOrbOf_of_other ofOrbs found]
    rfl

end Check

theorem suggestsOrbOf_iff_suggestion {config : Config} {finding : Finding}
    (found : finding ∈ (analyze config).findings) (space : String) :
    finding.suggestsOrbOf space = true ↔ ∃ job ∈ config.jobs, ∃ pattern ∈ OrbReuse.patterns,
      orbNamespace pattern.reference = space ∧ finding = OrbReuse.suggestion job pattern := by
  constructor
  · intro suggests
    obtain ⟨check, _, emits⟩ :=
      List.mem_flatMap.mp ((analyze_findings_perm config).mem_iff.mp found)
    by_cases ofOrbs : check = orbReuse
    · subst check
      rw [emitted_of_jobs (fun _ => rfl)] at emits
      obtain ⟨job, inJobs, emits⟩ := List.mem_flatMap.mp emits
      simp only [ofJob, OrbReuse.inspectJob, List.mem_map, List.mem_filter] at emits
      obtain ⟨pattern, ⟨known, _⟩, rfl⟩ := emits
      rw [OrbReuse.suggestsOrbOf_suggestion known, beq_iff_eq] at suggests
      exact ⟨job, inJobs, pattern, known, suggests, rfl⟩
    · rw [not_suggestsOrbOf_of_other ofOrbs emits] at suggests
      contradiction
  · rintro ⟨job, _, pattern, known, rfl, rfl⟩
    rw [OrbReuse.suggestsOrbOf_suggestion known, beq_self_eq_true]

/-- What is left of a result when the suggestions of a namespace go. -/
structure WithoutSuggestions (space : String) (result declared : AnalysisResult) : Prop where
  findings : declared.findings = result.findings.filter fun finding => !finding.suggestsOrbOf space
  low : declared.counts.low + (result.findings.filter (Finding.suggestsOrbOf space)).length =
    result.counts.low
  high : declared.counts.high = result.counts.high
  medium : declared.counts.medium = result.counts.medium
  total : declared.total + (result.findings.filter (Finding.suggestsOrbOf space)).length =
    result.total
  savings : declared.savings = result.savings
  faults : declared.faults = result.faults

theorem withoutSuggestions_of_declares {config declared : Config} {space : String}
    (jobs : declared.jobs = config.jobs) (workflows : declared.workflows = config.workflows)
    (declares : ∀ other, declared.declaresOrb other = (space == other || config.declaresOrb other)) :
    WithoutSuggestions space (analyze config) (analyze declared) := by
  have left : (analyze declared).findings =
      (analyze config).findings.filter fun finding => !finding.suggestsOrbOf space := by
    rw [analyze_findings_eq_ranked, analyze_findings_eq_ranked, ← Finding.ranked_filter,
      List.filter_flatMap]
    simp only [emitted_declaring _ jobs workflows declares]
  have low : ∀ finding ∈ (analyze config).findings, finding.suggestsOrbOf space = true →
      finding.priority = .low ∧ finding.savings? = none := by
    intro finding found suggests
    obtain ⟨_, _, _, _, _, rfl⟩ := (suggestsOrbOf_iff_suggestion found space).mp suggests
    exact ⟨rfl, rfl⟩
  have lengths := List.length_eq_length_filter_add (l := (analyze config).findings)
    (Finding.suggestsOrbOf space)
  rw [analyze_eq_summarize declared, analyze_eq_summarize config, left]
  exact {
    findings := rfl
    low := countP_low_of_dropped low
    high := countP_priority_of_kept low (by decide)
    medium := countP_priority_of_kept low (by decide)
    total := by
      simp only [summarize]
      omega
    savings := totalSavings_of_dropped low
    faults := rfl }

theorem analyze_of_namespaces {orbs others : List String}
    (same : ∀ space, space ∈ orbs.map orbNamespace ↔ space ∈ others.map orbNamespace)
    (jobs : List Job) (workflows : List Workflow) :
    analyze ⟨jobs, workflows, orbs⟩ = analyze ⟨jobs, workflows, others⟩ := by
  have declares : ∀ space, Config.declaresOrb ⟨jobs, workflows, orbs⟩ space =
      Config.declaresOrb ⟨jobs, workflows, others⟩ space := by
    intro space
    rw [Bool.eq_iff_iff, Config.declaresOrb_iff, Config.declaresOrb_iff]
    exact same space
  apply analyze_of_emitted
  intro check
  rw [Check.emitted, Check.emitted, funext (check.ofJob_of_declares declares)]

/-- A further declaration, wherever it stands among the others, suppresses the suggestions of its
namespace for all jobs. The order of declarations, repetitions and versions make no difference. -/
theorem analyze_declaring (jobs : List Job) (workflows : List Workflow) (front back : List String)
    (reference : String) :
    let result := analyze ⟨jobs, workflows, front ++ back⟩
    let declared := analyze ⟨jobs, workflows, front ++ reference :: back⟩
    WithoutSuggestions (orbNamespace reference) result declared ∧
      (∀ finding ∈ result.findings, finding.suggestsOrbOf (orbNamespace reference) = true ↔
        ∃ job ∈ jobs, ∃ pattern ∈ OrbReuse.patterns,
          orbNamespace pattern.reference = orbNamespace reference ∧
            finding = OrbReuse.suggestion job pattern) ∧
      (∀ orbs, orbs.Perm (front ++ reference :: back) →
        analyze ⟨jobs, workflows, orbs⟩ = declared ∧
          analyze ⟨jobs, workflows, reference :: orbs⟩ = declared) ∧
      (∀ other, orbNamespace other = orbNamespace reference →
        analyze ⟨jobs, workflows, front ++ other :: back⟩ = declared) ∧
      ∀ version, orbNamespace (reference ++ "@" ++ version) = orbNamespace reference := by
  intro result declared
  refine ⟨?_, ?_, ?_, ?_, ?_⟩
  · have declares : ∀ other, Config.declaresOrb ⟨jobs, workflows, front ++ reference :: back⟩ other =
        (orbNamespace reference == other ||
          Config.declaresOrb ⟨jobs, workflows, front ++ back⟩ other) := by
      intro other
      simp only [Config.declaresOrb, List.any_append, List.any_cons]
      rw [Bool.or_left_comm]
    exact withoutSuggestions_of_declares rfl rfl declares
  · intro finding found
    exact suggestsOrbOf_iff_suggestion found _
  · intro orbs reordered
    have same : ∀ space, space ∈ orbs.map orbNamespace ↔
        space ∈ (front ++ reference :: back).map orbNamespace :=
      fun space => (reordered.map orbNamespace).mem_iff
    refine ⟨analyze_of_namespaces same jobs workflows, analyze_of_namespaces ?_ jobs workflows⟩
    intro space
    rw [List.map_cons, List.mem_cons, same space, or_iff_right_iff_imp]
    rintro rfl
    exact List.mem_map_of_mem (by simp)
  · intro other equal
    apply analyze_of_namespaces
    intro space
    simp [equal]
  · exact orbNamespace_version reference

theorem analyze_declaring_node :
    let job := OrbReuse.buildJob "npm ci && aws s3 ls"
    let suggestion := OrbReuse.suggestion job OrbReuse.nodePattern
    let result := analyze ⟨[job], [], ["circleci/slack@4.13"]⟩
    let declared := analyze ⟨[job], [], ["circleci/slack@4.13", "circleci/node"]⟩
    suggestion ∈ result.findings ∧ suggestion.suggestsOrbOf "circleci/node" = true ∧
      suggestion ∉ declared.findings ∧ declared.counts.low + 1 = result.counts.low ∧
      analyze ⟨[job], [], ["circleci/node", "circleci/slack@4.13"]⟩ = declared ∧
      analyze ⟨[job], [], ["circleci/slack@4.13", "circleci/node@5@2"]⟩ = declared := by
  intro job suggestion result declared
  have space : orbNamespace "circleci/node" = "circleci/node" := by decide +kernel
  have found : (result.findings.filter (Finding.suggestsOrbOf "circleci/node")).Perm
      [suggestion] := by
    have suggestions : (Check.all.flatMap fun check =>
        check.emitted ⟨[job], [], ["circleci/slack@4.13"]⟩).filter
          (Finding.suggestsOrbOf "circleci/node") = [suggestion] := by
      decide +kernel
    rw [← suggestions]
    exact (analyze_findings_perm _).filter _
  obtain ⟨listed, suggested⟩ := List.mem_filter.mp (found.mem_iff.mpr List.mem_cons_self)
  have single := found.length_eq
  obtain ⟨without, _, order, version, _⟩ :=
    analyze_declaring [job] [] ["circleci/slack@4.13"] [] "circleci/node"
  rw [space] at without
  have kept : declared.findings = result.findings.filter fun finding =>
      !finding.suggestsOrbOf "circleci/node" := without.findings
  have low : declared.counts.low +
      (result.findings.filter (Finding.suggestsOrbOf "circleci/node")).length =
        result.counts.low := without.low
  refine ⟨listed, suggested, ?_, ?_, ?_, ?_⟩
  · intro left
    rw [kept, List.mem_filter, suggested] at left
    exact Bool.noConfusion left.2
  · rwa [single] at low
  · exact (order _ (List.Perm.swap _ _ _)).1
  · exact version "circleci/node@5@2" (by decide +kernel)

end PipelineAdvisor
