import PipelineAdvisor.Proofs.Analysis.Independence
import PipelineAdvisor.Proofs.Analysis.Selection
import PipelineAdvisor.Proofs.Finding.Totals
import PipelineAdvisor.Proofs.Rules.Outline

/-!
The order of steps. No word and no pattern is found across the comma between two steps, so a job shows
the same whatever order its steps stand in. Only two checks quote steps, and what they quote is all
that the order can change in a report.
-/

namespace PipelineAdvisor

open Check

def Job.Reordered (job other : Job) : Prop :=
  ∃ steps, steps.Perm job.steps ∧ other = { job with steps }

theorem Job.Reordered.showsSame {job other : Job} (reordered : job.Reordered other) :
    job.ShowsSame other := by
  obtain ⟨steps, same, rfl⟩ := reordered
  refine ⟨rfl, rfl, rfl, rfl, same.length_eq.symm, ?_, ?_⟩
  · intro test
    exact same.any_eq.symm
  · intro test splits _
    rw [Job.stepsText_test splits, Job.stepsText_test splits]
    exact same.any_eq.symm

def quotingOpenings : List (List Char) :=
  [Finding.idOpening .cache "weak-key", Finding.idOpening .practice "secret"]

/-- A finding without the text that quotes steps, if it has one. -/
def Finding.withoutQuotes (finding : Finding) : Finding :=
  if quotingOpenings.any fun opening => opening.isPrefixOf finding.id.toList then
    { finding with currentState := "" }
  else finding

namespace Finding

theorem withoutQuotes_of_quoting {finding : Finding} {category : Category} {rule subject : String}
    (quoting : idOpening category rule ∈ quotingOpenings)
    (id : finding.id = Finding.idOf category rule subject) :
    finding.withoutQuotes = { finding with currentState := "" } := by
  rw [withoutQuotes, if_pos]
  rw [List.any_eq_true]
  refine ⟨_, quoting, ?_⟩
  rw [id, idOf_toList, List.isPrefixOf_iff_prefix]
  exact List.prefix_append _ _

theorem withoutQuotes_cases (finding : Finding) :
    finding.withoutQuotes = { finding with currentState := "" } ∨
      finding.withoutQuotes = finding := by
  rw [withoutQuotes]
  split
  · exact Or.inl rfl
  · exact Or.inr rfl

theorem read_withoutQuotes {α : Type} (read : Finding → α)
    (blind : ∀ finding, read { finding with currentState := "" } = read finding)
    (finding : Finding) : read finding.withoutQuotes = read finding := by
  rcases finding.withoutQuotes_cases with cut | whole
  · rw [cut, blind]
  · rw [whole]

theorem map_of_withoutQuotes {α : Type} (read : Finding → α)
    (blind : ∀ finding, read { finding with currentState := "" } = read finding)
    {findings others : List Finding}
    (same : others.map withoutQuotes = findings.map withoutQuotes) :
    others.map read = findings.map read := by
  have seen : ∀ list : List Finding, (list.map withoutQuotes).map read = list.map read := by
    intro list
    rw [List.map_map]
    exact List.map_congr_left fun finding _ => read_withoutQuotes read blind finding
  rw [← seen others, same, seen findings]

theorem ranked_withoutQuotes (findings : List Finding) :
    ranked (findings.map withoutQuotes) = (ranked findings).map withoutQuotes := by
  have kept : ∀ finding : Finding, finding.withoutQuotes.priority = finding.priority ∧
      finding.withoutQuotes.score = finding.score := by
    intro finding
    exact ⟨read_withoutQuotes priority (fun _ => rfl) finding,
      read_withoutQuotes score (fun _ => rfl) finding⟩
  symm
  apply List.map_mergeSort
  intro first _ second _
  rw [mayPrecede, mayPrecede, (kept first).1, (kept first).2, (kept second).1, (kept second).2]

end Finding

open Finding (withoutQuotes withoutQuotes_of_quoting)

theorem DependencyCache.weakKey_withoutQuotes {job other : Job} (shows : job.ShowsSame other) :
    (weakKey other).withoutQuotes = (weakKey job).withoutQuotes := by
  rw [withoutQuotes_of_quoting (by simp [quotingOpenings]) rfl,
    withoutQuotes_of_quoting (by simp [quotingOpenings]) rfl]
  simp only [weakKey, ecosystem_of_showsSame shows, shows.name]

namespace HardcodedSecret

theorem finding_withoutQuotes {job other : Job} (name : job.name = other.name)
    (step otherStep : Step) (literal otherLiteral : List Char) :
    (finding other otherStep otherLiteral).withoutQuotes =
      (finding job step literal).withoutQuotes := by
  rw [withoutQuotes_of_quoting (by simp [quotingOpenings]) rfl,
    withoutQuotes_of_quoting (by simp [quotingOpenings]) rfl]
  simp only [finding, name]

theorem inspectJob?_withoutQuotes {job other : Job} (reordered : job.Reordered other) :
    (inspectJob? other).map withoutQuotes = (inspectJob? job).map withoutQuotes := by
  have name := reordered.showsSame.name
  have suspicious : (suspiciousStep? other).isSome = (suspiciousStep? job).isSome := by
    obtain ⟨steps, same, rfl⟩ := reordered
    rw [isSome_suspiciousStep?, isSome_suspiciousStep?]
    exact same.any_eq
  rw [inspectJob?, inspectJob?]
  cases here : suspiciousStep? job with
  | none =>
      rw [here, Option.isSome_none, Option.isSome_eq_false_iff, Option.isNone_iff_eq_none] at suspicious
      rw [suspicious]
      rfl
  | some found =>
      rw [here, Option.isSome_some, Option.isSome_iff_exists] at suspicious
      obtain ⟨otherFound, there⟩ := suspicious
      rw [there]
      exact congrArg some (finding_withoutQuotes name _ _ _ _)

end HardcodedSecret

theorem Check.ofJob_of_reordered (check : Check) (config : Config) {job other : Job}
    (reordered : job.Reordered other) :
    (check.ofJob config other).map withoutQuotes = (check.ofJob config job).map withoutQuotes := by
  have shows := reordered.showsSame
  cases quotes : check.quotesSteps with
  | false => rw [ofJob_of_showsSame quotes config shows]
  | true =>
      cases check with
      | weakCacheKey =>
          rw [ofJob, ofJob, DependencyCache.restoresCache_of_showsSame shows,
            DependencyCache.hasChecksumKey_of_showsSame shows]
          split
          · rw [List.map_singleton, List.map_singleton, DependencyCache.weakKey_withoutQuotes shows]
          · rfl
      | hardcodedSecret =>
          rw [ofJob, ofJob, ← Option.toList_map, ← Option.toList_map,
            HardcodedSecret.inspectJob?_withoutQuotes reordered]
      | _ => contradiction

theorem Check.emitted_of_reordered (check : Check) {config : Config} {jobs : List Job}
    (reordered : List.Forall₂ Job.Reordered config.jobs jobs) :
    (check.emitted { config with jobs }).map withoutQuotes =
      (check.emitted config).map withoutQuotes := by
  have ofJobs : ∀ own others : List Job, List.Forall₂ Job.Reordered own others →
      (others.flatMap (check.ofJob config)).map withoutQuotes =
        (own.flatMap (check.ofJob config)).map withoutQuotes := by
    intro own others each
    induction each with
    | nil => rfl
    | cons here _ ih =>
        rw [List.flatMap_cons, List.flatMap_cons, List.map_append, List.map_append, ih,
          check.ofJob_of_reordered config here]
  have sameOrbs : check.ofJob { config with jobs } = check.ofJob config :=
    funext (check.ofJob_of_orbs rfl)
  rw [emitted, emitted, sameOrbs, List.map_append, List.map_append, ofJobs _ _ reordered]

/-- Whatever the order of the steps inside jobs, a report lists findings of the same ids in the same
order with the same sums. Findings differ at most in the text that quotes cache keys or the first
suspicious step. -/
theorem analyze_of_reordered {config : Config} {jobs : List Job}
    (reordered : List.Forall₂ Job.Reordered config.jobs jobs) :
    let result := analyze config
    let other := analyze { config with jobs }
    other.findings.map (·.id) = result.findings.map (·.id) ∧
      other.total = result.total ∧ other.counts = result.counts ∧ other.savings = result.savings ∧
      other.faults = result.faults ∧
      other.findings.map withoutQuotes = result.findings.map withoutQuotes := by
  intro result other
  have findings : ∀ config : Config, (analyze config).findings.map withoutQuotes =
      Finding.ranked (executionOrder.flatMap fun check =>
        (check.emitted config).map withoutQuotes) := by
    intro config
    rw [analyze_findings_eq_ranked, ← Finding.ranked_withoutQuotes, List.map_flatMap]
  have same : other.findings.map withoutQuotes = result.findings.map withoutQuotes := by
    rw [findings, findings config]
    simp only [emitted_of_reordered _ reordered]
  have summed : result = summarize result.findings [] := analyze_eq_summarize config
  have otherSummed : other = summarize other.findings [] := analyze_eq_summarize _
  obtain ⟨total, counts, savings⟩ := summarize_of_map
    (Finding.map_of_withoutQuotes Finding.priority (fun _ => rfl) same)
    (Finding.map_of_withoutQuotes Finding.savings? (fun _ => rfl) same)
  rw [← summed, ← otherSummed] at total counts savings
  refine ⟨Finding.map_of_withoutQuotes Finding.id (fun _ => rfl) same, total, counts, savings, ?_,
    same⟩
  rw [summed, otherSummed]
  rfl

def installJob (order : Step → Step → Step → List Step) : Job where
  name := "build"
  executor := .docker none
  steps :=
    let restoring (key : String) : Step :=
      ⟨.mapping [(.string "restore_cache", .mapping [(.string "key", .string key)])]⟩
    order (restoring "gems") ⟨.mapping [(.null, .string "npm ci")]⟩ (restoring "packages")

theorem analyze_of_reordered_installs :
    let job := installJob fun gems install packages => [gems, install, packages]
    let other := installJob fun gems install packages => [packages, gems, install]
    List.Forall₂ Job.Reordered [job] [other] ∧
      (Check.all.flatMap fun check => check.emitted ⟨[job], [], []⟩).map (·.id) =
        ["cache-weak-key-build", "orbs-node-build", "resource-unspecified-build"] ∧
      (DependencyCache.weakKey job).currentState =
        "restore_cache in job 'build' uses: gems, packages" ∧
      (DependencyCache.weakKey other).currentState =
        "restore_cache in job 'build' uses: packages, gems" ∧
      (analyze ⟨[other], [], []⟩).findings.map (·.id) =
        (analyze ⟨[job], [], []⟩).findings.map (·.id) ∧
      (analyze ⟨[other], [], []⟩).savings = (analyze ⟨[job], [], []⟩).savings := by
  intro job other
  have reordered : job.Reordered other := by
    exact ⟨other.steps, @List.perm_append_comm _ [_] [_, _], rfl⟩
  have each : List.Forall₂ Job.Reordered [job] [other] := List.Forall₂.cons reordered .nil
  obtain ⟨ids, _, _, savings, _⟩ := @analyze_of_reordered ⟨[job], [], []⟩ [other] each
  exact ⟨each, by decide +kernel, by decide +kernel, by decide +kernel, ids, savings⟩

end PipelineAdvisor
