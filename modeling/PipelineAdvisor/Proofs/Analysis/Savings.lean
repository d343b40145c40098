import PipelineAdvisor.Proofs.Analysis.Identity
import PipelineAdvisor.Proofs.Analysis.Selection
import PipelineAdvisor.Proofs.Finding.Promises

/-!
What a report as a whole promises, told by the counts of its findings. Every check but two promises
the same time with each of its findings, or none; a fan-out promises two minutes for each of its jobs,
up to ten; and only the first check promises lower costs, by one of four percentages.
-/

namespace PipelineAdvisor

open Check

/-- The number of findings of a rule, told by their ids. -/
def AnalysisResult.countOf (result : AnalysisResult) (category : Category) (rule : String) : Nat :=
  result.findings.countP fun finding =>
    (Finding.idOpening category rule).isPrefixOf finding.id.toList

def Workflow.fanOutMinutes (workflow : Workflow) : Nat :=
  let free := workflow.jobs.countP fun entry => entry.requires = []
  if 2 ≤ free then min (2 * free) 10 else 0

theorem Workflow.length_independentJobs (workflow : Workflow) :
    workflow.independentJobs.length = workflow.jobs.countP fun entry => entry.requires = [] := by
  rw [independentJobs, ← List.countP_eq_length_filter]
  exact List.countP_congr fun entry _ => by simp

/-- Below `2 ^ 31` jobs a product of 32 bits does not wrap around, so it gives the same minutes. -/
theorem Parallelism.fanOutMinutes_eq_uint32 {count : Nat} (few : count < 2 ^ 31) :
    fanOutMinutes count = min (2 * UInt32.ofNat count).toNat fanOutCap := by
  have product : (2 * UInt32.ofNat count).toNat = 2 * count := by
    have two : (2 : UInt32).toNat = 2 := rfl
    rw [UInt32.toNat_mul, two, UInt32.toNat_ofNat_of_lt' (Nat.lt_trans few (by decide))]
    exact Nat.mod_eq_of_lt (by omega)
  rw [fanOutMinutes, product]

namespace Check

def timeText? : Check → Option String
  | missingCache => some "2-5 min"
  | weakCacheKey => some "1-2 min"
  | testSplitting => some "40-50%"
  | layerCaching => some "3-8 min"
  | _ => none

def minutes (check : Check) : Nat :=
  (check.timeText?.bind leadingInteger?).getD 0

theorem minutes_eq (check : Check) : check.minutes =
    match check with
    | missingCache => 2
    | weakCacheKey => 1
    | testSplitting => 40
    | layerCaching => 3
    | _ => 0 := by
  cases check <;> decide +kernel

section Emitted

variable {config : Config} {check : Check} {finding : Finding}

theorem found_of_emitted (found : finding ∈ check.emitted config) :
    (∃ job, FoundInJob job check finding) ∨ ∃ workflow, FoundInWorkflow workflow check finding := by
  rcases List.mem_append.mp found with ofJobs | ofWorkflows
  · obtain ⟨job, _, inJob⟩ := List.mem_flatMap.mp ofJobs
    exact Or.inl ⟨job, foundInJob_of_mem inJob⟩
  · obtain ⟨workflow, _, inWorkflow⟩ := List.mem_flatMap.mp ofWorkflows
    exact Or.inr ⟨workflow, foundInWorkflow_of_mem inWorkflow⟩

theorem savings?_of_emitted (found : finding ∈ check.emitted config) :
    (check = oversizedTier ∧
        ∃ percent ∈ [50, 75, 88, 94], finding.savings? = some (Savings.cost percent)) ∨
      (check ≠ oversizedTier ∧ ∃ time? : Option String, finding.savings? = time?.map Savings.ofTime ∧
        (check ≠ fanOut → time? = check.timeText?)) := by
  rcases found_of_emitted found with ⟨job, form⟩ | ⟨workflow, form⟩
  · cases form with
    | oversizedTier found =>
        obtain ⟨_, _, _, percent, possible, promised, _⟩ := ResourceClass.oversized?_spec found
        exact Or.inl ⟨rfl, percent, possible, promised⟩
    | missingCache | weakCacheKey | testSplitting | layerCaching =>
        exact Or.inr ⟨by decide, some _, rfl, fun _ => rfl⟩
    | unspecifiedTier | orbReuse | hardcodedSecret =>
        exact Or.inr ⟨by decide, none, rfl, fun _ => rfl⟩
  · cases form with
    | fanOut => exact Or.inr ⟨by decide, some _, rfl, fun other => absurd rfl other⟩
    | missingApproval => exact Or.inr ⟨by decide, none, rfl, fun _ => rfl⟩

theorem countedMinutes_of_emitted (fixed : check ≠ fanOut) (found : finding ∈ check.emitted config) :
    finding.countedMinutes = check.minutes := by
  have time : finding.time? = check.timeText? := by
    rcases savings?_of_emitted found with ⟨rfl, percent, _, promised⟩ | ⟨_, time?, promised, same⟩
    · rw [Finding.time?, promised]
      rfl
    · rw [Finding.time?, promised, ← same fixed]
      cases time? <;> rfl
  rw [Finding.countedMinutes, time, minutes]

theorem costPercent?_of_emitted (found : finding ∈ check.emitted config) :
    (check = oversizedTier ∧ ∃ percent ∈ [50, 75, 88, 94], finding.costPercent? = some percent) ∨
      (check ≠ oversizedTier ∧ finding.costPercent? = none) := by
  rcases savings?_of_emitted found with ⟨first, percent, possible, promised⟩ |
    ⟨other, time?, promised, _⟩
  · refine Or.inl ⟨first, percent, possible, ?_⟩
    rw [Finding.costPercent?, promised]
    rfl
  · refine Or.inr ⟨other, ?_⟩
    rw [Finding.costPercent?, promised]
    cases time? <;> rfl

theorem sum_minutes_of_fixed (fixed : check ≠ fanOut) (config : Config) :
    ((check.emitted config).map Finding.countedMinutes).sum =
      check.minutes * (check.emitted config).length := by
  have each : ∀ minutes ∈ (check.emitted config).map Finding.countedMinutes,
      minutes = check.minutes := by
    rw [List.forall_mem_map]
    exact fun finding found => countedMinutes_of_emitted fixed found
  rw [List.sum_eq_card_nsmul _ _ each, List.length_map]
  exact Nat.mul_comm _ _

end Emitted

theorem fanOut_countedMinutes (workflow : Workflow) {jobs : List String} (several : 2 ≤ jobs.length) :
    (Parallelism.fanOut workflow jobs).countedMinutes = min (2 * jobs.length) 10 := by
  have time : (Parallelism.fanOut workflow jobs).time? =
      some s!"{min (2 * jobs.length) 10} min" := rfl
  have possible : min (2 * jobs.length) 10 ∈ [4, 6, 8, 10] := by
    simp only [List.mem_cons, List.not_mem_nil, or_false]
    omega
  have read : ∀ minutes ∈ [4, 6, 8, 10], leadingInteger? s!"{minutes} min" = some minutes := by
    decide +kernel
  rw [Finding.countedMinutes, time, Option.bind_some, read _ possible]
  rfl

theorem fanOut_ofWorkflow_minutes (workflow : Workflow) :
    ((fanOut.ofWorkflow workflow).map Finding.countedMinutes).sum = workflow.fanOutMinutes := by
  rw [ofWorkflow, Parallelism.inspectWorkflow?, Workflow.fanOutMinutes,
    ← Workflow.length_independentJobs]
  simp only [List.length_map]
  by_cases several : 2 ≤ workflow.independentJobs.length
  · have named : 2 ≤ (workflow.independentJobs.map (·.name)).length := by
      rwa [List.length_map]
    have promised := fanOut_countedMinutes workflow named
    rw [List.length_map] at promised
    rw [if_pos several, if_neg (Nat.not_lt.mpr several), Option.toList_some, List.map_singleton,
      List.sum_singleton, promised]
  · rw [if_neg several, if_pos (Nat.lt_of_not_le several)]
    rfl

theorem sum_minutes_flatMap {α : Type} (found : α → List Finding) (subjects : List α) :
    ((subjects.flatMap found).map Finding.countedMinutes).sum =
      (subjects.map fun subject => ((found subject).map Finding.countedMinutes).sum).sum := by
  rw [List.map_flatMap, List.flatMap_def, List.sum_flatten, List.map_map]
  rfl

theorem sum_minutes_fanOut (config : Config) :
    ((fanOut.emitted config).map Finding.countedMinutes).sum =
      (config.workflows.map Workflow.fanOutMinutes).sum := by
  rw [emitted_of_workflows (fun _ _ => rfl), sum_minutes_flatMap]
  simp only [fanOut_ofWorkflow_minutes]

theorem idOpening_isPrefixOf_iff {config : Config} {check other : Check} {rule : String}
    {finding : Finding} (only : check.names = [rule]) (found : finding ∈ other.emitted config) :
    (Finding.idOpening check.category rule).isPrefixOf finding.id.toList = true ↔ other = check := by
  obtain ⟨subject, form⟩ := exists_form_of_emitted found
  obtain ⟨otherRule, otherKnown, id⟩ := form.id
  have known : rule ∈ check.names := only ▸ List.mem_singleton.mpr rfl
  rw [id, Finding.idOf_toList, List.isPrefixOf_iff_prefix]
  constructor
  · intro begins
    have own := List.prefix_append (Finding.idOpening other.category otherRule) subject.toList
    rcases List.prefix_or_prefix_of_prefix begins own with shorter | longer
    · exact (idOpening_prefixFree check (mem_all check) rule known other (mem_all other) otherRule
        otherKnown (List.isPrefixOf_iff_prefix.mpr shorter)).1.symm
    · exact (idOpening_prefixFree other (mem_all other) otherRule otherKnown check (mem_all check)
        rule known (List.isPrefixOf_iff_prefix.mpr longer)).1
  · rintro rfl
    rw [only, List.mem_singleton] at otherKnown
    rw [otherKnown]
    exact List.prefix_append _ _

end Check

theorem mem_analyze_findings {config : Config} {finding : Finding} :
    finding ∈ (analyze config).findings ↔ ∃ check : Check, finding ∈ check.emitted config := by
  rw [(analyze_findings_perm config).mem_iff, List.mem_flatMap]
  exact exists_congr fun check => and_iff_right (mem_all check)

theorem countOf_eq_length (check : Check) (category : Category) (rule : String)
    (own : check.category = category) (only : check.names = [rule]) (config : Config) :
    (analyze config).countOf category rule = (check.emitted config).length := by
  subst own
  have here : ∀ other : Check, (other.emitted config).countP (fun finding =>
      (Finding.idOpening check.category rule).isPrefixOf finding.id.toList) =
        if other = check then (check.emitted config).length else 0 := by
    intro other
    split
    next same =>
      subst same
      rw [List.countP_eq_length]
      exact fun finding found => (idOpening_isPrefixOf_iff only found).mpr rfl
    next differ =>
      rw [List.countP_eq_zero]
      exact fun finding found begins => differ ((idOpening_isPrefixOf_iff only found).mp begins)
  rw [AnalysisResult.countOf, (analyze_findings_perm config).countP_eq, List.countP_flatMap]
  simp only [Function.comp_def, here]
  cases check <;> simp [Check.all]

theorem analyze_savings_eq (config : Config) :
    (analyze config).savings = totalSavings (analyze config).findings :=
  congrArg AnalysisResult.savings (analyze_eq_summarize config)

theorem analyze_minutes_eq (config : Config) : (analyze config).savings.minutes =
    min 30 (2 * (missingCache.emitted config).length + (weakCacheKey.emitted config).length +
      40 * (testSplitting.emitted config).length + 3 * (layerCaching.emitted config).length +
        (config.workflows.map Workflow.fanOutMinutes).sum) := by
  have total := ((analyze_findings_perm config).map Finding.countedMinutes).sum_eq
  rw [sum_minutes_flatMap] at total
  simp only [Check.all, List.map_cons, List.map_nil, List.sum_cons, List.sum_nil,
    sum_minutes_fanOut, sum_minutes_of_fixed, ne_eq, reduceCtorEq, not_false_eq_true,
    minutes_eq] at total
  rw [analyze_savings_eq, totalSavings_minutes_eq, total]
  omega

theorem analyze_percents (config : Config) :
    ((analyze config).findings.filterMap Finding.costPercent?).length =
        (oversizedTier.emitted config).length ∧
      ∀ percent ∈ (analyze config).findings.filterMap Finding.costPercent?,
        percent ∈ [50, 75, 88, 94] := by
  constructor
  · rw [← countOf_eq_length oversizedTier .resource "oversized" rfl rfl, AnalysisResult.countOf,
      List.length_filterMap_eq_countP]
    apply List.countP_congr
    intro finding found
    obtain ⟨check, emits⟩ := mem_analyze_findings.mp found
    have own : (Finding.idOpening .resource "oversized").isPrefixOf finding.id.toList = true ↔
        check = oversizedTier := @idOpening_isPrefixOf_iff _ oversizedTier _ _ _ rfl emits
    rw [own]
    rcases costPercent?_of_emitted emits with ⟨first, percent, _, promised⟩ | ⟨other, none⟩
    · simp [first, promised]
    · simp [other, none]
  · intro percent known
    obtain ⟨finding, found, promised⟩ := List.mem_filterMap.mp known
    obtain ⟨check, emits⟩ := mem_analyze_findings.mp found
    rcases costPercent?_of_emitted emits with ⟨_, other, possible, same⟩ | ⟨_, none⟩
    · rw [same] at promised
      exact Option.some.inj promised ▸ possible
    · rw [none] at promised
      cases promised

theorem meanPercent_range {percents : List Nat} (filled : percents ≠ [])
    (few : percents.length < 2 ^ 46) (possible : ∀ percent ∈ percents, percent ∈ [50, 75, 88, 94]) :
    50 ≤ meanPercent percents ∧ meanPercent percents ≤ 94 := by
  have range : ∀ percent ∈ percents, 50 ≤ percent ∧ percent ≤ 94 := by
    have all : ∀ percent ∈ [50, 75, 88, 94], 50 ≤ percent ∧ percent ≤ 94 := by decide
    exact fun percent known => all percent (possible percent known)
  have positive : 0 < percents.length := List.length_pos_iff.mpr filled
  have least := List.card_nsmul_le_sum percents 50 fun percent known => (range percent known).1
  have most := List.sum_le_card_nsmul percents 94 fun percent known => (range percent known).2
  have mean := meanPercent_eq 46 (by decide) few fun percent known =>
    Nat.lt_of_le_of_lt (range percent known).2 (by decide)
  have lower : 50 ≤ (2 * percents.sum + percents.length) / (2 * percents.length) := by
    rw [Nat.le_div_iff_mul_le (by omega)]
    change percents.length * 50 ≤ percents.sum at least
    omega
  have upper : (2 * percents.sum + percents.length) / (2 * percents.length) < 95 := by
    rw [Nat.div_lt_iff_lt_mul (by omega)]
    change percents.sum ≤ percents.length * 94 at most
    omega
  omega

/-- The time that a report promises follows from the counts of its findings and of the entries of its
workflows that wait for nothing; a single finding about tests is enough for the most minutes. The cost is zero without
oversized tiers, and otherwise lies between the smallest and the largest percentage; from `2 ^ 46` of
them on, far more than a memory holds, their sum could leave the exact doubles. -/
theorem analyze_savings (config : Config) :
    let result := analyze config
    result.savings.minutes =
        min 30 (2 * result.countOf .cache "missing" + result.countOf .cache "weak-key" +
          40 * result.countOf .parallel "tests" + 3 * result.countOf .layerCache "disabled" +
            (config.workflows.map fun workflow =>
              let free := workflow.jobs.countP fun entry => entry.requires = []
              if 2 ≤ free then min (2 * free) 10 else 0).sum) ∧
      (result.countOf .resource "oversized" = 0 → result.savings.costPercent = 0) ∧
      (result.countOf .resource "oversized" ≠ 0 → result.countOf .resource "oversized" < 2 ^ 46 →
        50 ≤ result.savings.costPercent ∧ result.savings.costPercent ≤ 94) ∧
      (result.countOf .parallel "tests" ≠ 0 → result.savings.minutes = 30) := by
  intro result
  have minutes : result.savings.minutes =
      min 30 (2 * result.countOf .cache "missing" + result.countOf .cache "weak-key" +
        40 * result.countOf .parallel "tests" + 3 * result.countOf .layerCache "disabled" +
          (config.workflows.map Workflow.fanOutMinutes).sum) := by
    have missing := countOf_eq_length missingCache .cache "missing" rfl rfl config
    have weak := countOf_eq_length weakCacheKey .cache "weak-key" rfl rfl config
    have tests := countOf_eq_length testSplitting .parallel "tests" rfl rfl config
    have layers := countOf_eq_length layerCaching .layerCache "disabled" rfl rfl config
    rw [analyze_minutes_eq, ← missing, ← weak, ← tests, ← layers]
  have count : result.countOf .resource "oversized" = (oversizedTier.emitted config).length :=
    countOf_eq_length oversizedTier .resource "oversized" rfl rfl config
  obtain ⟨length, possible⟩ := analyze_percents config
  have cost : result.savings.costPercent =
      meanPercent (result.findings.filterMap Finding.costPercent?) :=
    congrArg SavingsSummary.costPercent (analyze_savings_eq config)
  refine ⟨minutes, ?_, ?_, ?_⟩
  · intro none
    rw [cost, List.length_eq_zero_iff.mp (length.trans (count.symm.trans none))]
    rfl
  · intro some few
    rw [cost]
    apply meanPercent_range ?_ ?_ possible
    · intro empty
      rw [count, ← length, empty] at some
      exact some rfl
    · rw [length, ← count]
      exact few
  · intro tests
    omega

def onlyTests : Config where
  jobs := [{ name := "tests", executor := .docker none }]

/-- Installing dependencies without a cache and with a fixed key, and building an image on a large
executor. In the workflows two, six and one of the entries wait for nothing. -/
def manyRemedies : Config where
  jobs := [
    { name := "install", steps := [⟨.mapping [(.string "run", .string "npm ci")]⟩] },
    { name := "restore"
      steps := [
        ⟨.mapping [(.string "restore_cache", .mapping [(.string "key", .string "v1")])]⟩,
        ⟨.mapping [(.string "run", .string "npm ci")]⟩] },
    { name := "image", executor := .docker none, resourceClass := some "xlarge"
      steps := [⟨.mapping [(.string "run", .string "docker build .")]⟩] }]
  workflows := [
    ⟨"pair", [{ name := "install" }, { name := "restore" }]⟩,
    ⟨"wide", ["a", "b", "c", "d", "e", "f"].map fun name => { name }⟩,
    ⟨"chain", [{ name := "install" }, { name := "image", requires := ["install"] }]⟩]

theorem analyze_savings_manyRemedies :
    let savings := (analyze manyRemedies).savings
    savings.minutes = 2 + 1 + 3 + (4 + 10) ∧ 50 ≤ savings.costPercent ∧ savings.costPercent ≤ 94 ∧
      (analyze onlyTests).savings.minutes = 30 ∧ (analyze onlyTests).savings.costPercent = 0 := by
  obtain ⟨minutes, _, cost, _⟩ := analyze_savings manyRemedies
  obtain ⟨_, free, _, most⟩ := analyze_savings onlyTests
  rw [countOf_eq_length missingCache .cache "missing" rfl rfl,
    countOf_eq_length weakCacheKey .cache "weak-key" rfl rfl,
    countOf_eq_length testSplitting .parallel "tests" rfl rfl,
    countOf_eq_length layerCaching .layerCache "disabled" rfl rfl] at minutes
  rw [countOf_eq_length oversizedTier .resource "oversized" rfl rfl] at cost free
  rw [countOf_eq_length testSplitting .parallel "tests" rfl rfl] at most
  have emitted : ([missingCache, weakCacheKey, testSplitting, layerCaching, oversizedTier].map
      fun check => (check.emitted manyRemedies).length) = [1, 1, 0, 1, 1] := by
    decide +kernel
  have only : (testSplitting.emitted onlyTests).length = 1 ∧
      (oversizedTier.emitted onlyTests).length = 0 := by
    decide +kernel
  simp only [List.map_cons, List.map_nil, List.cons.injEq, and_true] at emitted
  obtain ⟨missing, weak, tests, layers, oversized⟩ := emitted
  rw [missing, weak, tests, layers] at minutes
  refine ⟨minutes, ?_, ?_, most (by omega), free only.2⟩
  · exact (cost (by omega) (by omega)).1
  · exact (cost (by omega) (by omega)).2

end PipelineAdvisor
