import Mathlib.Data.List.Find
import PipelineAdvisor.Proofs.Pipeline.Spelling
import PipelineAdvisor.Proofs.Rules.Emission
import PipelineAdvisor.Proofs.Rules.LongRuns
import PipelineAdvisor.Proofs.Rules.OrbMatching

/-!
What the checks see of a job. They read the fields, what each step does, and the telling pieces of its
text; no keyword, pattern or suspicious literal is found across the punctuation around these pieces, or
in the keys that only one spelling has. So they find the same in jobs that agree in all this.
-/

namespace PipelineAdvisor

open Text (PartsAt SplitsAt)

/-- A word that is found neither across punctuation nor in the key of a spelling. -/
def isKeyword (word : List Char) : Bool :=
  !word.isEmpty && Json.isUnmarked word &&
    Json.spellingKeys.all fun key => !Text.occursIn word key.toList

theorem isKeyword_filled {word : List Char} (keyword : isKeyword word = true) : word ≠ [] := by
  simp only [isKeyword, Bool.and_eq_true, Bool.not_eq_true', List.isEmpty_eq_false_iff] at keyword
  exact keyword.1.1

theorem isKeyword_splitsAt {word : List Char} (keyword : isKeyword word = true) :
    SplitsAt Json.IsMark (Text.occursIn word) := by
  have filled := isKeyword_filled keyword
  simp only [isKeyword, Bool.and_eq_true] at keyword
  exact Text.occursIn_splitsAt filled (Json.not_mem_of_isUnmarked keyword.1.2)

theorem isKeyword_blind {word : List Char} (keyword : isKeyword word = true) :
    ∀ key ∈ Json.spellingKeys, Text.occursIn word key.toList = false := by
  simp only [isKeyword, Bool.and_eq_true, List.all_eq_true, Bool.not_eq_true'] at keyword
  exact keyword.2

theorem lowerAscii_spellingKey : ∀ key ∈ Json.spellingKeys,
    Text.lowerAscii key.toList = key.toList := by
  decide

namespace HardcodedSecret

theorem firstLongRun?_partsAt : PartsAt Json.IsMark firstLongRun? := by
  apply firstLongRun?_splits.mono
  intro mark known
  have all : Json.marks.all (fun mark => !mark.isAlphanum) = true := by decide
  simpa using List.all_eq_true.mp all mark known

theorem candidate?_of_outline {step other : Step} (same : step.outline = other.outline) :
    candidate? step.serialized = candidate? other.serialized := by
  have keywords : ∀ mark ∈ interpolationMarks, isKeyword mark.toList = true := by decide
  have marked : (interpolationMarks.any fun mark => Text.occursIn mark.toList step.serialized) =
      interpolationMarks.any fun mark => Text.occursIn mark.toList other.serialized := by
    rw [Bool.eq_iff_iff, List.any_eq_true, List.any_eq_true]
    refine exists_congr fun mark => and_congr_right fun known => ?_
    rw [Step.serialized_test_of_outline (isKeyword_splitsAt (keywords mark known))
      (isKeyword_blind (keywords mark known)) same]
  rw [candidate?, candidate?, marked]
  congr 1
  exact Step.serialized_find_of_outline firstLongRun?_partsAt (by decide +kernel) same

end HardcodedSecret

/-- Jobs that agree in all that the checks see. -/
structure Job.Alike (job other : Job) : Prop where
  name : job.name = other.name
  executor : job.executor = other.executor
  resourceClass : job.resourceClass = other.resourceClass
  parallelism : job.parallelism = other.parallelism
  outlines : job.steps.map Step.outline = other.steps.map Step.outline

/-- Jobs that show the same to a check that only asks how many steps there are, whether one of them is
of a kind, and whether a word or a pattern stands in the text of the job. -/
structure Job.ShowsSame (job other : Job) : Prop where
  name : job.name = other.name
  executor : job.executor = other.executor
  resourceClass : job.resourceClass = other.resourceClass
  parallelism : job.parallelism = other.parallelism
  length : job.steps.length = other.steps.length
  kinds : ∀ test : StepKind → Bool,
    (job.steps.any fun step => test step.kind) = other.steps.any fun step => test step.kind
  texts : ∀ test, SplitsAt Json.IsMark test →
    (∀ key ∈ Json.spellingKeys, test key.toList = false) → test job.stepsText = test other.stepsText

namespace Job.Alike

variable {job other : Job}

theorem views_eq {α : Type} (alike : job.Alike other) {view otherView : Step → α}
    (agree : ∀ step otherStep, step.outline = otherStep.outline →
      view step = otherView otherStep) :
    job.steps.map view = other.steps.map otherView := by
  have outlines := alike.outlines
  generalize job.steps = steps at outlines
  generalize other.steps = otherSteps at outlines
  induction steps generalizing otherSteps with
  | nil =>
      cases otherSteps with
      | nil => rfl
      | cons otherStep otherRest => simp at outlines
  | cons step rest ih =>
      cases otherSteps with
      | nil => simp at outlines
      | cons otherStep otherRest =>
          obtain ⟨same, later⟩ := List.cons.inj outlines
          rw [List.map_cons, List.map_cons, agree _ _ same, ih _ later]

theorem kinds_eq (alike : job.Alike other) : job.steps.map Step.kind = other.steps.map Step.kind :=
  alike.views_eq fun _ _ same => (Prod.mk.inj same).1

theorem stepsText_test_eq (alike : job.Alike other) {test : List Char → Bool}
    (splits : SplitsAt Json.IsMark test)
    (blind : ∀ key ∈ Json.spellingKeys, test key.toList = false) :
    test job.stepsText = test other.stepsText := by
  have views : job.steps.map (fun step => step.pieces.any test) =
      other.steps.map fun step => step.pieces.any test := by
    apply alike.views_eq
    intro step otherStep same
    rw [← Step.serialized_test splits, ← Step.serialized_test splits]
    exact Step.serialized_test_of_outline splits blind same
  have found := congrArg (List.any · id) views
  rw [Job.stepsText_test splits, Job.stepsText_test splits]
  rwa [List.any_map, List.any_map] at found

theorem showsSame (alike : job.Alike other) : job.ShowsSame other where
  name := alike.name
  executor := alike.executor
  resourceClass := alike.resourceClass
  parallelism := alike.parallelism
  length := by
    have lengths := congrArg List.length alike.outlines
    rwa [List.length_map, List.length_map] at lengths
  kinds := by
    intro test
    have kinds := congrArg (List.any · test) alike.kinds_eq
    rwa [List.any_map, List.any_map] at kinds
  texts := fun _ splits blind => alike.stepsText_test_eq splits blind

end Job.Alike

section Rules

variable {job other : Job}

theorem Job.ShowsSame.any_kinds (shows : job.ShowsSame other) (test : StepKind → Bool) :
    (job.steps.map Step.kind).any test = (other.steps.map Step.kind).any test := by
  rw [List.any_map, List.any_map]
  exact shows.kinds test

theorem Job.ShowsSame.occursIn_eq (shows : job.ShowsSame other) {word : List Char}
    (keyword : isKeyword word = true) :
    Text.occursIn word (Text.lowerAscii job.stepsText) =
      Text.occursIn word (Text.lowerAscii other.stepsText) := by
  have splits := (isKeyword_splitsAt keyword).lowered fun mark known =>
    (OrbReuse.isMark_ordinary mark known).1
  apply shows.texts _ splits
  intro key known
  rw [lowerAscii_spellingKey key known]
  exact isKeyword_blind keyword key known

theorem ResourceClass.oversized?_of_showsSame (shows : job.ShowsSame other) :
    oversized? job = oversized? other := by
  have tier : job.tier = other.tier := by rw [Job.tier, Job.tier, shows.resourceClass]
  simp only [oversized?, tier, shows.name, shows.length]

namespace DependencyCache

theorem detectInstall?_of_showsSame (shows : job.ShowsSame other) :
    detectInstall? job.stepsText = detectInstall? other.stepsText := by
  have keywords : ∀ entry ∈ installCommands, isKeyword entry.1.toList = true := by decide
  exact List.find?_congr fun entry known => shows.occursIn_eq (keywords entry known)

theorem restoreKeys_eq (job : Job) :
    restoreKeys job = (job.steps.map Step.kind).flatMap fun kind =>
      match kind with
      | .restoreCache keys => keys
      | _ => [] := by
  rw [List.flatMap_map]
  rfl

theorem restoresCache_eq (job : Job) :
    restoresCache job = (job.steps.map Step.kind).any fun kind =>
      match kind with
      | .restoreCache _ => true
      | _ => false := by
  rw [List.any_map]
  rfl

theorem savesCache_eq (job : Job) :
    savesCache job = (job.steps.map Step.kind).any fun kind =>
      match kind with
      | .saveCache => true
      | _ => false := by
  rw [List.any_map]
  rfl

theorem restoresCache_of_showsSame (shows : job.ShowsSame other) :
    restoresCache job = restoresCache other := by
  rw [restoresCache_eq, restoresCache_eq, shows.any_kinds]

theorem savesCache_of_showsSame (shows : job.ShowsSame other) :
    savesCache job = savesCache other := by
  rw [savesCache_eq, savesCache_eq, shows.any_kinds]

theorem hasChecksumKey_of_showsSame (shows : job.ShowsSame other) :
    hasChecksumKey job = hasChecksumKey other := by
  rw [hasChecksumKey, hasChecksumKey, restoreKeys_eq, restoreKeys_eq, List.any_flatMap,
    List.any_flatMap, shows.any_kinds]

theorem ecosystem_of_showsSame (shows : job.ShowsSame other) : ecosystem job = ecosystem other := by
  rw [ecosystem, ecosystem, shows.executor, detectInstall?_of_showsSame shows]

theorem missing_of_showsSame (shows : job.ShowsSame other) : missing job = missing other := by
  funext command
  simp only [missing, ecosystem_of_showsSame shows, savesCache_of_showsSame shows, shows.name]

theorem restoreKeys_of_alike (alike : job.Alike other) : restoreKeys job = restoreKeys other := by
  rw [restoreKeys_eq, restoreKeys_eq, alike.kinds_eq]

theorem weakKey_of_alike (alike : job.Alike other) : weakKey job = weakKey other := by
  simp only [weakKey, ecosystem_of_showsSame alike.showsSame, restoreKeys_of_alike alike, alike.name]

end DependencyCache

theorem Parallelism.inspectJob?_of_showsSame (shows : job.ShowsSame other) :
    inspectJob? job = inspectJob? other := by
  have keywords : ∀ keyword ∈ testKeywords, isKeyword keyword.toList = true := by decide
  have tests : looksLikeTests job = looksLikeTests other := by
    rw [Bool.eq_iff_iff, looksLikeTests, looksLikeTests, List.any_eq_true, List.any_eq_true]
    refine exists_congr fun keyword => and_congr_right fun known => ?_
    rw [shows.occursIn_eq (keywords keyword known), shows.name]
  have parallelized : job.isParallelized = other.isParallelized := by
    rw [Job.isParallelized, Job.isParallelized, shows.parallelism]
  have finding : testSplitting job = testSplitting other := by
    simp only [testSplitting, shows.parallelism, shows.name]
  rw [inspectJob?, inspectJob?, parallelized, tests, finding]

theorem LayerCaching.hasRemoteDocker_eq (job : Job) :
    hasRemoteDocker job = (job.steps.map Step.kind).any fun kind =>
      match kind with
      | .setupRemoteDocker _ => true
      | _ => false := by
  rw [List.any_map]
  rfl

theorem LayerCaching.of_showsSame (shows : job.ShowsSame other) :
    buildsImage job = buildsImage other ∧ isEnabled job = isEnabled other ∧
      disabled job = disabled other := by
  have keywords : ∀ command ∈ buildCommands, isKeyword command.toList = true := by decide
  have builds : buildsImage job = buildsImage other := by
    rw [Bool.eq_iff_iff, buildsImage, buildsImage, List.any_eq_true, List.any_eq_true]
    refine exists_congr fun command => and_congr_right fun known => ?_
    rw [shows.occursIn_eq (keywords command known)]
  have remote : hasRemoteDocker job = hasRemoteDocker other := by
    rw [hasRemoteDocker_eq, hasRemoteDocker_eq, shows.any_kinds]
  have step := shows.kinds (· = .setupRemoteDocker true)
  refine ⟨builds, ?_, ?_⟩
  · rw [isEnabled, isEnabled, step, shows.executor]
  · simp only [disabled, remote, shows.name, shows.executor]

theorem OrbReuse.inspectJob_of_showsSame (shows : job.ShowsSame other) (config : Config) :
    inspectJob config job = inspectJob config other := by
  have blind : ∀ pattern ∈ patterns, ∀ key ∈ Json.spellingKeys,
      pattern.matchesText (Text.lowerAscii key.toList) = false := by
    decide +kernel
  have matched : ∀ pattern ∈ patterns, pattern.matchesText (Text.lowerAscii job.stepsText) =
      pattern.matchesText (Text.lowerAscii other.stepsText) := by
    intro pattern known
    have splits := (Pattern.splitsAt known).lowered fun mark known => (isMark_ordinary mark known).1
    exact shows.texts _ splits (blind pattern known)
  have suggested : suggestion job = suggestion other := by
    funext pattern
    simp only [suggestion, shows.name]
  rw [inspectJob, inspectJob, suggested]
  congr 1
  apply List.filter_congr
  intro pattern known
  rw [matched pattern known]

theorem HardcodedSecret.inspectJob?_of_alike (alike : job.Alike other) :
    inspectJob? job = inspectJob? other := by
  have bySteps : ∀ job, inspectJob? job = (job.steps.map fun step =>
      (candidate? step.serialized).map fun literal => finding job step literal).findSome? id := by
    intro job
    rw [inspectJob?, suspiciousStep?, List.map_findSome?, List.findSome?_map]
    congr 1
    funext step
    exact Option.map_map _ _ _
  rw [bySteps, bySteps]
  congr 1
  apply alike.views_eq
  intro step otherStep same
  have kind : step.kind = otherStep.kind := (Prod.mk.inj same).1
  have label : step.label = otherStep.label := by rw [Step.label, Step.label, kind]
  have shown : shortLabel step = shortLabel otherStep := by rw [shortLabel, shortLabel, label]
  rw [candidate?_of_outline same]
  simp only [finding, shown, alike.name]

namespace Check

/-- Whether the findings of the check quote steps: the keys of the caches that a job restores, or the
step with a suspicious literal. -/
def quotesSteps : Check → Bool
  | weakCacheKey | hardcodedSecret => true
  | _ => false

theorem ofJob_of_showsSame {check : Check} (quoteless : check.quotesSteps = false) (config : Config)
    (shows : job.ShowsSame other) : check.ofJob config job = check.ofJob config other := by
  cases check with
  | oversizedTier => simp only [ofJob, ResourceClass.oversized?_of_showsSame shows, shows.executor]
  | unspecifiedTier =>
      simp only [ofJob, ResourceClass.unspecified, shows.executor, shows.resourceClass, shows.name]
  | missingCache =>
      rw [ofJob, ofJob, DependencyCache.detectInstall?_of_showsSame shows,
        DependencyCache.restoresCache_of_showsSame shows, DependencyCache.missing_of_showsSame shows]
  | testSplitting => rw [ofJob, ofJob, Parallelism.inspectJob?_of_showsSame shows]
  | layerCaching =>
      obtain ⟨builds, enabled, finding⟩ := LayerCaching.of_showsSame shows
      rw [ofJob, ofJob, builds, enabled, finding]
  | orbReuse => exact OrbReuse.inspectJob_of_showsSame shows config
  | fanOut | missingApproval => rfl
  | weakCacheKey | hardcodedSecret => contradiction

theorem ofJob_of_alike (check : Check) (config : Config) (alike : job.Alike other) :
    check.ofJob config job = check.ofJob config other := by
  cases check with
  | weakCacheKey =>
      rw [ofJob, ofJob, DependencyCache.restoresCache_of_showsSame alike.showsSame,
        DependencyCache.hasChecksumKey_of_showsSame alike.showsSame,
        DependencyCache.weakKey_of_alike alike]
  | hardcodedSecret => rw [ofJob, ofJob, HardcodedSecret.inspectJob?_of_alike alike]
  | _ => exact ofJob_of_showsSame rfl config alike.showsSame

end Check

end Rules

end PipelineAdvisor
