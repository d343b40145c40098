import PipelineAdvisor.Rules.Analysis

/-!
The ten checks behind the analyzers. Every finding is emitted by one check about one subject, a job or
a workflow; an analyzer runs one or two checks and may go through them subject by subject.
-/

namespace PipelineAdvisor

/-- The checks in the order in which a report lists their findings. -/
inductive Check where
  | oversizedTier
  | hardcodedSecret
  | missingCache
  | testSplitting
  | layerCaching
  | fanOut
  | weakCacheKey
  | orbReuse
  | unspecifiedTier
  | missingApproval
deriving DecidableEq

namespace Check

def all : List Check :=
  [oversizedTier, hardcodedSecret, missingCache, testSplitting, layerCaching, fanOut, weakCacheKey,
    orbReuse, unspecifiedTier, missingApproval]

def executionOrder : List Check :=
  [oversizedTier, unspecifiedTier, missingCache, weakCacheKey, testSplitting, fanOut, layerCaching,
    orbReuse, missingApproval, hardcodedSecret]

def category : Check → Category
  | oversizedTier | unspecifiedTier => .resource
  | missingCache | weakCacheKey => .cache
  | testSplitting | fanOut => .parallel
  | layerCaching => .layerCache
  | orbReuse => .orbs
  | missingApproval => .workflow
  | hardcodedSecret => .practice

/-- What follows the category in the ids of a check; there is one name for every orb pattern. -/
def names : Check → List String
  | oversizedTier => ["oversized"]
  | hardcodedSecret => ["secret"]
  | missingCache => ["missing"]
  | testSplitting => ["tests"]
  | layerCaching => ["disabled"]
  | fanOut => ["workflow"]
  | weakCacheKey => ["weak-key"]
  | orbReuse => OrbReuse.patterns.map (·.slug)
  | unspecifiedTier => ["unspecified"]
  | missingApproval => ["approval"]

def priority : Check → Priority
  | oversizedTier | hardcodedSecret | missingCache => .high
  | testSplitting | layerCaching | fanOut | weakCacheKey => .medium
  | orbReuse | unspecifiedTier | missingApproval => .low

def lowestScore : Check → Binary64
  | oversizedTier => Score.oversizedTier 50
  | hardcodedSecret => Score.hardcodedSecret
  | missingCache => Score.missingCache
  | testSplitting => Score.testSplitting
  | layerCaching => Score.layerCache
  | fanOut => Score.fanOut
  | weakCacheKey => Score.weakCacheKey
  | orbReuse => Score.reusableOrb
  | unspecifiedTier => Score.unspecifiedTier
  | missingApproval => Score.approvalGate

/-- The highest score of the findings of the check; only the first check grades its findings. -/
def highestScore : Check → Binary64
  | oversizedTier => Score.oversizedTier 94
  | check => check.lowestScore

def ofJob (check : Check) (config : Config) (job : Job) : List Finding :=
  match check with
  | oversizedTier =>
    if job.executor.isContainer then (ResourceClass.oversized? job).toList else []
  | unspecifiedTier =>
    if job.executor.isContainer && job.resourceClass.isNone then [ResourceClass.unspecified job]
    else []
  | missingCache =>
    match DependencyCache.detectInstall? job.stepsText with
    | some (command, _) =>
      if DependencyCache.restoresCache job then [] else [DependencyCache.missing job command]
    | none => []
  | weakCacheKey =>
    if DependencyCache.restoresCache job && !DependencyCache.hasChecksumKey job then
      [DependencyCache.weakKey job]
    else []
  | testSplitting => (Parallelism.inspectJob? job).toList
  | layerCaching =>
    if LayerCaching.buildsImage job && !LayerCaching.isEnabled job then [LayerCaching.disabled job]
    else []
  | orbReuse => OrbReuse.inspectJob config job
  | hardcodedSecret => (HardcodedSecret.inspectJob? job).toList
  | fanOut | missingApproval => []

def ofWorkflow (check : Check) (workflow : Workflow) : List Finding :=
  match check with
  | fanOut => (Parallelism.inspectWorkflow? workflow).toList
  | missingApproval =>
    if ApprovalGate.isMissing workflow then [ApprovalGate.missing workflow] else []
  | _ => []

def emitted (check : Check) (config : Config) : List Finding :=
  config.jobs.flatMap (check.ofJob config) ++ config.workflows.flatMap check.ofWorkflow

end Check

end PipelineAdvisor
