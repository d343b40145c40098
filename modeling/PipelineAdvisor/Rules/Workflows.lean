import PipelineAdvisor.Pipeline.Config
import PipelineAdvisor.Finding.Summary
import PipelineAdvisor.Rules.Snippet

/-!
How the work of a pipeline is laid out in time: tests on a single container, workflows with several
jobs that wait for nothing, and long workflows that nobody has to approve.
-/

namespace PipelineAdvisor

namespace Parallelism

def testKeywords : List String := ["test", "spec", "jest", "rspec", "pytest", "mocha"]

def looksLikeTests (job : Job) : Bool :=
  let name := Text.lowerAscii job.name.toList
  let steps := Text.lowerAscii job.stepsText
  testKeywords.any fun keyword =>
    Text.occursIn keyword.toList name || Text.occursIn keyword.toList steps

def testSplitting (job : Job) : Finding :=
  { Finding.start .parallel "tests" job.name .medium Score.testSplitting
      s!"Tests in job '{job.name}' run on a single container" with
    currentState := s!"Job '{job.name}' runs tests with parallelism {job.parallelism.getD 1}."
    problem := "The whole suite runs serially, so the job's wall time grows with every test added."
    recommendation :=
      "Set parallelism and split the suite with `circleci tests split --split-by=timings`, " ++
      "storing test results so timing data is available."
    example? := some (Snippet.testSplitting job.name)
    savings? := some (Savings.ofTime "40-50%")
    affectedJobs := [job.name] }

def inspectJob? (job : Job) : Option Finding :=
  if !job.isParallelized && looksLikeTests job then some (testSplitting job) else none

/-- Minutes that several independent jobs claim to save: two each, up to a cap. Workflows have fewer
than `2 ^ 31` entries, for which a product of 32 bits is the same. -/
def fanOutMinutes (count : Nat) : Nat :=
  min (2 * count) fanOutCap

def fanOut (workflow : Workflow) (jobs : List String) : Finding :=
  let shown := String.intercalate ", " jobs
  { Finding.start .parallel "workflow" workflow.name .medium Score.fanOut
      s!"{jobs.length} independent jobs in workflow '{workflow.name}' can run in parallel" with
    currentState := s!"Jobs {shown} in workflow '{workflow.name}' have no `requires` dependencies."
    problem :=
      "Independent jobs are a fan-out opportunity; repeating the same setup in each of them " ++
      "or chaining them later wastes the concurrency already available."
    recommendation :=
      "Keep these jobs free of `requires` so they start together, and move shared setup into " ++
      "one upstream job that persists to a workspace."
    example? := some (Snippet.fanOut workflow.name jobs)
    savings? := some (Savings.ofTime s!"{fanOutMinutes jobs.length} min")
    affectedJobs := jobs }

def inspectWorkflow? (workflow : Workflow) : Option Finding :=
  let independent := workflow.independentJobs.map (·.name)
  if independent.length < 2 then none else some (fanOut workflow independent)

def inspect (config : Config) : List Finding :=
  config.jobs.filterMap inspectJob? ++ config.workflows.filterMap inspectWorkflow?

end Parallelism

namespace ApprovalGate

def threshold : Nat := 3

def isMissing (workflow : Workflow) : Bool :=
  threshold < workflow.jobs.length && !workflow.hasApprovalGate

def missing (workflow : Workflow) : Finding :=
  let last := (workflow.jobs.getLast?.map (·.name)).getD "deploy"
  { Finding.start .workflow "approval" workflow.name .low Score.approvalGate
      s!"Workflow '{workflow.name}' has no approval gate" with
    currentState :=
      s!"Workflow '{workflow.name}' chains {workflow.jobs.length} jobs without a `type: " ++
      "approval` step."
    problem :=
      "Long workflows run to completion, including release or deploy jobs, with no manual " ++
      "checkpoint."
    recommendation :=
      s!"Add an approval job before '{last}' so risky stages wait for a person to confirm."
    example? := some (Snippet.approvalGate workflow.name last)
    affectedJobs := workflow.jobs.map (·.name) }

def inspect (config : Config) : List Finding :=
  (config.workflows.filter isMissing).map missing

end ApprovalGate

end PipelineAdvisor
