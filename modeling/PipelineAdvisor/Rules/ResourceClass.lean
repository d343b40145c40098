import PipelineAdvisor.Pipeline.Config
import PipelineAdvisor.Finding.Summary
import PipelineAdvisor.Rules.Snippet

/-!
Sizes of docker executors: too large for a short job, or not declared.
-/

namespace PipelineAdvisor.ResourceClass

def recommendedTier (minutes : Nat) : String :=
  if minutes < smallTierMinutes then "small" else "medium"

def oversized? (job : Job) : Option Finding :=
  let minutes := estimatedMinutes job.steps.length
  if shortJobMinutes ≤ minutes ∨ !isOversized job.tier then none
  else do
    let recommended := recommendedTier minutes
    let rate ← creditRate? job.tier
    let recommendedRate ← creditRate? recommended
    let cost := rate * minutes
    let recommendedCost := recommendedRate * minutes
    let percent := savingsPercent cost recommendedCost
    return { Finding.start .resource "oversized" job.name .high (Score.oversizedTier percent)
        s!"Oversized resource class for job '{job.name}'" with
      currentState :=
        s!"Job '{job.name}' runs on resource_class {job.tier} ({rate} credits/min) with " ++
        s!"{job.steps.length} steps, an estimated {minutes} min run costing ~{cost} credits."
      problem :=
        "Short jobs rarely use the CPU and memory of a large executor, but every minute is " ++
        "billed at the larger rate."
      recommendation :=
        s!"Switch to resource_class {recommended} ({recommendedRate} credits/min, " ++
        s!"~{recommendedCost} credits per run) and increase it again only if the job slows " ++
        "down."
      example? := some (Snippet.resourceClass job.name recommended)
      savings? := some (Savings.cost percent)
      affectedJobs := [job.name] }

def unspecified (job : Job) : Finding :=
  { Finding.start .resource "unspecified" job.name .low Score.unspecifiedTier
      s!"No resource class specified for job '{job.name}'" with
    currentState :=
      s!"Job '{job.name}' declares no resource_class and runs on the default {defaultTier}."
    problem :=
      "The implicit default hides the job's cost and may be larger or smaller than the work " ++
      "needs."
    recommendation :=
      "Declare a resource_class sized to the job so its cost is explicit and reviewable."
    example? := some (Snippet.resourceClass job.name defaultTier)
    affectedJobs := [job.name] }

/-- What is found about one job; only docker executors have these sizes. -/
def inspectJob (job : Job) : List Finding :=
  if job.executor.isContainer then
    (oversized? job).toList ++ (if job.resourceClass.isNone then [unspecified job] else [])
  else []

def inspect (config : Config) : List Finding :=
  config.jobs.flatMap inspectJob

end PipelineAdvisor.ResourceClass
