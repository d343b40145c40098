import PipelineAdvisor.Pipeline.Config
import PipelineAdvisor.Finding.Summary
import PipelineAdvisor.Rules.Snippet

/-!
Literals that may be credentials. A run of twenty letters and digits is suspicious, unless the step
takes values from variables, in which case it is left alone.
-/

namespace PipelineAdvisor.HardcodedSecret

def shortestSecret : Nat := 20

/-- Texts that show that a step takes values from variables. -/
def interpolationMarks : List String := ["$", "<<"]

def firstLongRun? : List Char → Option (List Char)
  | [] => none
  | c :: rest =>
    let run := (c :: rest).takeWhile Char.isAlphanum
    if shortestSecret ≤ run.length then some run else firstLongRun? rest

def candidate? (text : List Char) : Option (List Char) :=
  if interpolationMarks.any fun mark => Text.occursIn mark.toList text then none
  else firstLongRun? text

/-- A literal as it is shown: its first four characters and its length. -/
def mask (literal : List Char) : String :=
  String.ofList (literal.take 4) ++ s!"… ({literal.length} chars)"

def longestLabel : Nat := 40

def shortLabel (step : Step) : String :=
  let label := step.label.toList
  if longestLabel < label.length then String.ofList (label.take longestLabel) ++ "…"
  else step.label

def suspiciousStep? (job : Job) : Option (Step × List Char) :=
  job.steps.findSome? fun step => (candidate? step.serialized).map fun literal => (step, literal)

def finding (job : Job) (step : Step) (literal : List Char) : Finding :=
  { Finding.start .practice "secret" job.name .high Score.hardcodedSecret
      s!"Possible hardcoded secret in job '{job.name}'" with
    currentState :=
      s!"Step '{shortLabel step}' in job '{job.name}' contains the literal {mask literal}."
    problem :=
      "Credentials committed to the config are visible to anyone with repository access and " ++
      "end up in build logs."
    recommendation :=
      "Move the value into a project environment variable or a context, rotate it, and " ++
      "reference it as $NAME."
    example? := some (Snippet.secretFromContext job.name)
    affectedJobs := [job.name] }

def inspectJob? (job : Job) : Option Finding :=
  (suspiciousStep? job).map fun (step, literal) => finding job step literal

def inspect (config : Config) : List Finding :=
  config.jobs.filterMap inspectJob?

end PipelineAdvisor.HardcodedSecret
