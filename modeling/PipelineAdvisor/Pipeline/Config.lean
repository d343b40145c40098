import PipelineAdvisor.Pipeline.Step
import PipelineAdvisor.Finding.Score

/-!
A pipeline configuration: jobs, workflows and declared orbs, all in the order of the document.
-/

namespace PipelineAdvisor

inductive Executor where
  /-- A container; the image is the first one listed. -/
  | docker (image : Option String)
  | machine (image : Option String) (layerCaching : Bool)
  | macos
  /-- Anything else, such as the name of a shared executor. -/
  | unknown
deriving DecidableEq, Inhabited

namespace Executor

def isContainer : Executor → Bool
  | .docker _ => true
  | _ => false

def image? : Executor → Option String
  | .docker image => image
  | .machine image _ => image
  | _ => none

def kindName : Executor → String
  | .docker _ => "docker"
  | .machine _ _ => "machine"
  | .macos => "macos"
  | .unknown => "unknown"

end Executor

structure Job where
  name : String
  executor : Executor := .unknown
  /-- The declared size of the executor. -/
  resourceClass : Option String := none
  /-- The declared number of parallel containers. -/
  parallelism : Option Nat := none
  steps : List Step := []
deriving Inhabited

namespace Job

def tier (job : Job) : String :=
  job.resourceClass.getD defaultTier

def isParallelized (job : Job) : Bool :=
  job.parallelism.elim false (1 < ·)

def commaSeparated : List (List Char) → List Char
  | [] => []
  | [text] => text
  | text :: next :: rest => text ++ ',' :: commaSeparated (next :: rest)

/-- The text of all steps, as one list. It holds commands, names and cache keys alike, so that
finding a keyword in it is a sign and no proof. -/
def stepsText (job : Job) : List Char :=
  '[' :: commaSeparated (job.steps.map Step.serialized) ++ [']']

end Job

inductive ReferenceKind where
  | normal
  | approval
deriving DecidableEq, Inhabited

structure JobReference where
  name : String
  /-- Names of the jobs that it waits for. -/
  requires : List String := []
  kind : ReferenceKind := .normal
deriving DecidableEq, Inhabited

structure Workflow where
  name : String
  jobs : List JobReference
deriving DecidableEq, Inhabited

namespace Workflow

def hasApprovalGate (workflow : Workflow) : Bool :=
  workflow.jobs.any fun job => job.kind = .approval

def independentJobs (workflow : Workflow) : List JobReference :=
  workflow.jobs.filter fun job => job.requires.isEmpty

end Workflow

def orbNamespace (reference : String) : String :=
  String.ofList (Text.before '@' reference.toList)

structure Config where
  jobs : List Job
  workflows : List Workflow := []
  /-- References of the declared orbs. -/
  orbs : List String := []
deriving Inhabited

namespace Config

def job? (config : Config) (name : String) : Option Job :=
  config.jobs.find? fun job => job.name == name

def workflow? (config : Config) (name : String) : Option Workflow :=
  config.workflows.find? fun workflow => workflow.name == name

def declaresOrb (config : Config) (space : String) : Bool :=
  config.orbs.any fun reference => orbNamespace reference == space

end Config

end PipelineAdvisor
