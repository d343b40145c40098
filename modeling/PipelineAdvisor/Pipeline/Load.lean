import PipelineAdvisor.Pipeline.Config
import PipelineAdvisor.Yaml.Document

/-!
Reading a configuration from text. Only the least shape is required: a mapping with a mapping `jobs`
in which some key is a string. Everything optional that is missing or of an unexpected shape counts
as absent.
-/

namespace PipelineAdvisor

open Yaml (Node)

inductive ShapeError where
  | rootNotMapping
  | jobsNotMapping
  | noJobs
deriving DecidableEq

def ShapeError.text : ShapeError → String
  | .rootNotMapping => "the document root is not a mapping"
  | .jobsNotMapping => "`jobs` must be a mapping of job names to job definitions"
  | .noJobs => "no jobs defined"

inductive LoadError where
  | notFound (path : String)
  | unreadable (path reason : String)
  /-- The text is no document; line and column count from one. -/
  | malformed (message : String) (line column : Option Nat)
  | unusable (error : ShapeError)
deriving DecidableEq

namespace LoadError

def ofDocument (error : Yaml.DocumentError) : LoadError :=
  .malformed error.message (error.place?.map (·.1)) (error.place?.map (·.2))

def placeText : Option Nat → Option Nat → String
  | some line, some column => s!" at line {line}, column {column}"
  | some line, none => s!" at line {line}"
  | none, _ => ""

def message : LoadError → String
  | .notFound path => s!"configuration file not found: {path}"
  | .unreadable path reason => s!"cannot read configuration file {path}: {reason}"
  | .malformed message line column => s!"invalid YAML{placeText line column}: {message}"
  | .unusable error => s!"invalid configuration: {error.text}"

def hint : LoadError → String
  | .notFound _ =>
    "Run circleopt from the repository root or pass the config path, " ++
      "e.g. `circleopt path/to/config.yml`."
  | .unreadable _ _ =>
    "Check that the path is a regular file and that the current user can read it."
  | .malformed _ _ _ =>
    "Fix the YAML syntax at the reported location; `circleci config validate` gives more detail."
  | .unusable _ => "A CircleCI config must be a mapping with a non-empty `jobs` section."

end LoadError

namespace Executor

/-- The executor that the body of a job declares. A container counts first, then a machine. -/
def ofBody (body : Node) : Executor :=
  match body.get? "docker" with
  | some images =>
    let primary := images.asSequence?.bind List.head?
    .docker ((primary.bind (·.get? "image")).bind Node.asString?)
  | none =>
    match body.get? "machine" with
    | some (.mapping entries) =>
      let machine := Node.mapping entries
      .machine ((machine.get? "image").bind Node.asString?)
        (((machine.get? "docker_layer_caching").bind Node.asBool?).getD false)
    | some _ => .machine none false
    | none => if (body.get? "macos").isSome then .macos else .unknown

end Executor

def Job.ofBody (name : String) (body : Node) : Job where
  name
  executor := Executor.ofBody body
  resourceClass := (body.get? "resource_class").bind Node.asString?
  parallelism := (body.get? "parallelism").bind Node.asNat?
  steps := (((body.get? "steps").bind Node.asSequence?).getD []).map Step.mk

/-- The reference that an entry of a workflow writes: a name, or a mapping whose first key is a
name. -/
def JobReference.ofNode? : Node → Option JobReference
  | .string name => some { name }
  | .mapping ((key, options) :: _) =>
    key.asString?.map fun name =>
      let isApproval := (options.get? "type").bind Node.asString? == some "approval"
      { name
        requires := stringList (options.get? "requires")
        kind := if isApproval then .approval else .normal }
  | _ => none

def Workflow.ofMember? (entry : Node × Node) : Option Workflow := do
  let name ← entry.1.asString?
  let body ← entry.2.asMapping?
  let jobs := ((Node.lookup? "jobs" body).bind Node.asSequence?).getD []
  return { name, jobs := jobs.filterMap JobReference.ofNode? }

namespace Config

def jobsOf (root : List (Node × Node)) : Except ShapeError (List Job) :=
  match Node.lookup? "jobs" root with
  | some (.mapping entries) =>
    let jobs := entries.filterMap fun entry =>
      entry.1.asString?.map fun name => Job.ofBody name entry.2
    if jobs.isEmpty then .error .noJobs else .ok jobs
  | some _ => .error .jobsNotMapping
  | none => .error .noJobs

def ofNode (document : Node) : Except ShapeError Config := do
  match document.asMapping? with
  | none => throw .rootNotMapping
  | some root =>
    let jobs ← jobsOf root
    let section? (name : String) : List (Node × Node) :=
      ((Node.lookup? name root).bind Node.asMapping?).getD []
    return {
      jobs
      workflows := (section? "workflows").filterMap Workflow.ofMember?
      orbs := (section? "orbs").filterMap fun entry => entry.2.asString? }

def parse (text : String) : Except LoadError Config :=
  match Yaml.readMerged text with
  | .error error => .error (.ofDocument error)
  | .ok document => (ofNode document).mapError .unusable

end Config

end PipelineAdvisor
