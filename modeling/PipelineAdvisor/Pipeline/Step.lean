import PipelineAdvisor.Yaml.Image
import PipelineAdvisor.Yaml.Block
import PipelineAdvisor.Text.Search

/-!
Steps of a job. A step is a node of the document; what it does is recognised from the shape of the
node, and its text, in which keywords are looked for, is the compact image of the node.
-/

namespace PipelineAdvisor

open Yaml (Node)

inductive StepKind where
  | run (name : Option String) (command : String)
  | restoreCache (keys : List String)
  | saveCache
  | setupRemoteDocker (layerCaching : Bool)
  | approval
  /-- Any other step, with its name if it has the shape of a named step. -/
  | other (name : Option String)
deriving DecidableEq, Inhabited

def stringList (node : Option Node) : List String :=
  match node with
  | some (.string text) => [text]
  | some (.sequence items) => items.filterMap Node.asString?
  | _ => []

namespace StepKind

def ofName (name : String) : StepKind :=
  if name == "setup_remote_docker" then .setupRemoteDocker false else .other (some name)

def ofRun (body : Node) : StepKind :=
  match body with
  | .string command => .run none command
  | .mapping _ =>
    .run ((body.get? "name").bind Node.asString?)
      (((body.get? "command").bind Node.asString?).getD "")
  | _ => .run none ""

def cacheKeys (body : Node) : List String :=
  ((body.get? "key").bind Node.asString?).toList ++ stringList (body.get? "keys")

def ofEntry (name : String) (body : Node) : StepKind :=
  if name == "run" then ofRun body
  else if name == "restore_cache" then .restoreCache (cacheKeys body)
  else if name == "save_cache" then .saveCache
  else if name == "setup_remote_docker" then
    .setupRemoteDocker (((body.get? "docker_layer_caching").bind Node.asBool?).getD false)
  else .other (some name)

/-- What the step written by a node does. A node with a tag of its own is never recognised. -/
def ofNode : Node → StepKind
  | .string name => ofName name
  | .mapping entries =>
    if (Node.lookup? "type" entries).bind Node.asString? == some "approval" then .approval
    else
      match entries with
      | [(key, body)] =>
        match key.asString? with
        | some name => ofEntry name body
        | none => .other none
      | _ => .other none
  | _ => .other none

end StepKind

structure Step where
  node : Node
deriving Inhabited

namespace Step

def kind (step : Step) : StepKind :=
  StepKind.ofNode step.node

/-- The text of a step: its compact image, or its block text if it has no image. A step without
either has no text. -/
def serialized (step : Step) : List Char :=
  match step.node.image? with
  | some image => image.compact
  | none => ((Yaml.Block.text? step.node).map Text.trimEnd).getD []

def label (step : Step) : String :=
  match step.kind with
  | .run (some name) _ => name
  | .run none command => String.ofList (Text.trim ((Text.lines command.toList).headD []))
  | .restoreCache _ => "restore_cache"
  | .saveCache => "save_cache"
  | .setupRemoteDocker _ => "setup_remote_docker"
  | .approval => "approval"
  | .other name => name.getD "step"

end Step

end PipelineAdvisor
