/-!
The families of findings, each with the slug that starts its ids, its title in reports and its
keyword in data.
-/

namespace PipelineAdvisor

inductive Category where
  | resource
  | cache
  | parallel
  | layerCache
  | orbs
  | workflow
  | practice
deriving DecidableEq, Inhabited, Repr

namespace Category

def all : List Category :=
  [.resource, .cache, .parallel, .layerCache, .orbs, .workflow, .practice]

def slug : Category → String
  | .resource => "resource"
  | .cache => "cache"
  | .parallel => "parallel"
  | .layerCache => "docker-layer-cache"
  | .orbs => "orbs"
  | .workflow => "workflow"
  | .practice => "practice"

def label : Category → String
  | .resource => "Resource Class"
  | .cache => "Caching"
  | .parallel => "Parallelism"
  | .layerCache => "Docker Layer Caching"
  | .orbs => "Orbs"
  | .workflow => "Workflow"
  | .practice => "Best Practice"

def keyword : Category → String
  | .resource => "resource"
  | .cache => "cache"
  | .parallel => "parallel"
  | .layerCache => "layer_cache"
  | .orbs => "orbs"
  | .workflow => "workflow"
  | .practice => "practice"

def ofKeyword? (text : String) : Option Category :=
  all.find? fun category => category.keyword == text

end Category

end PipelineAdvisor
