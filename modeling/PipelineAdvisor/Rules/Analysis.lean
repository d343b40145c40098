import PipelineAdvisor.Rules.ResourceClass
import PipelineAdvisor.Rules.DependencyCache
import PipelineAdvisor.Rules.Workflows
import PipelineAdvisor.Rules.LayerCaching
import PipelineAdvisor.Rules.OrbReuse
import PipelineAdvisor.Rules.HardcodedSecret

/-!
Running analyzers. Each one either gives findings or fails; a failure costs only its own findings
and is reported as a fault. The outcomes are taken in the order of the analyzers, whatever order
they finish in.
-/

namespace PipelineAdvisor

abbrev Outcome := Except Fault (List Finding)

/-- A named check of a configuration. A failure carries its reason if it gave one as text. -/
structure Analyzer where
  name : String
  inspect : Config → Except (Option String) (List Finding)

namespace Analyzer

def total (name : String) (inspect : Config → List Finding) : Analyzer where
  name
  inspect config := .ok (inspect config)

def outcome (analyzer : Analyzer) (config : Config) : Outcome :=
  (analyzer.inspect config).mapError fun reason =>
    ⟨analyzer.name, reason.getD "analyzer panicked"⟩

def builtin : List Analyzer :=
  [total "resource-class" ResourceClass.inspect,
    total "cache" DependencyCache.inspect,
    total "parallelism" Parallelism.inspect,
    total "docker-layer-cache" LayerCaching.inspect,
    total "orbs" OrbReuse.inspect,
    total "workflow" ApprovalGate.inspect,
    total "best-practices" HardcodedSecret.inspect]

def builtinNames : List String :=
  builtin.map (·.name)

end Analyzer

namespace Analysis

def outcomes (analyzers : List Analyzer) (config : Config) : List Outcome :=
  analyzers.map (·.outcome config)

/-- The outcomes of analyzers that run side by side and finish in the order of the given places:
each outcome goes into the slot of its analyzer, and the slots are read in order. -/
def outcomesFinishing (analyzers : List Analyzer) (config : Config) (finished : List Nat) :
    List Outcome :=
  let slots := finished.foldl (fun (slots : List (Option Outcome)) place =>
      slots.set place ((analyzers[place]?).map (·.outcome config)))
    (List.replicate analyzers.length none)
  slots.filterMap id

def findingsOf (outcomes : List Outcome) : List Finding :=
  outcomes.flatMap fun outcome =>
    match outcome with
    | .ok findings => findings
    | .error _ => []

def faultsOf (outcomes : List Outcome) : List Fault :=
  outcomes.filterMap fun outcome =>
    match outcome with
    | .ok _ => none
    | .error fault => some fault

def resultOf (outcomes : List Outcome) : AnalysisResult :=
  summarize (Finding.ranked (findingsOf outcomes)) (faultsOf outcomes)

def run (analyzers : List Analyzer) (parallel : Bool) (config : Config) : AnalysisResult :=
  resultOf
    (if parallel then outcomesFinishing analyzers config (List.range analyzers.length)
    else outcomes analyzers config)

end Analysis

def analyze (config : Config) : AnalysisResult :=
  Analysis.run Analyzer.builtin false config

end PipelineAdvisor
