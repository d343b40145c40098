import PipelineAdvisor.Finding.Summary
import PipelineAdvisor.Json.Basic

/-!
Results as data. Members that are absent or empty are left out.
-/

namespace PipelineAdvisor

def optionalMember {α : Type} (name : String) (encode : α → Json) (value : Option α) :
    List (String × Json) :=
  match value with
  | none => []
  | some value => [(name, encode value)]

def listMember {α : Type} (name : String) (encode : α → Json) (values : List α) :
    List (String × Json) :=
  if values.isEmpty then [] else [(name, .array (values.map encode))]

def Json.ofNat (value : Nat) : Json :=
  .integer value

def Savings.toJson (savings : Savings) : Json :=
  .object
    (optionalMember "cost_reduction_percent" Json.ofNat savings.costPercent ++
      optionalMember "time_reduction" Json.string savings.time)

def Finding.toJson (finding : Finding) : Json :=
  .object
    ([("id", .string finding.id),
      ("category", .string finding.category.keyword),
      ("priority", .string finding.priority.keyword),
      ("impact_score", .float finding.score),
      ("title", .string finding.title),
      ("current_state", .string finding.currentState),
      ("problem", .string finding.problem),
      ("recommendation", .string finding.recommendation)] ++
      optionalMember "example" Json.string finding.example? ++
      optionalMember "estimated_savings" Savings.toJson finding.savings? ++
      listMember "affected_jobs" Json.string finding.affectedJobs)

def Fault.toJson (fault : Fault) : Json :=
  .object [("analyzer", .string fault.analyzer), ("message", .string fault.message)]

def PriorityCounts.toJson (counts : PriorityCounts) : Json :=
  .object [("high", .ofNat counts.high), ("medium", .ofNat counts.medium),
    ("low", .ofNat counts.low)]

def SavingsSummary.toJson (savings : SavingsSummary) : Json :=
  .object [("cost_reduction_percent", .ofNat savings.costPercent),
    ("time_saved", .ofNat savings.minutes)]

def AnalysisResult.toJson (result : AnalysisResult) : Json :=
  .object
    ([("total_findings", .ofNat result.total),
      ("counts", result.counts.toJson),
      ("estimated_savings", result.savings.toJson),
      ("findings", .array (result.findings.map Finding.toJson))] ++
      listMember "analyzer_faults" Fault.toJson result.faults)

end PipelineAdvisor
