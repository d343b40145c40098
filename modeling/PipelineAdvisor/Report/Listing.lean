import PipelineAdvisor.Finding.Summary

/-!
What reports list: the findings in groups of one priority, the most urgent first, without the groups
below a threshold. The figures of a report never depend on the threshold.
-/

namespace PipelineAdvisor

/-- Whether findings of a priority are listed. Without a threshold all are. -/
def Priority.isListed (threshold : Option Priority) (priority : Priority) : Bool :=
  threshold.all priority.meets

namespace AnalysisResult

def ofPriority (result : AnalysisResult) (priority : Priority) : List Finding :=
  result.findings.filter fun finding => finding.priority == priority

/-- The groups that are listed: those that meet the threshold and are not empty. -/
def groups (threshold : Option Priority) (result : AnalysisResult) :
    List (Priority × List Finding) :=
  ((Priority.all.filter (Priority.isListed threshold)).map
    fun priority => (priority, result.ofPriority priority)).filter fun group => !group.2.isEmpty

/-- The figures of a result, each with its name. -/
def figures (result : AnalysisResult) : List (String × String) :=
  [("Total findings", s!"{result.total}")] ++
    Priority.all.map (fun priority =>
      (priority.label ++ " priority", s!"{result.counts.get priority}")) ++
    [("Estimated cost reduction", s!"{result.savings.costPercent}%"),
      ("Estimated time saved", s!"{result.savings.minutes} min")]

end AnalysisResult

/-- What a finding promises to save, in one line, if it promises anything. -/
def Finding.savingsText? (finding : Finding) : Option String :=
  let parts := (finding.costPercent?.map fun percent => s!"~{percent}% cost").toList ++
    (finding.time?.map fun time => s!"{time} faster").toList
  if parts.isEmpty then none else some (String.intercalate ", " parts)

end PipelineAdvisor
