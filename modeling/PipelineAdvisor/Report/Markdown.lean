import PipelineAdvisor.Report.Page
import PipelineAdvisor.Report.Listing

/-!
The report as markdown: a heading for each group and each finding, a bullet for each of its texts,
and its example in a fenced block. Only the listing depends on the threshold.
-/

namespace PipelineAdvisor.MarkdownReport

def bullet (name text : String) : String :=
  s!"- **{name}:** {text}"

def code (text : String) : String :=
  "`" ++ text ++ "`"

def fenced (snippet : String) : List String :=
  ["", "```yaml", String.ofList (Text.trimEnd snippet.toList), "```"]

def finding (finding : Finding) : List String :=
  [s!"### {finding.title}", "",
    bullet "Id" (code finding.id),
    bullet "Category" finding.category.label,
    bullet "Problem" finding.problem] ++
    (if finding.currentState.isEmpty then []
      else [bullet "Current state" finding.currentState]) ++
    [bullet "Recommendation" finding.recommendation] ++
    (finding.savingsText?.map (bullet "Estimated savings")).toList ++
    (if finding.affectedJobs.isEmpty then []
      else [bullet "Affected jobs" (String.intercalate ", " (finding.affectedJobs.map code))]) ++
    (finding.example?.map fenced).getD [] ++
    [""]

def group (priority : Priority) (findings : List Finding) : List String :=
  [s!"## {priority.label} Priority", ""] ++ findings.flatMap finding

def head (result : AnalysisResult) : List String :=
  ["# CircleCI Optimization Report", ""] ++
    if result.findings.isEmpty then ["No optimization opportunities found."]
    else
      ["## Summary", "", "| Metric | Value |", "|--------|-------|"] ++
        result.figures.map (fun (name, value) => s!"| {name} | {value} |") ++ [""]

def listing (threshold : Option Priority) (result : AnalysisResult) : List String :=
  (result.groups threshold).flatMap fun (priority, findings) => group priority findings

def foot (result : AnalysisResult) : List String :=
  if result.faults.isEmpty then []
  else ["## Analyzer Failures", ""] ++ result.faults.map fun fault => s!"- {fault.text}"

def lines (threshold : Option Priority) (result : AnalysisResult) : List String :=
  head result ++ listing threshold result ++ foot result

def text (threshold : Option Priority) (result : AnalysisResult) : List Char :=
  joinLines ((lines threshold result).map String.toList)

end PipelineAdvisor.MarkdownReport
