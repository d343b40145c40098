import PipelineAdvisor.Report.Page
import PipelineAdvisor.Report.Listing

/-!
The report for a terminal: a head with the figures, the listed groups, and the faults. Only the
listing depends on the threshold.
-/

namespace PipelineAdvisor.TerminalReport

def finding (number : Nat) (finding : Finding) : List Block :=
  [.line [.plain s!"{number}. ", .styled .bold finding.title, .plain " ",
      .styled .dim s!"[{finding.id}]"],
    .ofText s!"   Problem:        {finding.problem}"] ++
    (if finding.currentState.isEmpty then []
      else [.ofText s!"   Current state:  {finding.currentState}"]) ++
    [.ofText s!"   Recommendation: {finding.recommendation}"] ++
    (finding.savingsText?.map fun savings =>
      Block.line [.plain "   Savings:        ", .styled .success savings]).toList ++
    (if finding.affectedJobs.isEmpty then []
      else
        let jobs := String.intercalate ", " finding.affectedJobs
        [.ofText s!"   Affected jobs:  {jobs}"]) ++
    (match finding.example? with
      | none => []
      | some snippet =>
        .ofText "   Example:" :: (Text.lines snippet.toList).map fun line =>
          .line [.plain "     ", { style := some .dim, text := line }]) ++
    [.blank]

def group (priority : Priority) (findings : List Finding) : List Block :=
  [.line [.styled (.priority priority) s!"{priority.label} priority ({findings.length})"],
    .blank] ++
    (findings.zipIdx 1).flatMap fun (finding, number) => TerminalReport.finding number finding

def head (result : AnalysisResult) : List Block :=
  [.line [.styled .header "CircleCI Optimization Report"], .blank] ++
    if result.findings.isEmpty then
      [.line [.styled .success
        "No optimization opportunities found. The config looks good."]]
    else [.table { header := ("Metric", "Value"), rows := result.figures }, .blank]

def listing (threshold : Option Priority) (result : AnalysisResult) : List Block :=
  (result.groups threshold).flatMap fun (priority, findings) => group priority findings

def foot (result : AnalysisResult) : List Block :=
  if result.faults.isEmpty then []
  else
    [.blank,
      .line [.styled .warning "Some analyzers failed; their checks were skipped:"]] ++
      result.faults.map fun fault => .ofText s!"  - {fault.text}"

def blocks (threshold : Option Priority) (result : AnalysisResult) : List Block :=
  head result ++ listing threshold result ++ foot result

def text (color : Bool) (threshold : Option Priority) (result : AnalysisResult) : List Char :=
  renderPage color (blocks threshold result)

end PipelineAdvisor.TerminalReport
