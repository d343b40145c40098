import PipelineAdvisor.Report.Terminal
import PipelineAdvisor.Report.Markdown
import PipelineAdvisor.Finding.Encode
import PipelineAdvisor.Json.Printer

/-!
The formats of a report. Data hold every finding; the other two list those that meet the threshold.
-/

namespace PipelineAdvisor

inductive ReportFormat where
  | terminal
  | json
  | markdown
deriving DecidableEq, Inhabited

namespace ReportFormat

def all : List ReportFormat := [.terminal, .json, .markdown]

def keyword : ReportFormat → String
  | .terminal => "terminal"
  | .json => "json"
  | .markdown => "markdown"

def ofKeyword? (text : String) : Option ReportFormat :=
  all.find? fun format => format.keyword == text

end ReportFormat

structure ReportOptions where
  /-- Findings below this priority are not listed. -/
  threshold : Option Priority := none
  /-- Whether the terminal report uses styles. -/
  color : Bool := false
deriving Inhabited

def AnalysisResult.report (result : AnalysisResult) (format : ReportFormat)
    (options : ReportOptions) : String :=
  String.ofList <|
    match format with
    | .terminal => TerminalReport.text options.color options.threshold result
    | .json => result.toJson.pretty
    | .markdown => MarkdownReport.text options.threshold result

end PipelineAdvisor
