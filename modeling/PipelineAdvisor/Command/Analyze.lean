import PipelineAdvisor.Settings.Discovery
import PipelineAdvisor.Pipeline.Load

/-!
The analysis of a configuration file: settings are found, the file is read and analysed, and the
report is written. Nothing is written before the report is complete.
-/

namespace PipelineAdvisor

structure AnalyzeRequest where
  configPath : String
  format : Option ReportFormat := none
  /-- Where the report goes; without a path it is printed. -/
  output : Option String := none
  threshold : Option Priority := none
  /-- The settings file to use instead of searching one. -/
  settings : Option String := none
  parallel : Bool := false
  color : Bool := false
deriving Inhabited

inductive WriteError where
  | directory (path : String) (error : FileError)
  | report (path : String) (error : FileError)
deriving DecidableEq

def WriteError.text : WriteError → String
  | .directory path error => s!"Failed to create directory {path}: {error.text}"
  | .report path error => s!"Failed to write report to {path}: {error.text}"

inductive RunError where
  | load (error : LoadError)
  | write (error : WriteError)
deriving DecidableEq

structure AnalyzeOutcome where
  result : AnalysisResult
  printed : Option String
deriving DecidableEq

def Config.load {m : Type → Type} [Monad m] (access : FileAccess m) (path : String) :
    m (Except LoadError Config) := do
  match ← access.readText path with
  | .ok text => return Config.parse text
  | .error .notFound => return .error (.notFound path)
  | .error error => return .error (.unreadable path error.text)

def writeReport {m : Type → Type} [Monad m] (access : FileAccess m) (path text : String) :
    m (Except WriteError Unit) := do
  let parent := (FilePath.parent? path).getD ""
  let made ← if parent.isEmpty then pure (.ok ()) else access.makeDirectories parent
  match made with
  | .error error => return .error (.directory parent error)
  | .ok () =>
    match ← access.write path text with
    | .error error => return .error (.report path error)
    | .ok () => return .ok ()

namespace Analysis

def log (analyzers : List Analyzer) (config : Config) (result : AnalysisResult) : List LogLine :=
  let finished := analyzers.filterMap fun analyzer =>
    match analyzer.outcome config with
    | .ok findings =>
      some (⟨.debug, "Analyzer finished", [LogLine.quotedField "analyzer" analyzer.name,
        LogLine.countField "findings" findings.length]⟩ : LogLine)
    | .error _ => none
  let failed := result.faults.map fun fault =>
    (⟨.warn, s!"{fault.text}; continuing without its findings",
      [("analyzer", fault.analyzer)]⟩ : LogLine)
  finished ++ failed ++
    [⟨.info, "Analysis complete", [LogLine.countField "total" result.total,
      LogLine.countField "high" result.counts.high,
      LogLine.countField "medium" result.counts.medium,
      LogLine.countField "low" result.counts.low]⟩]

end Analysis

namespace AnalyzeRequest

/-- The report of a run: format and threshold are those of the request, else those of the settings,
else the terminal format and no threshold. -/
def report (request : AnalyzeRequest) (settings : Settings) (result : AnalysisResult) : String :=
  let format := (request.format.or settings.output.format).getD .terminal
  let threshold := request.threshold.or settings.output.threshold
  result.report format { threshold, color := request.color }

def analyze (request : AnalyzeRequest) (settings : Settings) (config : Config) : AnalysisResult :=
  { settings with parallel := request.parallel || settings.parallel }.analyze config

def configLog (request : AnalyzeRequest) (config : Config) : List LogLine :=
  let counts := [LogLine.countField "jobs" config.jobs.length,
    LogLine.countField "workflows" config.workflows.length]
  [⟨.debug, "Loaded pipeline configuration", ("path", request.configPath) :: counts⟩,
    ⟨.info, s!"Loaded {request.configPath}", counts⟩]

def run {m : Type → Type} [Monad m] (access : FileAccess m) (request : AnalyzeRequest) :
    m (Except RunError AnalyzeOutcome × List LogLine) := do
  let (settings, settingsLog) ← Settings.resolve access request.settings
  match ← Config.load access request.configPath with
  | .error error => return (.error (.load error), settingsLog)
  | .ok config =>
    let result := request.analyze settings config
    let log := settingsLog ++ request.configLog config ++
      Analysis.log settings.analyzers config result
    let text := request.report settings result
    match request.output with
    | none => return (.ok ⟨result, some text⟩, log)
    | some path =>
      match ← writeReport access path text with
      | .error error => return (.error (.write error), log)
      | .ok () => return (.ok ⟨result, none⟩, log)

end AnalyzeRequest

end PipelineAdvisor
