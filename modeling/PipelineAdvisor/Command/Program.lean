import PipelineAdvisor.Command.Arguments

/-!
The whole program: from a command line, an environment and files to an exit code and what is
printed.
-/

namespace PipelineAdvisor.Program

def version : String := "circleopt 0.4.1"

def usage : String :=
  "Usage: circleopt [OPTIONS] [CONFIG]"

structure Ending where
  exitCode : Nat := 0
  output : String := ""
  log : List LogLine := []
  /-- What is told about an error, below the log. -/
  complaint : String := ""

def withLineEnd (text : String) : String :=
  if text.toList.getLast? = some '\n' then text else text ++ "\n"

def explain : RunError → String
  | .load error => s!"Error: {error.message}\nHint: {error.hint}\n"
  | .write error => s!"Error: {error.text}\n"

def analyzerList : String :=
  String.intercalate "\n" Analyzer.builtinNames

def requestOf (arguments : Arguments) (environment : String → Option String) (shown : Bool) :
    AnalyzeRequest :=
  let mode := if arguments.plain then .never else ColorMode.ofEnvironment environment
  { configPath := arguments.config
    format := arguments.format
    output := arguments.output
    threshold := arguments.threshold
    settings := arguments.settings
    parallel := arguments.parallel
    color := mode.usesColor shown }

def run {m : Type → Type} [Monad m] (access : FileAccess m) (arguments : List String)
    (environment : String → Option String) (shown : Bool) : m Ending := do
  match Arguments.read arguments environment with
  | .error error => return { exitCode := 2, complaint := s!"error: {error.text}\n" }
  | .ok .help => return { output := usage ++ "\n" }
  | .ok .version => return { output := version ++ "\n" }
  | .ok (.run arguments) =>
    if arguments.listAnalyzers then return { output := analyzerList ++ "\n" }
    else
      let request := requestOf arguments environment shown
      let (result, log) ← request.run access
      let filter := LogFilter.ofRun (environment "RUST_LOG") arguments.verbosity
      let log := log.filter filter.shows
      match result with
      | .ok outcome => return { output := (outcome.printed.map withLineEnd).getD "", log }
      | .error error => return { exitCode := 1, log, complaint := explain error }

def Ending.errorOutput (ending : Ending) : String :=
  String.join (ending.log.map fun line => line.text ++ "\n") ++ ending.complaint

end PipelineAdvisor.Program
