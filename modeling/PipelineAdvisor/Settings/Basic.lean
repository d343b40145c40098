import PipelineAdvisor.Report.Format
import PipelineAdvisor.Rules.Analysis

/-!
Settings of a run: which analyzers to leave out, whether the others run side by side, and how the
report is written unless the command line says otherwise.
-/

namespace PipelineAdvisor

structure OutputSettings where
  format : Option ReportFormat := none
  threshold : Option Priority := none
deriving DecidableEq, Inhabited

structure Settings where
  disabledAnalyzers : List String := []
  parallel : Bool := false
  output : OutputSettings := {}
deriving DecidableEq, Inhabited

namespace Settings

def fileName : String := ".circleopt.toml"

def isDisabled (settings : Settings) (analyzer : String) : Bool :=
  settings.disabledAnalyzers.contains analyzer

def unknownAnalyzers (settings : Settings) (known : List String) : List String :=
  settings.disabledAnalyzers.filter fun name => !known.contains name

def analyzers (settings : Settings) : List Analyzer :=
  Analyzer.builtin.filter fun analyzer => !settings.isDisabled analyzer.name

def analyze (settings : Settings) (config : Config) : AnalysisResult :=
  Analysis.run settings.analyzers settings.parallel config

end Settings

end PipelineAdvisor
