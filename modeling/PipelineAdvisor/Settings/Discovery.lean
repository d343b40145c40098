import PipelineAdvisor.Settings.Decode
import PipelineAdvisor.Files.Tree
import PipelineAdvisor.Command.Log

/-!
Finding settings: in a given file, or in the nearest directory upwards that has a usable settings
file. The search never fails; files that cannot be used are logged and passed by.
-/

namespace PipelineAdvisor.Settings

/-- The search looks at this many directories, the working directory among them. -/
def searchedDirectories : Nat := 10

def candidates (directory : String) : List String :=
  (FilePath.upward searchedDirectories directory).map fun parent =>
    FilePath.inside parent fileName

def loadFrom {m : Type → Type} [Monad m] (access : FileAccess m) (path : String) :
    m (Except String Settings) := do
  match ← access.readText path with
  | .error error => return .error s!"Failed to read settings file {path}: {error.text}"
  | .ok text => return parse text

def tryFile {m : Type → Type} [Monad m] (access : FileAccess m) (path : String) :
    m (Option Settings × List LogLine) := do
  if !(← access.isFile path) then return (none, [])
  else
    match ← access.readText path with
    | .error error =>
      return (none, [⟨.warn, s!"Failed to read settings file {path}: {error.text}", []⟩])
    | .ok text =>
      match parse text with
      | .ok settings => return (some settings, [⟨.debug, s!"Loaded settings from {path}", []⟩])
      | .error message => return (none, [⟨.warn, s!"{message}. Using default settings.", []⟩])

def firstUsable {m : Type → Type} [Monad m] (access : FileAccess m) :
    List String → m (Option Settings × List LogLine)
  | [] => return (none, [])
  | path :: rest => do
    match ← tryFile access path with
    | (some settings, log) => return (some settings, log)
    | (none, log) =>
      let (found, more) ← firstUsable access rest
      return (found, log ++ more)

def discover {m : Type → Type} [Monad m] (access : FileAccess m) :
    m (Settings × List LogLine) := do
  match ← access.workingDirectory with
  | .error error =>
    let message := s!"Failed to get current directory: {error.text}. Using default settings."
    return ({}, [⟨.warn, message, []⟩])
  | .ok directory =>
    match ← firstUsable access (candidates directory) with
    | (some settings, log) => return (settings, log)
    | (none, log) =>
      return ({}, log ++ [⟨.debug, s!"No {fileName} found. Using default settings.", []⟩])

/-- The settings of a run: those in the given file, or those that a search finds. A given file that
cannot be used gives the defaults. -/
def resolve {m : Type → Type} [Monad m] (access : FileAccess m) (given : Option String) :
    m (Settings × List LogLine) := do
  let (settings, log) ←
    match given with
    | none => discover access
    | some path =>
      match ← loadFrom access path with
      | .ok settings => pure (settings, [])
      | .error message =>
        pure (({} : Settings), [(⟨.warn, s!"{message}. Using default settings.", []⟩ : LogLine)])
  let unknown := (settings.unknownAnalyzers Analyzer.builtinNames).map fun name =>
    (⟨.warn, s!"Unknown analyzer '{name}' in disabled_analyzers; ignoring it", []⟩ : LogLine)
  return (settings, log ++ unknown)

end PipelineAdvisor.Settings
