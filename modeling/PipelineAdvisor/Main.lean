import PipelineAdvisor.Command.Program

/-!
The command: gives the program its arguments, its environment and the files of the machine.
-/

namespace PipelineAdvisor

def FileError.ofMachine (error : IO.Error) : FileError :=
  match error with
  | .noFileOrDirectory .. => .notFound
  | .alreadyExists .. => .alreadyExists
  | .inappropriateType _ code _ => if code = 21 then .isDirectory else .notDirectory
  | error => .other (toString error)

def attempt {α : Type} (action : IO α) : IO (Except FileError α) := do
  match ← action.toBaseIO with
  | .ok value => return .ok value
  | .error error => return .error (FileError.ofMachine error)

def machineFiles : FileAccess IO where
  workingDirectory := attempt do return (← IO.currentDir).toString
  isFile path := do
    let path := System.mkFilePath [path]
    return (← path.pathExists) && !(← path.isDir)
  readText path := do
    match ← attempt (IO.FS.readBinFile path) with
    | .error error => return .error error
    | .ok content => return (String.fromUTF8? content).elim (.error .notText) .ok
  makeDirectories path := attempt (IO.FS.createDirAll path)
  write path text := attempt (IO.FS.writeFile path text)

def variableNames : List String :=
  ["CIRCLEOPT_SETTINGS", "RUST_LOG", "NO_COLOR", "CLICOLOR", "CLICOLOR_FORCE"]

end PipelineAdvisor

open PipelineAdvisor in
def main (arguments : List String) : IO UInt32 := do
  let environment ← variableNames.mapM fun name => do return (name, ← IO.getEnv name)
  let valueOf (name : String) : Option String :=
    (environment.find? fun entry => entry.1 == name).bind (·.2)
  let output ← IO.getStdout
  let shown := (← output.isTty) && (← IO.getEnv "TERM") != some "dumb"
  let ending ← Program.run machineFiles arguments valueOf shown
  (← IO.getStderr).putStr ending.errorOutput
  output.putStr ending.output
  return ending.exitCode.toUInt32
