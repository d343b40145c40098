import PipelineAdvisor.Text.Character
import PipelineAdvisor.Text.Search

/-!
Log lines. A line has a level, a message and fields; a filter decides which levels are shown.
-/

namespace PipelineAdvisor

inductive LogLevel where
  | error
  | warn
  | info
  | debug
  | trace
deriving DecidableEq, Inhabited

namespace LogLevel

def all : List LogLevel := [.error, .warn, .info, .debug, .trace]

def name : LogLevel → String
  | .error => "ERROR"
  | .warn => "WARN"
  | .info => "INFO"
  | .debug => "DEBUG"
  | .trace => "TRACE"

def detail : LogLevel → Nat
  | .error => 0
  | .warn => 1
  | .info => 2
  | .debug => 3
  | .trace => 4

def ofVerbosity : Nat → LogLevel
  | 0 => .warn
  | 1 => .info
  | 2 => .debug
  | _ => .trace

end LogLevel

structure LogLine where
  level : LogLevel
  message : String
  fields : List (String × String) := []
deriving DecidableEq, Inhabited

namespace LogLine

/-- A character of a message. Those that could steer a terminal are shown by their codes. -/
def safeChar (c : Char) : List Char :=
  match c with
  | '\x1b' => "\\x1b".toList
  | '\x07' => "\\x07".toList
  | '\x08' => "\\x08".toList
  | '\x0c' => "\\x0c".toList
  | '\x7f' => "\\x7f".toList
  | c =>
    if 0x80 ≤ c.toNat && c.toNat ≤ 0x9F then
      ['\\', 'u', '{'] ++ Text.hexDigits c.toNat ++ ['}']
    else [c]

def quotedField (name value : String) : String × String :=
  (name, String.ofList (Text.quoted value.toList))

def countField (name : String) (value : Nat) : String × String :=
  (name, s!"{value}")

def text (line : LogLine) : String :=
  let message := String.ofList (line.message.toList.flatMap safeChar)
  String.intercalate " "
    (line.level.name :: message :: line.fields.map fun (name, value) => s!"{name}={value}")

end LogLine

/-- Which levels are shown; none shows nothing. -/
abbrev LogFilter := Option LogLevel

namespace LogFilter

def target : String := "circleopt"

def shows (filter : LogFilter) (line : LogLine) : Bool :=
  filter.any fun limit => line.level.detail ≤ limit.detail

def ofWord? (word : String) : Option LogFilter :=
  let lower := String.ofList (Text.lowerAscii word.toList)
  if lower == "off" || lower == "0" then some none
  else
    (LogLevel.all.find? fun level =>
      String.ofList (Text.lowerAscii level.name.toList) == lower ||
        s!"{level.detail + 1}" == lower).map some

def ofDirective? (directive : String) : Option (String × LogFilter) :=
  match ofWord? directive with
  | some filter => some ("", filter)
  | none =>
    let name := directive.toList.takeWhile (· != '=')
    let isName :=
      !name.isEmpty && name.all fun c => c.isAlphanum || c == '_' || c == ':' || c == '-'
    if !isName then none
    else
      match directive.toList.drop name.length with
      | [] => some (String.ofList name, some .trace)
      | _ :: word => (ofWord? (String.ofList word)).map fun filter => (String.ofList name, filter)

/-- The filter that a list of directives with commas between them makes for this program: the
longest name counts, and of several the last one. An empty list shows errors. -/
def ofDirectives? (text : String) : Option LogFilter := do
  let parts := (text.splitOn ",").filter (· != "")
  let directives ← parts.mapM ofDirective?
  if directives.isEmpty then return some .error
  let fitting := directives.filter fun directive => target.startsWith directive.1
  return (fitting.foldl (fun (best : Option (String × LogFilter)) directive =>
    match best with
    | some chosen => if directive.1.length < chosen.1.length then some chosen else some directive
    | none => some directive) none).elim none (·.2)

def ofRun (directives : Option String) (verbosity : Nat) : LogFilter :=
  (directives.bind ofDirectives?).getD (some (.ofVerbosity verbosity))

end LogFilter

end PipelineAdvisor
