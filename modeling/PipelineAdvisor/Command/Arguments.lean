import PipelineAdvisor.Command.Analyze

/-!
The command line. Arguments are read from left to right; an option takes its value from the same
argument or from the next one that is no option, and its value is looked at when the next argument
is recognised. Behind two dashes nothing is an option.
-/

namespace PipelineAdvisor

structure Arguments where
  config : String := ".circleci/config.yml"
  format : Option ReportFormat := none
  output : Option String := none
  threshold : Option Priority := none
  settings : Option String := none
  parallel : Bool := false
  plain : Bool := false
  verbosity : Nat := 0
  listAnalyzers : Bool := false
deriving DecidableEq, Inhabited

inductive CommandRequest where
  | run (arguments : Arguments)
  | help
  | version
deriving DecidableEq

inductive UsageError where
  | missingValue (option : String)
  | impossibleValue (value option : String)
  /-- A value that does not parse, with the reason. -/
  | badValue (value option reason : String)
  | unknownArgument (argument : String)
  | repeatedOption (option : String)
  | unneededValue (value option : String)
deriving DecidableEq

def UsageError.text : UsageError → String
  | .missingValue option => s!"a value is required for '{option}' but none was supplied"
  | .impossibleValue value option => s!"invalid value '{value}' for '{option}'"
  | .badValue value option reason => s!"invalid value '{value}' for '{option}': {reason}"
  | .unknownArgument argument => s!"unexpected argument '{argument}' found"
  | .repeatedOption option => s!"the argument '{option}' cannot be used multiple times"
  | .unneededValue value option =>
    s!"unexpected value '{value}' for '{option}' found; no more were expected"

inductive ValueOption where
  | format
  | output
  | threshold
  | settings
deriving DecidableEq

inductive FlagOption where
  | parallel
  | plain
  | verbose
  | listAnalyzers
  | help
  | version
deriving DecidableEq

inductive OptionName where
  | value (option : ValueOption)
  | flag (option : FlagOption)
deriving DecidableEq

namespace OptionName

def all : List (String × Option Char × OptionName) :=
  [("format", some 'f', .value .format), ("output", some 'o', .value .output),
    ("min-priority", none, .value .threshold), ("settings", none, .value .settings),
    ("parallel", none, .flag .parallel), ("plain", none, .flag .plain),
    ("verbose", some 'v', .flag .verbose), ("list-analyzers", none, .flag .listAnalyzers),
    ("help", some 'h', .flag .help), ("version", some 'V', .flag .version)]

def ofLong? (name : String) : Option OptionName :=
  (all.find? fun entry => entry.1 == name).map (·.2.2)

def ofLetter? (letter : Char) : Option OptionName :=
  (all.find? fun entry => entry.2.1 == some letter).map (·.2.2)

end OptionName

def ValueOption.shown : ValueOption → String
  | .format => "--format <FORMAT>"
  | .output => "--output <OUTPUT>"
  | .threshold => "--min-priority <MIN_PRIORITY>"
  | .settings => "--settings <SETTINGS>"

def FlagOption.shown : FlagOption → String
  | .parallel => "--parallel"
  | .plain => "--plain"
  | .verbose => "--verbose..."
  | .listAnalyzers => "--list-analyzers"
  | .help => "--help"
  | .version => "--version"

namespace Arguments

def verbosityCap : Nat := 255

/-- What has been recognised but not looked at: the value of an option, if it has come, or the
configuration. -/
inductive Pending where
  | option (name : ValueOption) (value : Option String)
  | config (value : String)

structure Reading where
  arguments : Arguments := {}
  given : List OptionName := []
  pending : Option Pending := none
  /-- Whether the next argument that is no option is the value of the pending option. -/
  awaitsValue : Bool := false
  hasConfig : Bool := false
  /-- Whether two dashes have come. -/
  trailing : Bool := false

def pathValue (shown value : String) : Except UsageError String :=
  if value.isEmpty then .error (.missingValue shown) else .ok value

def setValue (arguments : Arguments) (option : ValueOption) (value : String) :
    Except UsageError Arguments := do
  match option with
  | .format =>
    match ReportFormat.ofKeyword? value with
    | some format => return { arguments with format := some format }
    | none =>
      if value.isEmpty then throw (.missingValue option.shown)
      else throw (.impossibleValue value option.shown)
  | .output => return { arguments with output := some (← pathValue option.shown value) }
  | .settings => return { arguments with settings := some (← pathValue option.shown value) }
  | .threshold =>
    match Priority.ofUser value with
    | .ok threshold => return { arguments with threshold := some threshold }
    | .error reason => throw (.badValue value option.shown reason)

namespace Reading

def note (reading : Reading) (name : OptionName) (shown : String) : Except UsageError Reading :=
  if reading.given.contains name then .error (.repeatedOption shown)
  else .ok { reading with given := name :: reading.given }

def takeValue (reading : Reading) (option : ValueOption) (value : Option String) :
    Except UsageError Reading := do
  match value with
  | none => throw (.missingValue option.shown)
  | some value =>
    let reading ← reading.note (.value option) option.shown
    return { reading with arguments := ← setValue reading.arguments option value }

def settle (reading : Reading) : Except UsageError Reading := do
  let settled := { reading with pending := none, awaitsValue := false }
  match reading.pending with
  | none => return settled
  | some (.option option value) => settled.takeValue option value
  | some (.config value) =>
    let config ← pathValue "[CONFIG]" value
    return { settled with arguments := { settled.arguments with config } }

def takeFlag (reading : Reading) (flag : FlagOption) :
    Except UsageError (Reading ⊕ CommandRequest) := do
  let reading ← reading.settle
  let arguments := reading.arguments
  let once (arguments : Arguments) : Except UsageError (Reading ⊕ CommandRequest) := do
    return .inl { ← reading.note (.flag flag) flag.shown with arguments }
  match flag with
  | .help => return .inr .help
  | .version => return .inr .version
  | .verbose =>
    let verbosity := min verbosityCap (arguments.verbosity + 1)
    return .inl { reading with arguments := { arguments with verbosity } }
  | .parallel => once { arguments with parallel := true }
  | .plain => once { arguments with plain := true }
  | .listAnalyzers => once { arguments with listAnalyzers := true }

def takeOption (reading : Reading) (option : ValueOption) (attached : Option String) :
    Except UsageError (Reading ⊕ CommandRequest) := do
  let reading ← reading.settle
  match attached with
  | some value => return .inl (← reading.takeValue option (some value))
  | none =>
    return .inl { reading with pending := some (.option option none), awaitsValue := true }

def takeLong (reading : Reading) (text : List Char) :
    Except UsageError (Reading ⊕ CommandRequest) := do
  let name := String.ofList (text.takeWhile (· != '='))
  let attached :=
    match text.dropWhile (· != '=') with
    | [] => none
    | _ :: value => some (String.ofList value)
  match OptionName.ofLong? name with
  | none => throw (.unknownArgument ("--" ++ name))
  | some (.value option) => reading.takeOption option attached
  | some (.flag flag) =>
    match attached with
    | some value => throw (.unneededValue value flag.shown)
    | none => reading.takeFlag flag

/-- Reads the letters behind one dash; what stands behind the letter of an option with a value is
its value. -/
def takeLetters (reading : Reading) :
    List Char → Except UsageError (Reading ⊕ CommandRequest)
  | [] => .ok (.inl reading)
  | letter :: rest => do
    match OptionName.ofLetter? letter with
    | none => throw (.unknownArgument ("-" ++ letter.toString))
    | some (.value option) =>
      let attached :=
        match rest with
        | [] => none
        | '=' :: value => some (String.ofList value)
        | value => some (String.ofList value)
      reading.takeOption option attached
    | some (.flag flag) =>
      match ← reading.takeFlag flag with
      | .inl reading => reading.takeLetters rest
      | .inr request => return .inr request

def takePlain (reading : Reading) (argument : String) : Except UsageError Reading := do
  match reading.awaitsValue && !reading.trailing, reading.pending with
  | true, some (.option option _) =>
    let pending := Pending.option option (some argument)
    return { reading with pending := some pending, awaitsValue := false }
  | _, _ =>
    if reading.hasConfig then throw (.unknownArgument argument)
    else return { ← reading.settle with pending := some (.config argument), hasConfig := true }

def step (reading : Reading) (argument : String) :
    Except UsageError (Reading ⊕ CommandRequest) := do
  let plain : Except UsageError (Reading ⊕ CommandRequest) :=
    return .inl (← reading.takePlain argument)
  if reading.trailing then plain
  else
    match argument.toList with
    | ['-', '-'] => return .inl { reading with trailing := true }
    | '-' :: '-' :: text => reading.takeLong text
    | ['-'] => plain
    | '-' :: letters => reading.takeLetters letters
    | _ => plain

/-- Looks at what is left when all arguments are read. Settings that were not given come from the
environment. -/
def finish (reading : Reading) (defaultSettings : Option String) : Except UsageError Arguments := do
  let reading ← reading.settle
  match defaultSettings with
  | none => return reading.arguments
  | some path =>
    if reading.given.contains (.value .settings) then return reading.arguments
    else setValue reading.arguments .settings path

end Reading

def readFrom (defaultSettings : Option String) :
    Reading → List String → Except UsageError CommandRequest
  | reading, [] => do return .run (← reading.finish defaultSettings)
  | reading, argument :: rest => do
    match ← reading.step argument with
    | .inl reading => readFrom defaultSettings reading rest
    | .inr request => return request

def read (arguments : List String) (environment : String → Option String) :
    Except UsageError CommandRequest :=
  readFrom (environment "CIRCLEOPT_SETTINGS") {} arguments

end Arguments

end PipelineAdvisor
