import PipelineAdvisor.Finding.Priority

/-!
Styles of terminal text. A style is a control sequence in front of a text and a reset behind it;
without colour a text stands as it is.
-/

namespace PipelineAdvisor

inductive Style where
  | header
  | bold
  | dim
  | success
  | warning
  | priority (priority : Priority)
deriving DecidableEq

namespace Style

def parameters : Style → String
  | .header => "1;34"
  | .bold => "1"
  | .dim => "2"
  | .success => "32"
  | .warning => "33"
  | .priority .high => "1;31"
  | .priority .medium => "1;33"
  | .priority .low => "36"

def start (style : Style) : List Char :=
  ['\x1b', '['] ++ style.parameters.toList ++ ['m']

def reset : List Char := ['\x1b', '[', '0', 'm']

/-- Switches a style on again behind every reset inside a text. -/
def resume (start : List Char) : List Char → List Char
  | '\x1b' :: '[' :: '0' :: 'm' :: rest => reset ++ start ++ resume start rest
  | c :: rest => c :: resume start rest
  | [] => []

def paint (style : Style) (text : List Char) : List Char :=
  style.start ++ resume style.start text ++ reset

end Style

/-- When to use styles. Automatic means that it hangs on the output being a terminal. -/
inductive ColorMode where
  | automatic
  | always
  | never
deriving DecidableEq, Inhabited

namespace ColorMode

/-- The mode that environment variables ask for, a later rule overruling an earlier one: any
`NO_COLOR` and a zero in `CLICOLOR` ask for none, a one in `CLICOLOR_FORCE` for styles in any case.
-/
def ofEnvironment (valueOf : String → Option String) : ColorMode :=
  if valueOf "CLICOLOR_FORCE" = some "1" then .always
  else if valueOf "CLICOLOR" = some "0" then .never
  else if (valueOf "NO_COLOR").isSome then .never
  else .automatic

def usesColor (mode : ColorMode) (shown : Bool) : Bool :=
  match mode with
  | .automatic => shown
  | .always => true
  | .never => false

end ColorMode

end PipelineAdvisor
