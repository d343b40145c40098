import PipelineAdvisor.Text.Search

/-!
How urgent a finding is. Priorities are ordered by rank, high first; a threshold admits every
priority of its own rank or a smaller one.
-/

namespace PipelineAdvisor

inductive Priority where
  | high
  | medium
  | low
deriving DecidableEq, Inhabited, Repr

namespace Priority

def all : List Priority := [.high, .medium, .low]

def rank : Priority → Nat
  | .high => 0
  | .medium => 1
  | .low => 2

def meets (priority threshold : Priority) : Bool :=
  priority.rank ≤ threshold.rank

def label : Priority → String
  | .high => "High"
  | .medium => "Medium"
  | .low => "Low"

def keyword : Priority → String
  | .high => "high"
  | .medium => "medium"
  | .low => "low"

def ofKeyword? (text : String) : Option Priority :=
  all.find? fun priority => priority.keyword == text

/-- The priority that a user wrote, in any mixture of upper and lower case. The error is the text
that explains what was expected. -/
def ofUser (text : String) : Except String Priority :=
  match ofKeyword? text.toLower with
  | some priority => .ok priority
  | none => .error s!"unknown priority '{text.toLower}' (expected high, medium or low)"

end Priority

end PipelineAdvisor
