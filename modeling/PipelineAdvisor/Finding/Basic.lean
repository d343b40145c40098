import PipelineAdvisor.Finding.Priority
import PipelineAdvisor.Finding.Category
import PipelineAdvisor.Number.Binary64

/-!
One detected opportunity. The id is made of category, rule and subject; everything else is text for
the reader, apart from the score, which orders findings of one priority.
-/

namespace PipelineAdvisor

/-- What a finding promises to save. The time is free text whose unit varies between rules. -/
structure Savings where
  costPercent : Option Nat := none
  time : Option String := none
deriving DecidableEq, Inhabited

namespace Savings

def cost (percent : Nat) : Savings where
  costPercent := some percent

def ofTime (text : String) : Savings where
  time := some text

end Savings

structure Finding where
  id : String
  category : Category
  priority : Priority
  /-- Orders the findings of one priority, larger first. -/
  score : Binary64
  title : String
  currentState : String := ""
  problem : String := ""
  recommendation : String := ""
  example? : Option String := none
  savings? : Option Savings := none
  affectedJobs : List String := []
deriving DecidableEq, Inhabited

namespace Finding

def idOf (category : Category) (rule subject : String) : String :=
  category.slug ++ "-" ++ rule ++ "-" ++ subject

def start (category : Category) (rule subject : String) (priority : Priority) (score : Binary64)
    (title : String) : Finding where
  id := idOf category rule subject
  category
  priority
  score
  title

def costPercent? (finding : Finding) : Option Nat :=
  finding.savings?.bind (·.costPercent)

def time? (finding : Finding) : Option String :=
  finding.savings?.bind (·.time)

end Finding

end PipelineAdvisor
