import PipelineAdvisor.Number.Binary64

/-!
Rates and scores. Credit rates belong to the size of an executor; scores order findings of one
priority and mean nothing across priorities.
-/

namespace PipelineAdvisor

def defaultTier : String := "medium"

def creditRates : List (String × Nat) :=
  [("small", 5), ("medium", 10), ("medium+", 15), ("large", 20), ("xlarge", 40), ("2xlarge", 80),
    ("2xlarge+", 100)]

def creditRate? (tier : String) : Option Nat :=
  (creditRates.find? fun entry => entry.1 == tier).map (·.2)

def oversizedTiers : List String := ["large", "xlarge", "2xlarge"]

def isOversized (tier : String) : Bool :=
  oversizedTiers.contains tier

def shortJobMinutes : Nat := 5

def smallTierMinutes : Nat := 3

def timeSavedCap : Nat := 30

def fanOutCap : Nat := 10

def estimatedMinutes (steps : Nat) : Nat :=
  if steps ≤ 2 then 2 else if steps ≤ 4 then 4 else if steps ≤ 7 then 7 else 10

/-- The percentage saved by paying `recommended` instead of `current`, computed in double precision
and rounded to a whole number from 0 to 100, a half upwards. -/
def savingsPercent (current recommended : Nat) : Nat :=
  if current = 0 then 0
  else
    let ratio := (Binary64.ofNat recommended).div (Binary64.ofNat current)
    let saved := (Binary64.ofNat 100).mul ((Binary64.ofNat 1).sub ratio)
    min 100 saved.roundHalfUp

namespace Score

def oversizedTier (percent : Nat) : Binary64 :=
  (Binary64.ofNat 80).add ((Binary64.ofNat percent).div (Binary64.ofNat 5))

def unspecifiedTier : Binary64 := .ofNat 30
def missingCache : Binary64 := .ofNat 80
def weakCacheKey : Binary64 := .ofNat 50
def testSplitting : Binary64 := .ofNat 70
def fanOut : Binary64 := .ofNat 60
def layerCache : Binary64 := .ofNat 65
def reusableOrb : Binary64 := .ofNat 40
def approvalGate : Binary64 := .ofNat 30
def hardcodedSecret : Binary64 := .ofNat 90

end Score

end PipelineAdvisor
