import PipelineAdvisor.Finding.Basic
import PipelineAdvisor.Finding.Score

/-!
Ranking findings and summing them up. `ranked` sorts by priority, then by falling score, and keeps
the order of what ties; `summarize` counts a list and adds up what it promises.
-/

namespace PipelineAdvisor

structure Fault where
  analyzer : String
  message : String
deriving DecidableEq, Inhabited

def Fault.text (fault : Fault) : String :=
  s!"analyzer '{fault.analyzer}' failed: {fault.message}"

structure PriorityCounts where
  high : Nat
  medium : Nat
  low : Nat
deriving DecidableEq, Inhabited

namespace PriorityCounts

def ofFindings (findings : List Finding) : PriorityCounts where
  high := findings.countP fun finding => finding.priority == .high
  medium := findings.countP fun finding => finding.priority == .medium
  low := findings.countP fun finding => finding.priority == .low

def get (counts : PriorityCounts) : Priority → Nat
  | .high => counts.high
  | .medium => counts.medium
  | .low => counts.low

end PriorityCounts

structure SavingsSummary where
  costPercent : Nat
  minutes : Nat
deriving DecidableEq, Inhabited

structure AnalysisResult where
  total : Nat
  counts : PriorityCounts
  savings : SavingsSummary
  findings : List Finding
  faults : List Fault
deriving DecidableEq, Inhabited

namespace Finding

/-- Whether the first finding may stand before the second: it is more urgent, or as urgent with a
score at least as large in the total order of doubles. -/
def mayPrecede (first second : Finding) : Bool :=
  first.priority.rank < second.priority.rank ||
    (first.priority.rank == second.priority.rank &&
      second.score.orderKey ≤ first.score.orderKey)

def ranked (findings : List Finding) : List Finding :=
  findings.mergeSort mayPrecede

end Finding

def firstDigits (text : List Char) : List Char :=
  (text.dropWhile fun c => !Text.isDecimalDigit c).takeWhile Text.isDecimalDigit

/-- The number that the first run of digits writes, if its digits are ASCII and it is below `2 ^
32`. -/
def leadingInteger? (text : String) : Option Nat :=
  let digits := firstDigits text.toList
  let value := digits.foldl (fun total digit => 10 * total + (digit.toNat - '0'.toNat)) 0
  if !digits.isEmpty && digits.all Char.isDigit && value < Nat.pow 2 32 then some value else none

def doubleSum (values : List Nat) : Binary64 :=
  values.foldl (fun total value => total.add (.ofNat value)) (.ofNat 0)

/-- The mean of percentages, computed in double precision, rounded to a whole number and cut off at
100; zero when there are none. -/
def meanPercent (percents : List Nat) : Nat :=
  if percents.isEmpty then 0
  else min 100 ((doubleSum percents).div (.ofNat percents.length)).roundHalfUp

def largestCount : Nat := Nat.pow 2 32 - 1

/-- The sum of numbers of 32 bits, which stays at the largest one once it gets there. -/
def saturatedSum (values : List Nat) : Nat :=
  values.foldl (fun total value => min largestCount (total + value)) 0

/-- What findings promise together: the mean of their cost percentages, and the sum of the leading
numbers of their time texts up to a cap. The units of those texts are not looked at. -/
def totalSavings (findings : List Finding) : SavingsSummary where
  costPercent := meanPercent (findings.filterMap Finding.costPercent?)
  minutes :=
    min timeSavedCap (saturatedSum ((findings.filterMap Finding.time?).filterMap leadingInteger?))

def summarize (findings : List Finding) (faults : List Fault) : AnalysisResult where
  total := findings.length
  counts := PriorityCounts.ofFindings findings
  savings := totalSavings findings
  findings
  faults

end PipelineAdvisor
