import PipelineAdvisor.Toml.Error

/-!
Dates and times. A moment is a date, a time, or both with or without an offset; only whether a text
writes one matters here.
-/

namespace PipelineAdvisor.Toml.Moment

def refuse {α : Type} (what : Option String) (expected : String) : Except Problem α :=
  .error (.badMoment what (some expected))

def readDigits (what : Option String) (expected : String) (text : List Char) :
    Except Problem (List Char × List Char) :=
  let digits := text.takeWhile Char.isDigit
  if digits.isEmpty then refuse what expected else .ok (digits, text.drop digits.length)

def readMark (what : Option String) (marks : List Char) (expected : String) :
    List Char → Except Problem (List Char)
  | c :: rest => if marks.contains c then .ok rest else refuse what expected
  | [] => refuse what expected

def valueOf (digits : List Char) : Nat :=
  digits.foldl (fun total digit => 10 * total + (digit.toNat - '0'.toNat)) 0

def demandWidth (what : String) (width : Nat) (expected : String) (digits : List Char) :
    Except Problem Unit :=
  if digits.length = width then .ok () else refuse (some what) expected

def demandRange (what : String) (least most : Nat) (expected : String) (digits : List Char) :
    Except Problem Unit :=
  if least ≤ valueOf digits ∧ valueOf digits ≤ most then .ok () else refuse (some what) expected

def isLeapYear (year : Nat) : Bool :=
  year % 4 == 0 && (year % 100 != 0 || year % 400 == 0)

def daysOf (year month : Nat) : Nat :=
  if month = 2 then (if isLeapYear year then 29 else 28)
  else if month = 4 ∨ month = 6 ∨ month = 9 ∨ month = 11 then 30
  else 31

def readDate (year : List Char) (text : List Char) : Except Problem (List Char) := do
  let what := some "date"
  let (month, rest) ← readDigits what "month" text
  let rest ← readMark what ['-'] "`-` (MM-DD)" rest
  let (day, rest) ← readDigits what "day" rest
  demandWidth "date" 4 "a four-digit year (YYYY)" year
  demandWidth "date" 2 "a two-digit month (MM)" month
  demandWidth "date" 2 "a two-digit day (DD)" day
  demandRange "date" 1 12 "month between 01 and 12" month
  let days := daysOf (valueOf year) (valueOf month)
  demandRange "date" 1 days s!"day between 01 and {days}" day
  return rest

def readFollowing (mark : Char) (expected : String) :
    List Char → Except Problem (Option (List Char) × List Char)
  | c :: rest => do
    if c = mark then
      let (digits, rest) ← readDigits (some "time") expected rest
      return (some digits, rest)
    else return (none, c :: rest)
  | [] => .ok (none, [])

def readTime (text : List Char) : Except Problem (List Char) := do
  let what := some "time"
  let (hour, rest) ← readDigits what "hour" text
  let rest ← readMark what [':'] "`:` (HH:MM)" rest
  let (minute, rest) ← readDigits what "minute" rest
  let (second, rest) ← readFollowing ':' "second" rest
  let rest ← match second with
    | none => pure rest
    | some _ => do
      let (_, rest) ← readFollowing '.' "nanosecond" rest
      pure rest
  demandWidth "time" 2 "a two-digit hour (HH)" hour
  demandWidth "time" 2 "a two-digit minute (MM)" minute
  if let some second := second then demandWidth "time" 2 "a two-digit second (SS)" second
  demandRange "time" 0 23 "hour between 00 and 23" hour
  demandRange "time" 0 59 "minute between 00 and 59" minute
  if let some second := second then demandRange "time" 0 60 "second between 00 and 60" second
  return rest

def readOffset (text : List Char) : Except Problem (List Char) := do
  let what := some "offset"
  match text with
  | [] => return []
  | 'Z' :: rest | 'z' :: rest => return rest
  | '+' :: rest | '-' :: rest =>
    let (hours, rest) ← readDigits what "hour" rest
    let rest ← readMark what [':'] "`:` (HH:MM)" rest
    let (minutes, rest) ← readDigits what "minute" rest
    demandWidth "offset" 2 "a two-digit hour (HH)" hours
    demandWidth "offset" 2 "a two-digit minute (MM)" minutes
    demandRange "offset" 0 23 "hours between 00 and 23" hours
    demandRange "offset" 0 59 "minutes between 00 and 59" minutes
    return rest
  | _ => refuse what "`Z`, +OFFSET, -OFFSET"

def check (text : List Char) : Except Problem Unit := do
  let (first, rest) ← readDigits none "year or hour" text
  let rest ←
    match rest with
    | '-' :: rest => do
      let rest ← readDate first rest
      match rest with
      | [] => pure []
      | 'T' :: rest | 't' :: rest | ' ' :: rest => readTime rest >>= readOffset
      | _ => refuse (some "date-time") "`T` between date and time"
    | ':' :: _ => readTime text
    | _ => refuse none "`-` (YYYY-MM) or `:` (HH:MM)"
  if rest.isEmpty then return ()
  else throw (.badMoment none none)

end PipelineAdvisor.Toml.Moment
