import PipelineAdvisor.Settings.Basic
import PipelineAdvisor.Toml.Document
import PipelineAdvisor.Text.Character

/-!
Reading settings from a document. Keys are looked at in the order of their names; unknown ones are
let pass, but their numbers must not be too large. What is missing takes its default.
-/

namespace PipelineAdvisor.Settings

open Toml (Complaint Extent Value Entries Radix)

inductive Problem where
  | wrongType (shown expected : String)
  | unknownVariant (name : String) (known : List String)
  | notAName
  | noEntry
  | severalEntries
  | fullArray
  | fullTable
  | notATable (type : String)
  | integerOverflow
  | floatOverflow
deriving DecidableEq

def Problem.text : Problem → String
  | .wrongType shown expected => s!"invalid type: {shown}, expected {expected}"
  | .unknownVariant name known =>
    let list := String.intercalate ", " (known.map fun name => "`" ++ name ++ "`")
    s!"unknown variant `{name}`, expected one of {list}"
  | .notAName => "wanted string or table"
  | .noEntry => "wanted exactly 1 element, found 0 elements"
  | .severalEntries => "wanted exactly 1 element, more than 1 element"
  | .fullArray => "expected empty array"
  | .fullTable => "expected empty table"
  | .notATable type => s!"expected table, found {type}"
  | .integerOverflow => "integer number overflowed"
  | .floatOverflow => "floating-point number overflowed"

def refuse {α : Type} (problem : Problem) (place : Extent) : Except Complaint α :=
  .error ⟨problem.text, place⟩

def wholeNumber? (radix : Radix) (digits : List Char) : Option Int :=
  let (negative, digits) :=
    match digits with
    | '-' :: rest => (true, rest)
    | '+' :: rest => (false, rest)
    | digits => (false, digits)
  let value := digits.foldl
    (fun total digit => radix.base * total + Toml.Quoted.hexDigitValue digit) 0
  if digits.isEmpty || !digits.all (Toml.Scalar.isNumeral (some radix)) then none
  else some (if negative then -(value : Int) else value)

def double? (digits : List Char) : Option Binary64 :=
  let (negative, digits) :=
    match digits with
    | '-' :: rest => (true, rest)
    | '+' :: rest => (false, rest)
    | digits => (false, digits)
  let word := String.ofList digits
  if word == "inf" then some (Binary64.infinity negative)
  else if word == "nan" then some (Binary64.nan negative)
  else
    match (readDecimal? digits).map (Decimal.toBinary64 negative) with
    | some value => if value.isInfinite then none else some value
    | none => none

def floatLayout : FloatLayout where
  longestWhole := 400
  mostLeadingZeros := 400
  exponentPlus := []
  positiveInfinity := "inf".toList
  negativeInfinity := "-inf".toList
  notANumber := "NaN".toList

def shownInteger? (value : Int) : Option String :=
  let digits := String.ofList (Json.integerText value)
  if -(Nat.pow 2 63 : Int) ≤ value ∧ value < Nat.pow 2 64 then some s!"integer `{digits}`"
  else if -(Nat.pow 2 127 : Int) ≤ value ∧ value < Nat.pow 2 127 then
    some s!"integer `{digits}` as i128"
  else if 0 ≤ value ∧ value < Nat.pow 2 128 then some s!"integer `{digits}` as u128"
  else none

def shown (value : Value) : Except Problem String :=
  match value with
  | .scalar (.string text) => .ok ("string " ++ String.ofList (Text.quoted text.toList))
  | .scalar (.integer radix digits) =>
    match (wholeNumber? radix digits).bind shownInteger? with
    | some text => .ok text
    | none => .error .integerOverflow
  | .scalar (.float digits) =>
    match double? digits with
    | some value =>
      .ok ("floating point `" ++ String.ofList (floatLayout.render value) ++ "`")
    | none => .error .floatOverflow
  | .scalar (.boolean value) => .ok (if value then "boolean `true`" else "boolean `false`")
  | .scalar .moment => .ok "map"
  | .array _ => .ok "sequence"
  | .tables _ => .ok "sequence"
  | .table _ _ => .ok "map"

def mismatch {α : Type} (expected : String) (place : Extent) (value : Value) :
    Except Complaint α :=
  match shown value with
  | .ok text => refuse (.wrongType text expected) place
  | .error problem => refuse problem place

mutual

/-- Lets a value pass whatever it is, as long as its numbers are not too large. -/
def accept (place : Extent) : Value → Except Complaint Unit
  | .scalar value =>
    match shown (.scalar value) with
    | .ok _ => .ok ()
    | .error problem => refuse problem place
  | .array items => acceptItems items
  | .tables items => acceptItems items
  | .table _ entries => acceptEntries entries

def acceptItems : List (Extent × Value) → Except Complaint Unit
  | [] => .ok ()
  | (place, value) :: rest => do
    accept place value
    acceptItems rest

def acceptEntries : Entries → Except Complaint Unit
  | [] => .ok ()
  | (_, place, value) :: rest => do
    accept place value
    acceptEntries rest

end

def decodeBool (place : Extent) : Value → Except Complaint Bool
  | .scalar (.boolean value) => .ok value
  | value => mismatch "a boolean" place value

def decodeString (place : Extent) : Value → Except Complaint String
  | .scalar (.string text) => .ok text
  | value => mismatch "a string" place value

def decodeStrings (place : Extent) : Value → Except Complaint (List String)
  | .array items | .tables items => items.mapM fun (place, item) => decodeString place item
  | value => mismatch "a sequence" place value

/-- One of some names: as a string, or as the only key of a table, with an empty value. -/
def decodeName {α : Type} (all : List α) (keyword : α → String) (place : Extent) :
    Value → Except Complaint α
  | .scalar (.string name) => find name place
  | .table _ [] => refuse .noEntry place
  | .table _ [(key, place, value)] => do
    let found ← find key.name key.extent
    match value with
    | .array [] | .tables [] | .table _ [] => return found
    | .array _ | .tables _ => refuse .fullArray place
    | .table _ _ => refuse .fullTable place
    | .scalar _ => refuse (.notATable value.typeName) place
  | .table _ _ => refuse .severalEntries place
  | _ => refuse .notAName place
where
  find (name : String) (place : Extent) : Except Complaint α :=
    match all.find? fun variant => keyword variant == name with
    | some variant => .ok variant
    | none => refuse (.unknownVariant name (all.map keyword)) place

def decodeFormat : Extent → Value → Except Complaint ReportFormat :=
  decodeName ReportFormat.all ReportFormat.keyword

def decodeThreshold : Extent → Value → Except Complaint Priority :=
  decodeName Priority.all Priority.keyword

/-- Output settings: a table, or an array of the format and the threshold. -/
def decodeOutput (place : Extent) : Value → Except Complaint OutputSettings
  | .table _ entries =>
    entries.foldlM (fun output (key, place, value) => do
      if key.name == "format" then
        return { output with format := some (← decodeFormat place value) }
      else if key.name == "min_priority" then
        return { output with threshold := some (← decodeThreshold place value) }
      else
        accept place value
        return output) {}
  | .array items | .tables items =>
    match items with
    | [] => .ok {}
    | (place, format) :: rest => do
      let format ← decodeFormat place format
      match rest with
      | [] => return { format := some format }
      | (place, threshold) :: _ =>
        return { format := some format, threshold := some (← decodeThreshold place threshold) }
  | value => mismatch "struct OutputSettings" place value

def decode (entries : Entries) : Except Complaint Settings :=
  entries.foldlM (fun settings (key, place, value) => do
    if key.name == "disabled_analyzers" then
      return { settings with disabledAnalyzers := ← decodeStrings place value }
    else if key.name == "output" then
      return { settings with output := ← decodeOutput place value }
    else if key.name == "parallel" then
      return { settings with parallel := ← decodeBool place value }
    else
      accept place value
      return settings) {}

def parse (text : String) : Except String Settings :=
  match Toml.readDocument text.toList >>= decode with
  | .ok settings => .ok settings
  | .error complaint => .error s!"Failed to parse {fileName}: {complaint.render text.toList}"

end PipelineAdvisor.Settings
