import PipelineAdvisor.Finding.Summary
import PipelineAdvisor.Json.Printer
import PipelineAdvisor.Text.Character

/-!
Reading results back from data. A record is an object, whose members are looked at in the order of
their names, or an array of its fields in order. The first bad member is reported, and missing ones
after that.
-/

namespace PipelineAdvisor

inductive DecodeError where
  /-- A value of the wrong kind, as it is shown, and what should stand there. -/
  | wrongType (shown expected : String)
  | wrongValue (shown expected : String)
  | wrongLength (length : Nat) (expected : String)
  | unknownVariant (name : String) (known : List String)
  | missingField (name : String)
deriving DecidableEq

def DecodeError.message : DecodeError → String
  | .wrongType shown expected => s!"invalid type: {shown}, expected {expected}"
  | .wrongValue shown expected => s!"invalid value: {shown}, expected {expected}"
  | .wrongLength length expected => s!"invalid length {length}, expected {expected}"
  | .unknownVariant name known =>
    let list := String.intercalate ", " (known.map fun name => "`" ++ name ++ "`")
    s!"unknown variant `{name}`, expected one of {list}"
  | .missingField name => s!"missing field `{name}`"

namespace Json

def shown : Json → String
  | .null => "null"
  | .bool value => if value then "boolean `true`" else "boolean `false`"
  | .integer value => "integer `" ++ String.ofList (integerText value) ++ "`"
  | .float value => "floating point `" ++ String.ofList (floatLayout.render value) ++ "`"
  | .string value => "string " ++ String.ofList (Text.quoted value.toList)
  | .array _ => "sequence"
  | .object _ => "map"

abbrev Decoder (α : Type) := Json → Except DecodeError α

def unexpected {α : Type} (value : Json) (expected : String) : Except DecodeError α :=
  .error (.wrongType value.shown expected)

def decodeString : Decoder String
  | .string text => .ok text
  | value => unexpected value "a string"

def decodeNat (limit : Nat) (type : String) : Decoder Nat
  | .integer value =>
    if 0 ≤ value ∧ value < limit then .ok value.toNat
    else .error (.wrongValue (Json.integer value).shown type)
  | value => unexpected value type

def decodeList {α : Type} (decode : Decoder α) : Decoder (List α)
  | .array items => items.mapM decode
  | value => unexpected value "a sequence"

def decodeOption {α : Type} (decode : Decoder α) : Decoder (Option α)
  | .null => .ok none
  | value => (decode value).map some

/-- One of some names: as a string, or as the only member of an object, with null. -/
def decodeVariant {α : Type} (all : List α) (keyword : α → String) : Decoder α
  | .string name => find name
  | .object [(name, value)] => do
    let variant ← find name
    match value with
    | .null => return variant
    | value => unexpected value "unit"
  | .object _ => .error (.wrongValue "map" "map with a single key")
  | value => unexpected value "string or map"
where
  find (name : String) : Except DecodeError α :=
    match all.find? fun variant => keyword variant == name with
    | some variant => .ok variant
    | none => .error (.unknownVariant name (all.map keyword))

def decodeScore : Decoder Binary64
  | .integer value => .ok (Binary64.ofSigned value 1)
  | .float value => .ok value
  | .string text =>
    match scoreOfText? text.toList with
    | some score => .ok score
    | none => unexpected (.string text) "f64"
  | value => unexpected value "f64"
where
  /-- The double that a text writes: a decimal, an infinity or a not-a-number, with or without sign.
  -/
  scoreOfText? (text : List Char) : Option Binary64 :=
    let (negative, text) :=
      match text with
      | '-' :: rest => (true, rest)
      | '+' :: rest => (false, rest)
      | text => (false, text)
    let word := String.ofList (Text.lowerAscii text)
    if word == "nan" then some (Binary64.nan negative)
    else if word == "inf" || word == "infinity" then some (Binary64.infinity negative)
    else (readDecimal? text).map (Decimal.toBinary64 negative)

/-- The members of an object in the order of their names; of several of one name the last one
counts. -/
def sortedMembers (members : List (String × Json)) : List (String × Json) :=
  let kept := members.foldr (fun member kept =>
    if kept.any (·.1 == member.1) then kept else member :: kept) []
  kept.mergeSort fun first second => first.1 ≤ second.1

structure Field where
  name : String
  optional : Bool := false

def decodeRecord {Draft : Type} (type : String) (fields : List Field) (empty : Draft)
    (set : Draft → String → Json → Except DecodeError Draft) : Decoder Draft
  | .object members =>
    (sortedMembers members).foldlM (fun draft (name, value) => set draft name value) empty
  | .array items => do
    let named := (fields.map (·.name)).zip items
    let draft ← named.foldlM (fun draft (name, value) => set draft name value) empty
    let missing := (fields.drop items.length).findIdx? fun field => !field.optional
    match missing with
    | some place =>
      let expected := s!"struct {type} with {fields.length} elements"
      throw (.wrongLength (items.length + place) expected)
    | none =>
      if fields.length < items.length then
        throw (.wrongLength items.length "fewer elements in array")
      else return draft
  | value => unexpected value s!"struct {type}"

def required {α : Type} (name : String) (value : Option α) : Except DecodeError α :=
  value.elim (.error (.missingField name)) .ok

end Json

namespace Savings

def decode : Json.Decoder Savings :=
  Json.decodeRecord "EstimatedSavings"
    [{ name := "cost_reduction_percent" }, { name := "time_reduction" }] {}
    fun draft name value => do
      match name with
      | "cost_reduction_percent" =>
        let costPercent ← Json.decodeOption (Json.decodeNat (Nat.pow 2 32) "u32") value
        return { draft with costPercent }
      | "time_reduction" =>
        let time ← Json.decodeOption Json.decodeString value
        return { draft with time }
      | _ => return draft

end Savings

structure FindingDraft where
  id : Option String := none
  category : Option Category := none
  priority : Option Priority := none
  score : Option Binary64 := none
  title : Option String := none
  currentState : Option String := none
  problem : Option String := none
  recommendation : Option String := none
  example? : Option String := none
  savings? : Option Savings := none
  affectedJobs : List String := []

namespace FindingDraft

def fields : List Json.Field :=
  [{ name := "id" }, { name := "category" }, { name := "priority" }, { name := "impact_score" },
    { name := "title" }, { name := "current_state" }, { name := "problem" },
    { name := "recommendation" }, { name := "example" }, { name := "estimated_savings" },
    { name := "affected_jobs", optional := true }]

def set (draft : FindingDraft) (name : String) (value : Json) :
    Except DecodeError FindingDraft := do
  match name with
  | "id" =>
    let id ← Json.decodeString value
    return { draft with id := some id }
  | "category" =>
    let category ← Json.decodeVariant Category.all Category.keyword value
    return { draft with category := some category }
  | "priority" =>
    let priority ← Json.decodeVariant Priority.all Priority.keyword value
    return { draft with priority := some priority }
  | "impact_score" =>
    let score ← Json.decodeScore value
    return { draft with score := some score }
  | "title" =>
    let title ← Json.decodeString value
    return { draft with title := some title }
  | "current_state" =>
    let currentState ← Json.decodeString value
    return { draft with currentState := some currentState }
  | "problem" =>
    let problem ← Json.decodeString value
    return { draft with problem := some problem }
  | "recommendation" =>
    let recommendation ← Json.decodeString value
    return { draft with recommendation := some recommendation }
  | "example" =>
    let example? ← Json.decodeOption Json.decodeString value
    return { draft with example? }
  | "estimated_savings" =>
    let savings? ← Json.decodeOption Savings.decode value
    return { draft with savings? }
  | "affected_jobs" =>
    let affectedJobs ← Json.decodeList Json.decodeString value
    return { draft with affectedJobs }
  | _ => return draft

def finish (draft : FindingDraft) : Except DecodeError Finding := do
  let id ← Json.required "id" draft.id
  let category ← Json.required "category" draft.category
  let priority ← Json.required "priority" draft.priority
  let score ← Json.required "impact_score" draft.score
  let title ← Json.required "title" draft.title
  let currentState ← Json.required "current_state" draft.currentState
  let problem ← Json.required "problem" draft.problem
  let recommendation ← Json.required "recommendation" draft.recommendation
  return {
    id, category, priority, score, title, currentState, problem, recommendation
    example? := draft.example?
    savings? := draft.savings?
    affectedJobs := draft.affectedJobs }

end FindingDraft

def Finding.decode : Json.Decoder Finding := fun value => do
  let draft ← Json.decodeRecord "Finding" FindingDraft.fields {} FindingDraft.set value
  draft.finish

structure FaultDraft where
  analyzer : Option String := none
  message : Option String := none

def Fault.decode : Json.Decoder Fault := fun value => do
  let draft ← Json.decodeRecord "AnalyzerFault" [{ name := "analyzer" }, { name := "message" }]
    ({} : FaultDraft)
    (fun draft name value => do
      match name with
      | "analyzer" =>
        let analyzer ← Json.decodeString value
        return { draft with analyzer := some analyzer }
      | "message" =>
        let message ← Json.decodeString value
        return { draft with message := some message }
      | _ => return draft)
    value
  let analyzer ← Json.required "analyzer" draft.analyzer
  let message ← Json.required "message" draft.message
  return { analyzer, message }

structure CountsDraft where
  high : Option Nat := none
  medium : Option Nat := none
  low : Option Nat := none

def Json.decodeCount : Json.Decoder Nat :=
  Json.decodeNat (Nat.pow 2 64) "usize"

def PriorityCounts.decode : Json.Decoder PriorityCounts := fun value => do
  let draft ← Json.decodeRecord "PriorityCounts"
    [{ name := "high" }, { name := "medium" }, { name := "low" }] ({} : CountsDraft)
    (fun draft name value => do
      match name with
      | "high" =>
        let high ← Json.decodeCount value
        return { draft with high := some high }
      | "medium" =>
        let medium ← Json.decodeCount value
        return { draft with medium := some medium }
      | "low" =>
        let low ← Json.decodeCount value
        return { draft with low := some low }
      | _ => return draft)
    value
  let high ← Json.required "high" draft.high
  let medium ← Json.required "medium" draft.medium
  let low ← Json.required "low" draft.low
  return { high, medium, low }

structure SavingsSummaryDraft where
  costPercent : Option Nat := none
  minutes : Option Nat := none

def SavingsSummary.decode : Json.Decoder SavingsSummary := fun value => do
  let draft ← Json.decodeRecord "SavingsSummary"
    [{ name := "cost_reduction_percent" }, { name := "time_saved" }] ({} : SavingsSummaryDraft)
    (fun draft name value => do
      match name with
      | "cost_reduction_percent" =>
        let costPercent ← Json.decodeNat (Nat.pow 2 32) "u32" value
        return { draft with costPercent := some costPercent }
      | "time_saved" =>
        let minutes ← Json.decodeNat (Nat.pow 2 32) "u32" value
        return { draft with minutes := some minutes }
      | _ => return draft)
    value
  let costPercent ← Json.required "cost_reduction_percent" draft.costPercent
  let minutes ← Json.required "time_saved" draft.minutes
  return { costPercent, minutes }

structure ResultDraft where
  total : Option Nat := none
  counts : Option PriorityCounts := none
  savings : Option SavingsSummary := none
  findings : Option (List Finding) := none
  faults : List Fault := []

def AnalysisResult.decode : Json.Decoder AnalysisResult := fun value => do
  let draft ← Json.decodeRecord "AnalysisResult"
    [{ name := "total_findings" }, { name := "counts" }, { name := "estimated_savings" },
      { name := "findings" }, { name := "analyzer_faults", optional := true }]
    ({} : ResultDraft)
    (fun draft name value => do
      match name with
      | "total_findings" =>
        let total ← Json.decodeCount value
        return { draft with total := some total }
      | "counts" =>
        let counts ← PriorityCounts.decode value
        return { draft with counts := some counts }
      | "estimated_savings" =>
        let savings ← SavingsSummary.decode value
        return { draft with savings := some savings }
      | "findings" =>
        let findings ← Json.decodeList Finding.decode value
        return { draft with findings := some findings }
      | "analyzer_faults" =>
        let faults ← Json.decodeList Fault.decode value
        return { draft with faults }
      | _ => return draft)
    value
  let total ← Json.required "total_findings" draft.total
  let counts ← Json.required "counts" draft.counts
  let savings ← Json.required "estimated_savings" draft.savings
  let findings ← Json.required "findings" draft.findings
  return { total, counts, savings, findings, faults := draft.faults }

end PipelineAdvisor
