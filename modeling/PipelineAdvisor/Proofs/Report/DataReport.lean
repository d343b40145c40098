import PipelineAdvisor.Report.Format
import PipelineAdvisor.Proofs.Finding.Records

/-!
The data report loses nothing. Its text is read back as the result it was made from, whatever the
texts of the findings hold and whichever of their members are missing.
-/

namespace PipelineAdvisor

/-! ### Members -/

theorem Json.exact_ofNat {value : Nat} (fits : value < 2 ^ 64) : Json.Exact (.ofNat value) :=
  .integer (by omega) (by omega)

theorem exact_optionalMember {α : Type} {name : String} {encode : α → Json} {value : Option α}
    (exact : ∀ inner ∈ value, Json.Exact (encode inner)) :
    ∀ member ∈ optionalMember name encode value, Json.Exact member.2 := by
  intro member known
  obtain ⟨inner, given, rfl⟩ := mem_optionalMember.mp known
  exact exact inner given

theorem Json.exact_map {α : Type} {encode : α → Json} {values : List α}
    (exact : ∀ value ∈ values, Json.Exact (encode value)) :
    Json.Exact (.array (values.map encode)) := by
  refine .array fun item known => ?_
  obtain ⟨value, given, rfl⟩ := List.mem_map.mp known
  exact exact value given

theorem exact_listMember {α : Type} {name : String} {encode : α → Json} {values : List α}
    (exact : ∀ value ∈ values, Json.Exact (encode value)) :
    ∀ member ∈ listMember name encode values, Json.Exact member.2 := by
  intro member known
  obtain ⟨-, rfl⟩ := mem_listMember.mp known
  exact Json.exact_map exact

/-! ### The numbers of a record are kept -/

theorem Savings.Fits.exact {savings : Savings} (fits : savings.Fits) :
    Json.Exact savings.toJson := by
  refine .object (List.forall_mem_append.mpr ⟨exact_optionalMember ?_, exact_optionalMember ?_⟩)
  · intro percent given
    have below := fits percent given
    exact Json.exact_ofNat (by omega)
  · exact fun time _ => .string time

theorem Finding.Fits.exact {finding : Finding} (fits : finding.Fits) :
    Json.Exact finding.toJson := by
  refine .object (List.forall_mem_append.mpr ⟨List.forall_mem_append.mpr
    ⟨List.forall_mem_append.mpr ⟨?_, exact_optionalMember ?_⟩, exact_optionalMember ?_⟩,
    exact_listMember ?_⟩)
  · simp only [List.forall_mem_cons]
    exact ⟨.string _, .string _, .string _, .float fits.score, .string _, .string _, .string _,
      .string _, List.forall_mem_nil _⟩
  · exact fun text _ => .string text
  · exact fun savings given => (fits.savings savings given).exact
  · exact fun name _ => .string name

theorem Fault.exact (fault : Fault) : Json.Exact fault.toJson := by
  refine .object ?_
  simp only [List.forall_mem_cons]
  exact ⟨.string _, .string _, List.forall_mem_nil _⟩

theorem PriorityCounts.Fits.exact {counts : PriorityCounts} (fits : counts.Fits) :
    Json.Exact counts.toJson := by
  refine .object ?_
  simp only [List.forall_mem_cons]
  exact ⟨Json.exact_ofNat fits.high, Json.exact_ofNat fits.medium, Json.exact_ofNat fits.low,
    List.forall_mem_nil _⟩

theorem SavingsSummary.Fits.exact {savings : SavingsSummary} (fits : savings.Fits) :
    Json.Exact savings.toJson := by
  have percent := fits.costPercent
  have minutes := fits.minutes
  refine .object ?_
  simp only [List.forall_mem_cons]
  exact ⟨Json.exact_ofNat (by omega), Json.exact_ofNat (by omega), List.forall_mem_nil _⟩

namespace AnalysisResult

theorem Fits.exact {result : AnalysisResult} (fits : result.Fits) : Json.Exact result.toJson := by
  refine .object (List.forall_mem_append.mpr ⟨?_, exact_listMember fun fault _ => fault.exact⟩)
  simp only [List.forall_mem_cons]
  exact ⟨Json.exact_ofNat fits.total, fits.counts.exact, fits.savings.exact,
    Json.exact_map fun finding known => (fits.findings finding known).exact, List.forall_mem_nil _⟩

/-- The data report of a result is read back as the result. -/
theorem report_json_reads_back {result : AnalysisResult} (fits : result.Fits)
    (options : ReportOptions) :
    (Json.read? (result.report .json options).toList).map decode = some (.ok result) := by
  have text : (result.report .json options).toList = result.toJson.pretty := String.toList_ofList
  rw [text, fits.exact.read?_pretty, Option.map_some, decode_toJson fits]

def unusualResult : AnalysisResult where
  total := 2
  counts := { high := 1, medium := 0, low := 18446744073709551615 }
  savings := { costPercent := 4294967295, minutes := 0 }
  findings := [
    { id := "a\"b\\c\u0007\n", category := .layerCache, priority := .high
      score := Binary64.zero true, title := "über 日本 😀", savings? := some {} },
    { id := "", category := .resource, priority := .low
      score := Binary64.ofMagnitude false 0x3FB999999999999A
      title := "\u0000\u001f\u007f", example? := some "", affectedJobs := ["build", "\t"]
      savings? := some { costPercent := some 0, time := some "" } }]
  faults := [{ analyzer := "x", message := "\x7d, \x5b" }]

theorem report_json_reads_back_unusual : unusualResult.Fits ∧
    (Json.read? (unusualResult.report .json {}).toList).map decode = some (.ok unusualResult) := by
  have fits : unusualResult.Fits := by
    refine ⟨by decide, ⟨by decide, by decide, by decide⟩, ⟨by decide, by decide⟩, ?_⟩
    simp only [unusualResult, List.forall_mem_cons]
    refine ⟨⟨by decide, ?_⟩, ⟨by decide, ?_⟩, List.forall_mem_nil _⟩
    · intro savings given percent isPercent
      cases given
      cases isPercent
    · intro savings given percent isPercent
      cases given
      cases isPercent
      decide
  exact ⟨fits, report_json_reads_back fits {}⟩

end AnalysisResult

end PipelineAdvisor
