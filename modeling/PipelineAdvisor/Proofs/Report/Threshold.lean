import Mathlib.Data.List.Basic
import PipelineAdvisor.Report.Format

/-!
What a threshold changes in a report. A report is a head with the figures, a listing of groups and a
foot with the faults; a threshold leaves out the last groups of the listing and nothing else.
-/

namespace PipelineAdvisor

/-- A report of a head, a listing and a foot, of which only the listing depends on the threshold. A
stricter threshold cuts the listing off earlier, and without a threshold it is whole. -/
structure CutFromEnd (report : Option Priority → List Char) (head : List Char)
    (listing : Option Priority → List Char) (foot : List Char) : Prop where
  parts : ∀ threshold, report threshold = head ++ listing threshold ++ foot
  high : listing (some .high) <+: listing (some .medium)
  medium : listing (some .medium) <+: listing (some .low)
  low : listing (some .low) = listing none

namespace AnalysisResult

theorem groups_prefix {threshold other : Option Priority}
    (fewer : Priority.all.filter (Priority.isListed threshold) <+:
      Priority.all.filter (Priority.isListed other)) (result : AnalysisResult) :
    result.groups threshold <+: result.groups other :=
  (fewer.map _).filter _

theorem cutFromEnd_of_groups {β : Type} {write : List β → List Char}
    (joins : ∀ front back, write (front ++ back) = write front ++ write back) (head foot : List β)
    (content : Priority × List Finding → List β) (result : AnalysisResult) :
    CutFromEnd (fun threshold => write (head ++ (result.groups threshold).flatMap content ++ foot))
      (write head) (fun threshold => write ((result.groups threshold).flatMap content))
      (write foot) := by
  have shorter : ∀ threshold other : Option Priority,
      Priority.all.filter (Priority.isListed threshold) <+:
        Priority.all.filter (Priority.isListed other) →
      write ((result.groups threshold).flatMap content) <+:
        write ((result.groups other).flatMap content) := by
    intro threshold other fewer
    obtain ⟨others, whole⟩ := groups_prefix fewer result
    rw [← whole, List.flatMap_append, joins]
    exact List.prefix_append _ _
  refine ⟨?_, shorter _ _ (by decide), shorter _ _ (by decide), ?_⟩
  · intro threshold
    rw [joins, joins]
  · rfl

end AnalysisResult

theorem joinLines_append (front back : List (List Char)) :
    joinLines (front ++ back) = joinLines front ++ joinLines back :=
  List.flatMap_append

theorem renderPage_append (color : Bool) (front back : List Block) :
    renderPage color (front ++ back) = renderPage color front ++ renderPage color back := by
  rw [renderPage, List.flatMap_append, joinLines_append]
  rfl

theorem TerminalReport.text_cutFromEnd (color : Bool) (result : AnalysisResult) :
    CutFromEnd (fun threshold => text color threshold result) (renderPage color (head result))
      (fun threshold => renderPage color (listing threshold result))
      (renderPage color (foot result)) :=
  result.cutFromEnd_of_groups (renderPage_append color) (head result) (foot result) _

theorem MarkdownReport.text_cutFromEnd (result : AnalysisResult) :
    CutFromEnd (fun threshold => text threshold result)
      (joinLines ((head result).map String.toList))
      (fun threshold => joinLines ((listing threshold result).map String.toList))
      (joinLines ((foot result).map String.toList)) := by
  have joins : ∀ front back : List String, joinLines ((front ++ back).map String.toList) =
      joinLines (front.map String.toList) ++ joinLines (back.map String.toList) := by
    intro front back
    rw [List.map_append, joinLines_append]
  exact @AnalysisResult.cutFromEnd_of_groups _ (fun lines => joinLines (lines.map String.toList))
    joins (head result) (foot result) _ result

/-- The figures stand in the head and the faults in the foot, so both are the same for every
threshold; and data hold every finding whatever the threshold is. -/
theorem AnalysisResult.report_cutFromEnd (result : AnalysisResult) (color : Bool) :
    CutFromEnd (fun threshold => (result.report .terminal ⟨threshold, color⟩).toList)
        (renderPage color (TerminalReport.head result))
        (fun threshold => renderPage color (TerminalReport.listing threshold result))
        (renderPage color (TerminalReport.foot result)) ∧
      CutFromEnd (fun threshold => (result.report .markdown ⟨threshold, color⟩).toList)
        (joinLines ((MarkdownReport.head result).map String.toList))
        (fun threshold => joinLines ((MarkdownReport.listing threshold result).map String.toList))
        (joinLines ((MarkdownReport.foot result).map String.toList)) ∧
      (result.findings ≠ [] →
        .table ⟨("Metric", "Value"), result.figures⟩ ∈ TerminalReport.head result ∧
          ∀ figure ∈ result.figures,
            s!"| {figure.1} | {figure.2} |" ∈ MarkdownReport.head result) ∧
      (∀ fault ∈ result.faults,
        .ofText s!"  - {fault.text}" ∈ TerminalReport.foot result ∧
          s!"- {fault.text}" ∈ MarkdownReport.foot result) ∧
      ∀ options others : ReportOptions,
        result.report .json options = result.report .json others := by
  refine ⟨?_, ?_, ?_, ?_, ?_⟩
  · simpa only [report, String.toList_ofList] using TerminalReport.text_cutFromEnd color result
  · simpa only [report, String.toList_ofList] using MarkdownReport.text_cutFromEnd result
  · intro filled
    have some : result.findings.isEmpty = false := by simpa using filled
    constructor
    · simp [TerminalReport.head, some]
    · intro figure known
      rw [MarkdownReport.head, if_neg (by simp [some])]
      simp only [List.mem_append, List.mem_map]
      exact Or.inr (Or.inl (Or.inr ⟨figure, known, rfl⟩))
  · intro fault known
    have some : result.faults.isEmpty = false := by
      simpa using List.ne_nil_of_mem known
    constructor
    · rw [TerminalReport.foot, if_neg (by simp [some])]
      exact List.mem_append_right _ (List.mem_map_of_mem known)
    · rw [MarkdownReport.foot, if_neg (by simp [some])]
      exact List.mem_append_right _ (List.mem_map_of_mem known)
  · intro options others
    rfl

def mixedResult : AnalysisResult where
  total := 7
  counts := { high := 0, medium := 5, low := 2 }
  savings := { costPercent := 88, minutes := 30 }
  findings := [
    Finding.start .orbs "node" "build" .low Score.reusableOrb "Use the Node.js orb",
    Finding.start .cache "missing" "build" .high Score.missingCache "Dependencies are not cached"]
  faults := [{ analyzer := "workflow", message := "boom" }]

theorem AnalysisResult.report_cutFromEnd_mixed :
    let listing threshold := renderPage true (TerminalReport.listing threshold mixedResult)
    mixedResult.findings ≠ [] ∧
      .table ⟨("Metric", "Value"), mixedResult.figures⟩ ∈ TerminalReport.head mixedResult ∧
      "| Medium priority | 5 |" ∈ MarkdownReport.head mixedResult ∧
      "- analyzer 'workflow' failed: boom" ∈ MarkdownReport.foot mixedResult ∧
      listing (some .high) <+: listing (some .medium) ∧
      (listing (some .medium)).length < (listing (some .low)).length := by
  intro listing
  have filled : mixedResult.findings ≠ [] := List.cons_ne_nil _ _
  have fault : { analyzer := "workflow", message := "boom" } ∈ mixedResult.faults :=
    List.mem_singleton.mpr rfl
  have figure : ("Medium priority", "5") ∈ mixedResult.figures := by decide +kernel
  obtain ⟨terminal, _, figures, faults, _⟩ := report_cutFromEnd mixedResult true
  refine ⟨filled, (figures filled).1, (figures filled).2 _ figure, (faults _ fault).2, terminal.high,
    ?_⟩
  decide +kernel

end PipelineAdvisor
