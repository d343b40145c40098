import Mathlib.Data.List.DropRight
import PipelineAdvisor.Report.Markdown
import PipelineAdvisor.Report.Format
import PipelineAdvisor.Proofs.Report.Groups
import PipelineAdvisor.Proofs.Report.Wording

/-!
Reading a markdown report. Its headings, the titles and ids under them and its fenced blocks are the
landmarks of a report; if no text breaks a line and no example shows a fence, they are those of the
listed groups, finding by finding, and every block that is opened is closed.
-/

namespace PipelineAdvisor.MarkdownReport

inductive Landmark where
  | heading (text : List Char)
  | title (text : List Char)
  | id (text : List Char)
  | block (lines : List (List Char))
deriving DecidableEq

def behind? (start : String) (line : List Char) : Option (List Char) :=
  if start.toList <+: line then some (line.drop start.toList.length) else none

def uncode (text : List Char) : List Char :=
  (text.drop 1).dropLast

def Landmark.ofLine? (line : List Char) : Option Landmark :=
  ((behind? "## " line).map .heading).or
    (((behind? "### " line).map .title).or
      ((behind? "- **Id:** " line).map fun text => .id (uncode text)))

/-- The landmarks of lines behind the lines of an open block, or outside of blocks. There are none if
a block stays open. -/
def landmarks : Option (List (List Char)) → List (List Char) → Option (List Landmark)
  | none, [] => some []
  | some _, [] => none
  | none, line :: rest =>
    if line = "```yaml".toList then landmarks (some []) rest
    else (landmarks none rest).map ((Landmark.ofLine? line).toList ++ ·)
  | some block, line :: rest =>
    if "```".toList <+: line then (landmarks none rest).map (.block block :: ·)
    else landmarks (some (block ++ [line])) rest

def textLines (text : List Char) : List (List Char) :=
  text.splitOn '\n'

def findingLandmarks (finding : Finding) : List Landmark :=
  [.title finding.title.toList, .id finding.id.toList] ++
    (finding.example?.map fun snippet =>
      .block (textLines (Text.trimEnd snippet.toList))).toList

theorem textLines_joinLines (lines : List (List Char)) :
    textLines (joinLines lines) = lines.flatMap textLines ++ [[]] := by
  induction lines with
  | nil => rfl
  | cons line rest ih =>
      have parts : joinLines (line :: rest) = line ++ '\n' :: joinLines rest := by
        simp [joinLines]
      rw [parts, textLines, List.splitOn_append_cons_self]
      change textLines line ++ textLines (joinLines rest) = _
      rw [ih, List.flatMap_cons, List.append_assoc]

/-- Lines, read outside of blocks, add these landmarks to those of the lines behind them. -/
def Says (lines : List String) (marks : List Landmark) : Prop :=
  ∀ rest, landmarks none (lines.flatMap (fun line => textLines line.toList) ++ rest) =
    (landmarks none rest).map (marks ++ ·)

namespace Says

theorem nil : Says [] [] := by
  intro rest
  exact Option.map_id'.symm

theorem append {front back : List String} {marks others : List Landmark} (first : Says front marks)
    (second : Says back others) : Says (front ++ back) (marks ++ others) := by
  intro rest
  rw [List.flatMap_append, List.append_assoc, first, second, Option.map_map]
  congr 1
  funext later
  exact (List.append_assoc _ _ _).symm

theorem flatMap {α : Type} {content : α → List String} {marks : α → List Landmark} {parts : List α}
    (each : ∀ part ∈ parts, Says (content part) (marks part)) :
    Says (parts.flatMap content) (parts.flatMap marks) := by
  induction parts with
  | nil => exact nil
  | cons part rest ih =>
      exact (each part List.mem_cons_self).append
        (ih fun other known => each other (List.mem_cons_of_mem part known))

theorem unmarked {α : Type} {content : α → String} {parts : List α}
    (each : ∀ part ∈ parts, Says [content part] []) : Says (parts.map content) [] := by
  have whole : Says (parts.flatMap fun part => [content part]) (parts.flatMap fun _ => []) :=
    flatMap each
  rwa [← List.map_eq_flatMap, List.flatMap_eq_nil_iff.mpr fun _ _ => rfl] at whole

theorem line {line : String} {marks : List Landmark} (whole : '\n' ∉ line.toList)
    (opens : ¬"```".toList <+: line.toList) (told : (Landmark.ofLine? line.toList).toList = marks) :
    Says [line] marks := by
  intro rest
  have unlike : line.toList ≠ "```yaml".toList := by
    intro same
    exact opens (same ▸ by decide)
  simp only [List.flatMap_cons, List.flatMap_nil, List.append_nil, textLines,
    List.splitOn_eq_singleton whole, List.singleton_append, landmarks, if_neg unlike, told]

theorem lines {lines : List String}
    (plain : ∀ line ∈ lines, '\n' ∉ line.toList ∧ ¬"```".toList <+: line.toList) :
    Says lines (lines.filterMap fun line => Landmark.ofLine? line.toList) := by
  induction lines with
  | nil => exact nil
  | cons first rest ih =>
      obtain ⟨whole, opens⟩ := plain first List.mem_cons_self
      have later := ih fun other known => plain other (List.mem_cons_of_mem first known)
      have both := (line whole opens rfl).append later
      rw [List.filterMap_cons]
      cases told : Landmark.ofLine? first.toList <;> simpa [told] using both

end Says

theorem landmarks_of_open {lines : List (List Char)} (inner : ∀ line ∈ lines, ¬"```".toList <+: line)
    (block rest : List (List Char)) :
    landmarks (some block) (lines ++ "```".toList :: rest) =
      (landmarks none rest).map (.block (block ++ lines) :: ·) := by
  induction lines generalizing block with
  | nil => rw [List.nil_append, landmarks, if_pos (List.prefix_refl _), List.append_nil]
  | cons line others ih =>
      rw [List.cons_append, landmarks, if_neg (inner line List.mem_cons_self),
        ih fun other known => inner other (List.mem_cons_of_mem line known), List.append_assoc]
      rfl

theorem textLines_append (front back : List Char) : ∃ lines last,
    textLines front = lines ++ [last] ∧
      textLines (front ++ back) = lines ++ (textLines back).modifyHead (last ++ ·) := by
  induction front with
  | nil => exact ⟨[], [], rfl, (congrFun List.modifyHead_id (textLines back)).symm⟩
  | cons c rest ih =>
      obtain ⟨lines, last, whole, longer⟩ := ih
      simp only [textLines, List.cons_append, List.splitOn_cons_eq_if_modifyHead] at whole longer ⊢
      rw [whole, longer]
      split
      · exact ⟨[] :: lines, last, rfl, rfl⟩
      · cases lines with
        | nil => exact ⟨[], c :: last, rfl, by simp [Function.comp_def]⟩
        | cons first others => exact ⟨(c :: first) :: others, last, rfl, rfl⟩

theorem trimEnd_unfenced {text : List Char}
    (unfenced : ∀ line ∈ textLines text, ¬"```".toList <+: line) :
    ∀ line ∈ textLines (Text.trimEnd text), ¬"```".toList <+: line := by
  obtain ⟨blanks, whole⟩ : Text.trimEnd text <+: text := List.rdropWhile_prefix _ _
  obtain ⟨lines, last, kept, longer⟩ := textLines_append (Text.trimEnd text) blanks
  obtain ⟨first, others, rest⟩ := List.exists_cons_of_ne_nil (List.splitOn_ne_nil '\n' blanks)
  rw [whole, textLines, textLines, rest, List.modifyHead_cons] at longer
  intro line known fence
  rw [kept, List.mem_append, List.mem_singleton] at known
  rcases known with inner | rfl
  · exact unfenced line (by simp [textLines, longer, inner]) fence
  · exact unfenced (line ++ first) (by simp [textLines, longer])
      (fence.trans (List.prefix_append line first))

theorem says_fenced {snippet : String}
    (unfenced : ∀ line ∈ textLines snippet.toList, ¬"```".toList <+: line) :
    Says (fenced snippet) [.block (textLines (Text.trimEnd snippet.toList))] := by
  intro rest
  have opened := landmarks_of_open (trimEnd_unfenced unfenced) [] rest
  have fences : textLines "```yaml".toList = ["```yaml".toList] ∧
      textLines "```".toList = ["```".toList] := by decide
  have blank : textLines "".toList = [[]] := rfl
  simp only [fenced, List.flatMap_cons, List.flatMap_nil, String.toList_ofList, fences, blank]
  simpa [landmarks, Landmark.ofLine?, behind?] using opened

section Lines

variable {name text : String}

theorem says_bullet (other : ∃ c rest, name.toList = c :: rest ∧ c ≠ 'I')
    (whole : '\n' ∉ name.toList) (clean : '\n' ∉ text.toList) : Says [bullet name text] [] := by
  obtain ⟨c, rest, named, differ⟩ := other
  apply Says.line
  · rw [named] at whole
    simpa [bullet, String.toList_append, toString, named, clean] using whole
  · simp [bullet, String.toList_append, toString]
  · simp [Landmark.ofLine?, behind?, String.toList_append, toString, bullet, named, Ne.symm differ]

theorem says_id (clean : '\n' ∉ text.toList) : Says [bullet "Id" (code text)] [.id text.toList] := by
  apply Says.line
  · simp [bullet, code, String.toList_append, toString, clean]
  · simp [bullet, String.toList_append, toString]
  · simp [Landmark.ofLine?, behind?, String.toList_append, toString, bullet, code, uncode]

theorem says_title (clean : '\n' ∉ text.toList) : Says [s!"### {text}"] [.title text.toList] := by
  apply Says.line
  · simp [String.toList_append, toString, clean]
  · simp [String.toList_append, toString]
  · simp [Landmark.ofLine?, behind?, String.toList_append, toString]

theorem says_blank : Says [""] [] :=
  Says.line (by decide) (by decide) (by decide)

end Lines

theorem says_finding {finding : Finding} (clean : ∀ text ∈ finding.wording, '\n' ∉ text.toList)
    (unfenced : ∀ snippet ∈ finding.example?, ∀ line ∈ textLines snippet.toList,
      ¬"```".toList <+: line) :
    Says (MarkdownReport.finding finding) (findingLandmarks finding) := by
  have wording := clean
  simp only [Finding.wording, List.forall_mem_append, List.forall_mem_cons, Option.mem_toList]
    at wording
  obtain ⟨⟨⟨id, title, currentState, problem, recommendation, -⟩, time⟩, affected⟩ := wording
  have front : Says [s!"### {finding.title}", "", bullet "Id" (code finding.id),
      bullet "Category" finding.category.label, bullet "Problem" finding.problem]
      [.title finding.title.toList, .id finding.id.toList] := by
    have label : '\n' ∉ finding.category.label.toList := by
      cases finding.category <;> decide
    have category : Says [bullet "Category" finding.category.label] [] :=
      says_bullet ⟨'C', _, rfl, by decide⟩ (by decide) label
    have trouble : Says [bullet "Problem" finding.problem] [] :=
      says_bullet ⟨'P', _, rfl, by decide⟩ (by decide) problem
    exact (says_title title).append (says_blank.append ((says_id id).append
      (category.append trouble)))
  have state : Says (if finding.currentState.isEmpty then []
      else [bullet "Current state" finding.currentState]) [] := by
    split
    · exact Says.nil
    · exact says_bullet ⟨'C', _, rfl, by decide⟩ (by decide) currentState
  have advice : Says [bullet "Recommendation" finding.recommendation] [] :=
    says_bullet ⟨'R', _, rfl, by decide⟩ (by decide) recommendation
  have savings : Says (finding.savingsText?.map (bullet "Estimated savings")).toList [] := by
    cases told : finding.savingsText? with
    | none => exact Says.nil
    | some text =>
        refine says_bullet ⟨'E', _, rfl, by decide⟩ (by decide) fun inside => ?_
        rcases Finding.mem_savingsText told inside with printed | ⟨promise, known, inPromise⟩
        · exact absurd printed (by decide)
        · exact time promise known inPromise
  have jobs : Says (if finding.affectedJobs.isEmpty then []
      else [bullet "Affected jobs" (String.intercalate ", " (finding.affectedJobs.map code))])
      [] := by
    split
    · exact Says.nil
    · refine says_bullet ⟨'A', _, rfl, by decide⟩ (by decide) fun inside => ?_
      rcases mem_of_mem_joined inside with between | ⟨part, known, inPart⟩
      · exact absurd between (by decide)
      · obtain ⟨job, isJob, rfl⟩ := List.mem_map.mp known
        simp [code, String.toList_append, affected job isJob] at inPart
  have snippet : Says ((finding.example?.map fenced).getD []) (finding.example?.map fun snippet =>
      .block (textLines (Text.trimEnd snippet.toList))).toList := by
    cases given : finding.example? with
    | none => exact Says.nil
    | some snippet => exact says_fenced (unfenced snippet given)
  have whole := (((((front.append state).append advice).append savings).append jobs).append
    snippet).append says_blank
  simp only [List.append_nil] at whole
  exact whole

theorem says_group {priority : Priority} {findings : List Finding}
    (each : ∀ finding ∈ findings, Says (MarkdownReport.finding finding) (findingLandmarks finding)) :
    Says (group priority findings)
      (.heading s!"{priority.label} Priority".toList :: findings.flatMap findingLandmarks) := by
  have heading : Says [s!"## {priority.label} Priority"]
      [.heading s!"{priority.label} Priority".toList] := by
    apply Says.line
    · cases priority <;> decide
    · cases priority <;> decide
    · cases priority <;> decide
  exact (heading.append says_blank).append (Says.flatMap each)

theorem says_head (result : AnalysisResult) : Says (head result)
    (if result.findings.isEmpty then [] else [.heading "Summary".toList]) := by
  have title : Says ["# CircleCI Optimization Report", ""] [] := Says.lines (by decide)
  have news : Says ["No optimization opportunities found."] [] := Says.lines (by decide)
  have names : Says ["## Summary", "", "| Metric | Value |", "|--------|-------|"]
      [.heading "Summary".toList] := Says.lines (by decide)
  have figures : Says (result.figures.map fun figure => s!"| {figure.1} | {figure.2} |") [] := by
    refine Says.unmarked fun figure known => ?_
    have whole : '\n' ∉ figure.1.toList ++ figure.2.toList := fun inside =>
      absurd (AnalysisResult.mem_figures known inside) (by decide)
    rw [List.mem_append, not_or] at whole
    apply Says.line
    · simp [String.toList_append, toString, whole]
    · simp [String.toList_append, toString]
    · simp [Landmark.ofLine?, behind?, String.toList_append, toString]
  rw [head]
  split
  · exact title.append news
  · exact title.append ((names.append figures).append says_blank)

theorem says_foot {result : AnalysisResult}
    (clean : ∀ fault ∈ result.faults, '\n' ∉ fault.text.toList) : Says (foot result)
      (if result.faults.isEmpty then [] else [.heading "Analyzer Failures".toList]) := by
  have heading : Says ["## Analyzer Failures", ""] [.heading "Analyzer Failures".toList] :=
    Says.lines (by decide)
  have faults : Says (result.faults.map fun fault => s!"- {fault.text}") [] := by
    refine Says.unmarked fun fault known => ?_
    apply Says.line
    · simp [String.toList_append, toString, clean fault known]
    · simp [String.toList_append, toString]
    · simp [Landmark.ofLine?, behind?, String.toList_append, toString, Fault.text]
  rw [foot]
  split
  · exact Says.nil
  · exact heading.append faults

end PipelineAdvisor.MarkdownReport

namespace PipelineAdvisor.AnalysisResult

open MarkdownReport

/-- If no text breaks a line and no example shows a fence, the landmarks of a report are the headings
of the listed groups, each followed by the titles, ids and examples of its findings, between the
headings of summary and failures; no block stays open. -/
theorem report_landmarks {result : AnalysisResult}
    (whole : ∀ text ∈ result.wording, '\n' ∉ text.toList)
    (unfenced : ∀ snippet ∈ result.examples, ∀ line ∈ textLines snippet.toList,
      ¬"```".toList <+: line) (options : ReportOptions) :
    landmarks none (textLines (result.report .markdown options).toList) =
        some ((if result.findings.isEmpty then [] else [.heading "Summary".toList]) ++
          (result.groups options.threshold).flatMap (fun (priority, findings) =>
            .heading s!"{priority.label} Priority".toList :: findings.flatMap findingLandmarks) ++
          if result.faults.isEmpty then [] else [.heading "Analyzer Failures".toList]) ∧
      ∀ group ∈ result.groups options.threshold, ∀ finding ∈ group.2,
        finding.priority = group.1 := by
  have members : ∀ group ∈ result.groups options.threshold, ∀ finding ∈ group.2,
      finding ∈ result.findings ∧ finding.priority = group.1 := by
    rintro ⟨priority, findings⟩ known finding inGroup
    rw [result.mem_groups options.threshold known, List.mem_filter, beq_iff_eq] at inGroup
    exact inGroup
  simp only [wording, List.forall_mem_append, List.forall_mem_map] at whole
  have listing : Says (listing options.threshold result)
      ((result.groups options.threshold).flatMap fun (priority, findings) =>
        .heading s!"{priority.label} Priority".toList :: findings.flatMap findingLandmarks) := by
    refine Says.flatMap fun group known => says_group fun finding inGroup => ?_
    have member := (members group known finding inGroup).1
    refine says_finding ?_ ?_
    · intro text inFinding
      exact whole.1 text (List.mem_flatMap.mpr ⟨finding, member, inFinding⟩)
    · intro snippet given
      exact unfenced snippet (List.mem_filterMap.mpr ⟨finding, member, given⟩)
  have report := ((says_head result).append listing).append (says_foot whole.2) [[]]
  refine ⟨?_, fun group known finding inGroup => (members group known finding inGroup).2⟩
  have text : textLines (result.report .markdown options).toList =
      (lines options.threshold result).flatMap (fun line => textLines line.toList) ++ [[]] := by
    rw [AnalysisResult.report, String.toList_ofList]
    change textLines (joinLines _) = _
    rw [textLines_joinLines, List.flatMap_map]
  have ending : landmarks none [[]] = some [] := by decide
  rw [text, lines, report, ending, Option.map_some, List.append_nil]

def misleadingResult : AnalysisResult where
  total := 2
  counts := { high := 1, medium := 0, low := 1 }
  savings := { costPercent := 0, minutes := 0 }
  findings := [
    { id := "### `a`", category := .orbs, priority := .low, score := Score.reusableOrb
      title := "## Summary", problem := "- **Id:** `b`", affectedJobs := ["`", "## x"]
      example? := some "## High Priority\n - **Id:** `c`\n\n ```\n### d \n" },
    { id := "", category := .cache, priority := .high, score := Score.missingCache, title := ""
      recommendation := "```yaml", savings? := some { time := some "### e" }, example? := some "" }]
  faults := [{ analyzer := "x", message := "## y" }]

theorem report_landmarks_misleading :
    (∀ text ∈ misleadingResult.wording, '\n' ∉ text.toList) ∧
      (∀ snippet ∈ misleadingResult.examples, ∀ line ∈ textLines snippet.toList,
        ¬"```".toList <+: line) ∧
      landmarks none (textLines (misleadingResult.report .markdown {}).toList) =
        some [.heading "Summary".toList, .heading "High Priority".toList, .title [], .id [],
          .block [[]], .heading "Low Priority".toList, .title "## Summary".toList,
          .id "### `a`".toList, .block ["## High Priority".toList, " - **Id:** `c`".toList, [],
            " ```".toList, "### d".toList], .heading "Analyzer Failures".toList] := by
  have whole : ∀ text ∈ misleadingResult.wording, '\n' ∉ text.toList := by decide
  have unfenced : ∀ snippet ∈ misleadingResult.examples, ∀ line ∈ textLines snippet.toList,
      ¬"```".toList <+: line := by decide
  refine ⟨whole, unfenced, (report_landmarks whole unfenced {}).1.trans ?_⟩
  decide

end PipelineAdvisor.AnalysisResult
