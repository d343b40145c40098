import PipelineAdvisor.Proofs.Report.Frames
import PipelineAdvisor.Proofs.Report.Groups
import PipelineAdvisor.Proofs.Report.Threshold
import PipelineAdvisor.Proofs.Report.Wording

/-!
Colour is decoration. Without its style sequences the coloured report is the plain one, but that the
table of figures stands in another frame; the table shows the same rows in both.
-/

namespace PipelineAdvisor

/-- A text without style sequences, each of which goes from ESC and a bracket to the next `m`. The
flag tells whether the text begins inside a sequence. -/
def stripStyles : Bool → List Char → List Char
  | _, [] => []
  | true, c :: rest => stripStyles (c != 'm') rest
  | false, '\x1b' :: '[' :: rest => stripStyles true rest
  | false, c :: rest => c :: stripStyles false rest

def Block.plainLines (frame : Frame) : Block → List (List Char)
  | .line spans => [spans.flatMap Span.text]
  | .table content => content.lines frame

namespace Block

def Lacks (c : Char) : Block → Prop
  | .line spans => ∀ span ∈ spans, c ∉ span.text
  | .table content => ∀ row ∈ content.header :: content.rows, c ∉ row.1.toList ++ row.2.toList

def IsLineLacking (c : Char) : Block → Prop
  | .line spans => ∀ span ∈ spans, c ∉ span.text
  | .table _ => False

theorem IsLineLacking.lacks {c : Char} {block : Block} (clean : block.IsLineLacking c) :
    block.Lacks c := by
  cases block with
  | line spans => exact clean
  | table content => exact clean.elim

theorem IsLineLacking.plainLines_eq {c : Char} {block : Block} (clean : block.IsLineLacking c)
    (frame other : Frame) : block.plainLines frame = block.plainLines other := by
  cases block with
  | line spans => rfl
  | table content => exact clean.elim

end Block

/-- A text that is another one when its style sequences are left out, whatever follows. -/
def StripsTo (text stripped : List Char) : Prop :=
  ∀ rest, stripStyles false (text ++ rest) = stripped ++ stripStyles false rest

namespace StripsTo

theorem append {first second stripped others : List Char} (front : StripsTo first stripped)
    (back : StripsTo second others) : StripsTo (first ++ second) (stripped ++ others) := by
  intro rest
  rw [List.append_assoc, front, back, List.append_assoc]

theorem flatMap {α : Type} {content stripped : α → List Char} {parts : List α}
    (each : ∀ part ∈ parts, StripsTo (content part) (stripped part)) :
    StripsTo (parts.flatMap content) (parts.flatMap stripped) := by
  induction parts with
  | nil => exact fun rest => rfl
  | cons part rest ih =>
      exact (each part List.mem_cons_self).append
        (ih fun other known => each other (List.mem_cons_of_mem part known))

theorem self {text : List Char} (clean : '\x1b' ∉ text) : StripsTo text text := by
  intro rest
  induction text with
  | nil => rfl
  | cons c others ih =>
      rw [List.mem_cons, not_or] at clean
      rw [List.cons_append, List.cons_append, stripStyles, ih clean.2]
      rintro - rfl
      exact absurd rfl clean.1

theorem start (style : Style) : StripsTo style.start [] := by
  intro rest
  rcases style with _ | _ | _ | _ | _ | (_ | _ | _) <;> rfl

theorem reset : StripsTo Style.reset [] := fun _ => rfl

end StripsTo

theorem Style.resume_of_not_mem {start text : List Char} (clean : '\x1b' ∉ text) :
    resume start text = text := by
  induction text with
  | nil => rfl
  | cons c rest ih =>
      rw [List.mem_cons, not_or] at clean
      rw [resume, ih clean.2]
      rintro - rfl
      exact absurd rfl clean.1

theorem stripsTo_span {span : Span} (clean : '\x1b' ∉ span.text) :
    StripsTo (span.render true) span.text := by
  cases given : span.style with
  | none =>
      rw [Span.render, given]
      exact StripsTo.self clean
  | some style =>
      rw [Span.render, given]
      change StripsTo (style.paint span.text) span.text
      rw [Style.paint, Style.resume_of_not_mem clean]
      simpa using ((StripsTo.start style).append (StripsTo.self clean)).append StripsTo.reset

theorem Block.stripsTo_lines {block : Block} (clean : block.Lacks '\x1b') :
    StripsTo (joinLines (block.lines true)) (joinLines (block.plainLines .boxed)) := by
  cases block with
  | line spans =>
      have lineEnd : StripsTo ['\n'] ['\n'] := StripsTo.self (by decide)
      have whole := (StripsTo.flatMap fun span known => stripsTo_span (clean span known)).append
        lineEnd
      simpa [Block.lines, plainLines, joinLines] using whole
  | table content =>
      apply StripsTo.self
      intro inside
      obtain ⟨line, known, inside⟩ := List.mem_flatMap.mp inside
      rw [List.mem_append] at inside
      rcases inside with inLine | atEnd
      · rcases Table.mem_lines known inLine with border | blank | ⟨row, isRow, inRow⟩
        · exact absurd border (by decide)
        · exact absurd blank (by decide)
        · exact clean row isRow inRow
      · exact absurd atEnd (by decide)

theorem renderPage_plain (blocks : List Block) :
    renderPage false blocks = joinLines (blocks.flatMap (Block.plainLines .ascii)) := by
  have span : Span.render false = Span.text := by
    funext span
    rw [Span.render]
    cases span.style <;> rfl
  have lines : Block.lines false = Block.plainLines .ascii := by
    funext block
    cases block with
    | table content => rfl
    | line spans => rw [Block.lines, Block.plainLines, span]
  rw [renderPage, lines]

theorem joinLines_flatMap {α : Type} (content : α → List (List Char)) (parts : List α) :
    joinLines (parts.flatMap content) = parts.flatMap fun part => joinLines (content part) :=
  List.flatMap_assoc

theorem stripStyles_renderPage {blocks : List Block}
    (clean : ∀ block ∈ blocks, block.Lacks '\x1b') :
    stripStyles false (renderPage true blocks) =
      joinLines (blocks.flatMap (Block.plainLines .boxed)) := by
  have each : ∀ block ∈ blocks, StripsTo (joinLines (block.lines true))
      (joinLines (block.plainLines .boxed)) := fun block known =>
    Block.stripsTo_lines (clean block known)
  have whole := StripsTo.flatMap each []
  rw [List.append_nil, stripStyles, List.append_nil] at whole
  rw [renderPage, joinLines_flatMap, joinLines_flatMap, whole]

/-! ### The blocks of a report -/

theorem Text.mem_of_mem_lines {text line : List Char} {c : Char} (known : line ∈ Text.lines text)
    (inside : c ∈ line) : c ∈ text := by
  fun_induction Text.lines text generalizing line with
  | case1 => cases known
  | case2 rest ih =>
      rcases List.mem_cons.mp known with rfl | later
      · cases inside
      · exact List.mem_cons_of_mem _ (ih later inside)
  | case3 rest ih =>
      rcases List.mem_cons.mp known with rfl | later
      · cases inside
      · exact List.mem_cons_of_mem _ (List.mem_cons_of_mem _ (ih later inside))
  | case4 first rest _ _ none ih =>
      rw [List.mem_singleton.mp known, List.mem_singleton] at inside
      rw [inside]
      exact List.mem_cons_self
  | case5 first rest _ _ next others some ih =>
      rw [some] at ih
      rcases List.mem_cons.mp known with rfl | later
      · rcases List.mem_cons.mp inside with rfl | inNext
        · exact List.mem_cons_self
        · exact List.mem_cons_of_mem _ (ih List.mem_cons_self inNext)
      · exact List.mem_cons_of_mem _ (ih (List.mem_cons_of_mem _ later) inside)

namespace TerminalReport

theorem esc_not_mem_repr (number : Nat) : '\x1b' ∉ Nat.toDigits 10 number := by
  intro inside
  rw [← Nat.toList_repr] at inside
  exact absurd (printed_of_isAlphanum (isAlphanum_of_mem_repr inside)) (by decide)

theorem isLine_told {name text : String} {c : Char} (fixed : c ∉ name.toList)
    (clean : c ∉ text.toList) : (Block.ofText (toString name ++ toString text)).IsLineLacking c := by
  intro span known
  rw [List.mem_singleton.mp known]
  change c ∉ (name ++ text).toList
  rw [String.toList_append, List.mem_append, not_or]
  exact ⟨fixed, clean⟩

theorem isLine_finding {finding : Finding} (clean : ∀ text ∈ finding.wording, '\x1b' ∉ text.toList)
    (cleanExample : ∀ snippet ∈ finding.example?, '\x1b' ∉ snippet.toList) (number : Nat) :
    ∀ block ∈ TerminalReport.finding number finding, block.IsLineLacking '\x1b' := by
  simp only [Finding.wording, List.forall_mem_append, List.forall_mem_cons, Option.mem_toList] at clean
  obtain ⟨⟨⟨id, title, currentState, problem, recommendation, -⟩, time⟩, affected⟩ := clean
  rw [TerminalReport.finding]
  simp only [List.forall_mem_append]
  refine ⟨⟨⟨⟨⟨⟨?front, ?state⟩, ?advice⟩, ?savings⟩, ?jobs⟩, ?snippet⟩, ?ending⟩
  case front =>
    have digits := esc_not_mem_repr number
    simp only [List.forall_mem_cons]
    refine ⟨?_, isLine_told (by decide) problem, List.forall_mem_nil _⟩
    simp [Block.IsLineLacking, Span.plain, Span.styled, String.toList_append, toString, digits, title,
      id]
  case state =>
    split
    · exact List.forall_mem_nil _
    · exact List.forall_mem_singleton.mpr (isLine_told (by decide) currentState)
  case advice => exact List.forall_mem_singleton.mpr (isLine_told (by decide) recommendation)
  case savings =>
    intro block known
    obtain ⟨text, told, rfl⟩ := Option.map_eq_some_iff.mp (Option.mem_toList.mp known)
    have savings : '\x1b' ∉ text.toList := by
      intro inside
      rcases Finding.mem_savingsText told inside with printed | ⟨promise, known, inPromise⟩
      · exact absurd printed (by decide)
      · exact time promise known inPromise
    simp [Block.IsLineLacking, Span.plain, Span.styled, savings]
  case jobs =>
    split
    · exact List.forall_mem_nil _
    refine List.forall_mem_singleton.mpr (isLine_told (by decide) fun inside => ?_)
    rcases mem_of_mem_joined inside with between | ⟨job, known, inJob⟩
    · exact absurd between (by decide)
    · exact affected job known inJob
  case snippet =>
    cases given : finding.example? with
    | none => exact List.forall_mem_nil _
    | some snippet =>
        rw [List.forall_mem_cons, List.forall_mem_map]
        refine ⟨?_, fun line known => ?_⟩
        · simp [Block.ofText, Block.IsLineLacking, Span.plain]
        · have whole : '\x1b' ∉ line := fun inLine =>
            cleanExample snippet given (Text.mem_of_mem_lines known inLine)
          simp [Block.IsLineLacking, Span.plain, whole]
  case ending => exact List.forall_mem_singleton.mpr (List.forall_mem_nil _)

theorem isLine_group {priority : Priority} {findings : List Finding}
    (each : ∀ finding ∈ findings, ∀ number, ∀ block ∈ TerminalReport.finding number finding,
      block.IsLineLacking '\x1b') :
    ∀ block ∈ group priority findings, block.IsLineLacking '\x1b' := by
  rw [group, List.forall_mem_append]
  constructor
  · have label : '\x1b' ∉ priority.label.toList := by
      cases priority <;> decide
    have digits := esc_not_mem_repr findings.length
    simp [Block.IsLineLacking, Block.blank, Span.styled, String.toList_append, toString, label, digits]
  · intro block known
    obtain ⟨⟨finding, number⟩, numbered, inFinding⟩ := List.mem_flatMap.mp known
    exact each finding (List.fst_mem_of_mem_zipIdx numbered) number block inFinding

theorem isLine_foot {result : AnalysisResult}
    (clean : ∀ fault ∈ result.faults, '\x1b' ∉ fault.text.toList) :
    ∀ block ∈ foot result, block.IsLineLacking '\x1b' := by
  rw [foot]
  split
  · exact List.forall_mem_nil _
  rw [List.forall_mem_append, List.forall_mem_map]
  refine ⟨?_, fun fault known => isLine_told (by decide) (clean fault known)⟩
  simp [Block.IsLineLacking, Block.blank, Span.styled]

theorem lacks_head (result : AnalysisResult) : ∀ block ∈ head result, block.Lacks '\x1b' := by
  rw [head, List.forall_mem_append]
  refine ⟨by simp [Block.Lacks, Block.blank, Span.styled], ?_⟩
  split
  · simp [Block.Lacks, Span.styled]
  have figures : ∀ row ∈ ("Metric", "Value") :: result.figures,
      '\x1b' ∉ row.1.toList ++ row.2.toList := by
    rw [List.forall_mem_cons]
    exact ⟨by decide, fun row known inside =>
      absurd (AnalysisResult.mem_figures known inside) (by decide)⟩
  rw [List.forall_mem_cons]
  exact ⟨figures, List.forall_mem_singleton.mpr (List.forall_mem_nil _)⟩

theorem isLine_listing {result : AnalysisResult}
    (clean : ∀ text ∈ result.wording ++ result.examples, '\x1b' ∉ text.toList)
    (threshold : Option Priority) :
    ∀ block ∈ listing threshold result ++ foot result, block.IsLineLacking '\x1b' := by
  simp only [AnalysisResult.wording, List.forall_mem_append, List.forall_mem_map] at clean
  obtain ⟨⟨wording, faults⟩, examples⟩ := clean
  rw [List.forall_mem_append]
  refine ⟨?_, isLine_foot faults⟩
  intro block known
  obtain ⟨⟨priority, findings⟩, isGroup, inGroup⟩ := List.mem_flatMap.mp known
  refine isLine_group (fun finding isMember number => ?_) block inGroup
  rw [result.mem_groups threshold isGroup, List.mem_filter] at isMember
  refine isLine_finding ?_ ?_ number
  · intro text inFinding
    exact wording text (List.mem_flatMap.mpr ⟨finding, isMember.1, inFinding⟩)
  · intro snippet given
    exact examples snippet (List.mem_filterMap.mpr ⟨finding, isMember.1, given⟩)

end TerminalReport

namespace AnalysisResult

def figureLines (result : AnalysisResult) (frame : Frame) : List (List Char) :=
  if result.findings.isEmpty then []
  else Table.lines frame { header := ("Metric", "Value"), rows := result.figures }

theorem blocks_plainLines {result : AnalysisResult}
    (clean : ∀ text ∈ result.wording ++ result.examples, '\x1b' ∉ text.toList)
    (threshold : Option Priority) : ∃ front back, ∀ frame,
      (TerminalReport.blocks threshold result).flatMap (Block.plainLines frame) =
        front ++ result.figureLines frame ++ back := by
  let later := TerminalReport.listing threshold result ++ TerminalReport.foot result
  have same : ∀ frame, later.flatMap (Block.plainLines frame) =
      later.flatMap (Block.plainLines .ascii) := by
    intro frame
    rw [List.flatMap_def, List.flatMap_def]
    congr 1
    apply List.map_congr_left
    intro block known
    exact (TerminalReport.isLine_listing clean threshold block known).plainLines_eq _ _
  have parts : ∀ frame, (TerminalReport.blocks threshold result).flatMap (Block.plainLines frame) =
      (TerminalReport.head result).flatMap (Block.plainLines frame) ++
        later.flatMap (Block.plainLines .ascii) := by
    intro frame
    rw [← same, ← List.flatMap_append, TerminalReport.blocks, List.append_assoc]
  cases empty : result.findings.isEmpty with
  | true =>
      refine ⟨(TerminalReport.head result).flatMap (Block.plainLines .ascii),
        later.flatMap (Block.plainLines .ascii), fun frame => ?_⟩
      rw [parts, figureLines, if_pos empty, List.append_nil, TerminalReport.head, if_pos empty]
      rfl
  | false =>
      refine ⟨["CircleCI Optimization Report".toList, []],
        [] :: later.flatMap (Block.plainLines .ascii), fun frame => ?_⟩
      have filled : ¬result.findings.isEmpty = true := by simp [empty]
      rw [parts, figureLines, if_neg filled, TerminalReport.head, if_neg filled]
      simp [Block.plainLines, Block.blank, Span.styled]

theorem mem_figureCells {result : AnalysisResult} {row : String × String} {c : Char}
    (known : row ∈ ("Metric", "Value") :: result.figures)
    (inside : c ∈ row.1.toList ++ row.2.toList) : c.isAlphanum = true ∨ c = ' ' ∨ c = '%' := by
  rcases List.mem_cons.mp known with rfl | isFigure
  · have header : ∀ c ∈ "Metric".toList ++ "Value".toList,
        c.isAlphanum = true ∨ c = ' ' ∨ c = '%' :=
      List.all_iff_forall_prop.mp (by decide)
    exact header c inside
  · exact mem_figures isFigure inside

theorem trim_figureCells {result : AnalysisResult} {row : String × String}
    (known : row ∈ ("Metric", "Value") :: result.figures) :
    Text.trim row.1.toList = row.1.toList ∧ Text.trim row.2.toList = row.2.toList := by
  rcases List.mem_cons.mp known with rfl | isFigure
  · decide
  obtain ⟨named, number, unit, isUnit, value⟩ := figures_shape isFigure
  have names : ∀ name ∈ ["Total findings", "High priority", "Medium priority", "Low priority",
      "Estimated cost reduction", "Estimated time saved"], Text.trim name.toList = name.toList := by
    decide
  have units : ∀ unit ∈ ["", "%", " min"],
      unit.toList.getLast?.all (fun c => !Text.isBlank c) = true := by
    decide
  have digits : ∀ c ∈ (Nat.repr number).toList, Text.isBlank c = false := fun c inside =>
    isBlank_of_isAlphanum (isAlphanum_of_mem_repr inside)
  have filled : (Nat.repr number).toList ≠ [] := by simp
  refine ⟨names _ named, ?_⟩
  rw [value, String.toList_append]
  apply Text.trim_eq_self
  · intro c first
    rw [List.head?_append_of_ne_nil _ filled] at first
    exact digits c (List.mem_of_mem_head? first)
  · intro c last
    rw [List.getLast?_append] at last
    cases ending : unit.toList.getLast? with
    | some other =>
        have visible := units unit isUnit
        rw [ending, Option.all_some, Bool.not_eq_true'] at visible
        rw [ending, Option.some_or, Option.mem_some_iff] at last
        exact last ▸ visible
    | none =>
        rw [ending, Option.none_or] at last
        exact digits c (List.mem_of_getLast? last)

theorem readRows_figureLines (result : AnalysisResult) {frame : Frame}
    (vertical : ∀ c ∈ [frame.side, frame.divider], ¬(c.isAlphanum = true ∨ c = ' ' ∨ c = '%'))
    (unbroken : ∀ rule ∈ frame.rules,
      frame.isVertical rule.filling = false ∧ frame.isVertical rule.crossing = false) :
    Table.readRows frame (result.figureLines frame) =
      if result.findings.isEmpty then [] else ("Metric", "Value") :: result.figures := by
  have special : ∀ c, c.isAlphanum = true ∨ c = ' ' ∨ c = '%' → frame.isVertical c = false := by
    intro c plain
    rw [Bool.eq_false_iff]
    intro isLine
    refine vertical c ?_ plain
    simpa [Frame.isVertical] using isLine
  rw [figureLines]
  split
  · rfl
  · exact Table.readRows_lines (special ' ' (by decide)) unbroken
      (fun row known c inside => special c (mem_figureCells known inside))
      fun row known => trim_figureCells known

/-- If no text holds an ESC, the coloured report without its style sequences and the plain report have
the same lines around the table of figures. The table differs in its border characters: redrawn, the
boxed one is the plain one, and both show the same rows. -/
theorem report_colour {result : AnalysisResult}
    (clean : ∀ text ∈ result.wording ++ result.examples, '\x1b' ∉ text.toList)
    (threshold : Option Priority) (shown : Bool) :
    let coloured := result.report .terminal ⟨threshold, ColorMode.always.usesColor shown⟩
    let plain := result.report .terminal ⟨threshold, ColorMode.never.usesColor shown⟩
    let rows := if result.findings.isEmpty then [] else ("Metric", "Value") :: result.figures
    (∃ front back,
      stripStyles false coloured.toList = joinLines (front ++ result.figureLines .boxed ++ back) ∧
        plain.toList = joinLines (front ++ result.figureLines .ascii ++ back)) ∧
      (result.figureLines .boxed).map (List.map redrawn) = result.figureLines .ascii ∧
      Table.readRows .boxed (result.figureLines .boxed) = rows ∧
      Table.readRows .ascii (result.figureLines .ascii) = rows := by
  intro coloured plain rows
  refine ⟨?_, ?_, ?_, ?_⟩
  · obtain ⟨front, back, lines⟩ := blocks_plainLines clean threshold
    have page : ∀ block ∈ TerminalReport.blocks threshold result, block.Lacks '\x1b' := by
      rw [TerminalReport.blocks, List.append_assoc, List.forall_mem_append]
      exact ⟨TerminalReport.lacks_head result, fun block known =>
        (TerminalReport.isLine_listing clean threshold block known).lacks⟩
    refine ⟨front, back, ?_, ?_⟩
    · rw [← lines, ← stripStyles_renderPage page]
      exact congrArg _ String.toList_ofList
    · rw [← lines, ← renderPage_plain]
      exact String.toList_ofList
  · rw [figureLines, figureLines]
    split
    · rfl
    · refine Table.lines_redrawn fun row known c inside => ?_
      have letters : ∀ c ∈ Frame.boxed.characters, ¬(c.isAlphanum = true ∨ c = ' ' ∨ c = '%') :=
        List.all_iff_forall_prop.mp (by decide)
      exact fun border => letters c border (mem_figureCells known inside)
  · exact result.readRows_figureLines (List.all_iff_forall_prop.mp (by decide)) (by decide)
  · exact result.readRows_figureLines (List.all_iff_forall_prop.mp (by decide)) (by decide)

def drawnResult : AnalysisResult where
  total := 2
  counts := { high := 1, medium := 0, low := 1 }
  savings := { costPercent := 88, minutes := 30 }
  findings := [
    { id := "[1m", category := .orbs, priority := .low, score := Score.reusableOrb
      title := "│ Metric ┆ Value │", affectedJobs := ["", "[0m"], example? := some "a\r\n\n  [2m│" },
    { id := "", category := .cache, priority := .high, score := Score.missingCache, title := ""
      currentState := "+---+", savings? := some { time := some "m" } }]
  faults := [{ analyzer := "x", message := "[33m" }]

theorem report_colour_drawn :
    let coloured := drawnResult.report .terminal ⟨some .low, ColorMode.always.usesColor false⟩
    let plain := drawnResult.report .terminal ⟨some .low, ColorMode.never.usesColor false⟩
    (∀ text ∈ drawnResult.wording ++ drawnResult.examples, '\x1b' ∉ text.toList) ∧
      (∃ front back, stripStyles false coloured.toList =
          joinLines (front ++ drawnResult.figureLines .boxed ++ back) ∧
        plain.toList = joinLines (front ++ drawnResult.figureLines .ascii ++ back)) ∧
      Table.readRows .boxed (drawnResult.figureLines .boxed) = [("Metric", "Value"),
        ("Total findings", "2"), ("High priority", "1"), ("Medium priority", "0"),
        ("Low priority", "1"), ("Estimated cost reduction", "88%"),
        ("Estimated time saved", "30 min")] := by
  have clean : ∀ text ∈ drawnResult.wording ++ drawnResult.examples, '\x1b' ∉ text.toList := by
    decide
  obtain ⟨around, -, rows, -⟩ := report_colour clean (some .low) false
  exact ⟨clean, around, rows.trans (by decide +kernel)⟩

end AnalysisResult

end PipelineAdvisor
