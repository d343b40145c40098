import Mathlib.Data.List.DropRight
import PipelineAdvisor.Report.Page
import PipelineAdvisor.Text.Search
import PipelineAdvisor.Proofs.Text.Joining

/-!
Tables in different frames. A frame is all that differs between the two forms of a table: redrawing
the border characters of one gives the other, and both are read back as the same rows.
-/

namespace PipelineAdvisor

namespace Text

theorem trimEnd_append_blanks (text : List Char) {blanks : List Char}
    (blank : ∀ c ∈ blanks, isBlank c = true) : trimEnd (text ++ blanks) = trimEnd text := by
  have reversed : ∀ c ∈ blanks.reverse, isBlank c = true := fun c inside =>
    blank c (List.mem_reverse.mp inside)
  rw [trimEnd, List.reverse_append, List.dropWhile_append_of_pos reversed]
  rfl

theorem trim_padded (text : List Char) {front back : List Char}
    (before : ∀ c ∈ front, isBlank c = true) (after : ∀ c ∈ back, isBlank c = true) :
    trim (front ++ text ++ back) = trim text := by
  rw [trim, List.append_assoc, List.dropWhile_append_of_pos before, List.dropWhile_append]
  split
  next none =>
    rw [List.isEmpty_iff] at none
    rw [trim, none, List.dropWhile_eq_nil_iff.mpr after]
  next => exact trimEnd_append_blanks _ after

theorem trim_eq_self {text : List Char} (first : ∀ c ∈ text.head?, isBlank c = false)
    (last : ∀ c ∈ text.getLast?, isBlank c = false) : trim text = text := by
  have front : text.dropWhile isBlank = text := by
    cases text with
    | nil => rfl
    | cons c rest => exact List.dropWhile_cons_of_neg (by simp [first c rfl])
  rw [trim, front]
  apply List.rdropWhile_eq_self_iff.mpr
  intro filled
  simpa using last _ (List.getLast?_eq_getLast_of_ne_nil filled)

end Text

namespace Frame

def isVertical (frame : Frame) (c : Char) : Bool :=
  c == frame.side || c == frame.divider

def rules (frame : Frame) : List Rule :=
  [frame.top, frame.belowHeader, frame.betweenRows, frame.bottom]

def characters (frame : Frame) : List Char :=
  [frame.side, frame.divider] ++
    frame.rules.flatMap fun rule => [rule.left, rule.filling, rule.crossing, rule.right]

end Frame

/-- The border character of the plain frame in the place of one of the box; any other character
stays. -/
def redrawn (c : Char) : Char :=
  ((Frame.boxed.characters.zip Frame.ascii.characters).lookup c).getD c

theorem redrawn_of_not_mem {c : Char} (elsewhere : c ∉ Frame.boxed.characters) : redrawn c = c := by
  have unpaired : (Frame.boxed.characters.zip Frame.ascii.characters).lookup c = none := by
    rw [List.lookup_eq_none_iff]
    intro pair known
    rw [bne_iff_ne]
    rintro rfl
    exact elsewhere (List.of_mem_zip known).1
  rw [redrawn, unpaired, Option.getD_none]

namespace Table

/-- The cells on a line of a table: what stands between three vertical lines, without the blanks
around it. -/
def cells? (frame : Frame) (line : List Char) : Option (String × String) :=
  match line.splitOnP frame.isVertical with
  | [[], first, second, []] =>
    some (String.ofList (Text.trim first), String.ofList (Text.trim second))
  | _ => none

def readRows (frame : Frame) (lines : List (List Char)) : List (String × String) :=
  lines.filterMap (cells? frame)

/-! ### Characters -/

theorem mem_ruleText {frame : Frame} {rule : Rule} (known : rule ∈ frame.rules) {widths : Nat × Nat}
    {c : Char} (inside : c ∈ ruleText widths rule) : c ∈ frame.characters := by
  apply List.mem_append_right
  refine List.mem_flatMap.mpr ⟨rule, known, ?_⟩
  simp only [ruleText, List.cons_append, List.mem_cons, List.mem_append, List.mem_replicate,
    List.not_mem_nil, or_false] at inside ⊢
  rcases inside with rfl | (⟨-, rfl⟩ | rfl | ⟨-, rfl⟩) | rfl <;> simp

theorem mem_rowText {frame : Frame} {widths : Nat × Nat} {row : String × String} {c : Char}
    (inside : c ∈ rowText frame widths row) :
    c ∈ frame.characters ∨ c = ' ' ∨ c ∈ row.1.toList ++ row.2.toList := by
  simp only [rowText, cell, Frame.characters, List.cons_append, List.mem_cons, List.mem_append,
    List.mem_replicate, List.not_mem_nil, or_false] at inside ⊢
  tauto

theorem mem_lines {frame : Frame} {table : Table} {line : List Char} {c : Char}
    (known : line ∈ table.lines frame) (inside : c ∈ line) :
    c ∈ frame.characters ∨ c = ' ' ∨
      ∃ row ∈ table.header :: table.rows, c ∈ row.1.toList ++ row.2.toList := by
  have rule : ∀ rule ∈ frame.rules, line = ruleText table.widths rule → c ∈ frame.characters := by
    rintro rule isRule rfl
    exact mem_ruleText isRule inside
  have row : ∀ row ∈ table.header :: table.rows, line = rowText frame table.widths row →
      c ∈ frame.characters ∨ c = ' ' ∨
        ∃ row ∈ table.header :: table.rows, c ∈ row.1.toList ++ row.2.toList := by
    rintro row isRow rfl
    exact (mem_rowText inside).imp_right (Or.imp_right fun inCells => ⟨row, isRow, inCells⟩)
  simp only [lines, List.mem_append, List.mem_cons, List.not_mem_nil, or_false] at known
  rcases known with ((top | header | below) | inner) | bottom
  · exact Or.inl (rule _ (by simp [Frame.rules]) top)
  · exact row _ List.mem_cons_self header
  · exact Or.inl (rule _ (by simp [Frame.rules]) below)
  · rcases mem_of_mem_intersperse inner with between | isRow
    · exact Or.inl (rule _ (by simp [Frame.rules]) between)
    · obtain ⟨other, known, rfl⟩ := List.mem_map.mp isRow
      exact row other (List.mem_cons_of_mem _ known) rfl
  · exact Or.inl (rule _ (by simp [Frame.rules]) bottom)

/-! ### Redrawing -/

theorem ruleText_redrawn (widths : Nat × Nat) (rule other : Rule)
    (same : redrawn rule.left = other.left ∧ redrawn rule.filling = other.filling ∧
      redrawn rule.crossing = other.crossing ∧ redrawn rule.right = other.right) :
    (ruleText widths rule).map redrawn = ruleText widths other := by
  simp [ruleText, same]

theorem cell_redrawn (width : Nat) {text : String}
    (clean : ∀ c ∈ text.toList, c ∉ Frame.boxed.characters) :
    (cell width text).map redrawn = cell width text := by
  have kept : text.toList.map redrawn = text.toList :=
    (List.map_congr_left fun c inside => redrawn_of_not_mem (clean c inside)).trans (List.map_id _)
  have blank : redrawn ' ' = ' ' := by decide
  simp [cell, kept, blank]

section Rows

variable {widths : Nat × Nat} {row : String × String}

theorem rowText_redrawn (clean : ∀ c ∈ row.1.toList ++ row.2.toList, c ∉ Frame.boxed.characters) :
    (rowText .boxed widths row).map redrawn = rowText .ascii widths row := by
  rw [List.forall_mem_append] at clean
  have lines : redrawn Frame.boxed.side = Frame.ascii.side ∧
      redrawn Frame.boxed.divider = Frame.ascii.divider := by decide
  simp [rowText, cell_redrawn _ clean.1, cell_redrawn _ clean.2, lines]

theorem lines_redrawn {table : Table} (clean : ∀ row ∈ table.header :: table.rows,
      ∀ c ∈ row.1.toList ++ row.2.toList, c ∉ Frame.boxed.characters) :
    (table.lines .boxed).map (List.map redrawn) = table.lines .ascii := by
  have rows : (table.rows.map (rowText .boxed table.widths)).map (List.map redrawn) =
      table.rows.map (rowText .ascii table.widths) := by
    rw [List.map_map]
    apply List.map_congr_left
    intro row known
    exact rowText_redrawn (clean row (List.mem_cons_of_mem _ known))
  have top := ruleText_redrawn table.widths Frame.boxed.top Frame.ascii.top (by decide)
  have below :=
    ruleText_redrawn table.widths Frame.boxed.belowHeader Frame.ascii.belowHeader (by decide)
  have between :=
    ruleText_redrawn table.widths Frame.boxed.betweenRows Frame.ascii.betweenRows (by decide)
  have bottom := ruleText_redrawn table.widths Frame.boxed.bottom Frame.ascii.bottom (by decide)
  have header := @rowText_redrawn table.widths table.header (clean _ List.mem_cons_self)
  simp only [lines, List.map_append, List.map_cons, List.map_nil, map_intersperse, rows, top, below,
    between, bottom, header]

end Rows

/-! ### Reading -/

section Reading

variable {frame : Frame} (blank : frame.isVertical ' ' = false)
  (unbroken : ∀ rule ∈ frame.rules,
    frame.isVertical rule.filling = false ∧ frame.isVertical rule.crossing = false)

include blank in
theorem cell_not_vertical (width : Nat) {text : String}
    (clean : ∀ c ∈ text.toList, frame.isVertical c = false) :
    ∀ c ∈ cell width text, frame.isVertical c = false := by
  intro c inside
  simp only [cell, List.cons_append, List.mem_cons, List.mem_append, List.mem_replicate,
    List.not_mem_nil, or_false] at inside
  rcases inside with rfl | (inText | ⟨-, rfl⟩) | rfl
  · exact blank
  · exact clean c inText
  · exact blank
  · exact blank

theorem trim_cell (width : Nat) (text : String) :
    Text.trim (cell width text) = Text.trim text.toList := by
  have padded : cell width text =
      [' '] ++ text.toList ++ (List.replicate (width - text.length) ' ' ++ [' ']) := by
    simp [cell]
  rw [padded]
  apply Text.trim_padded
  · exact List.forall_mem_singleton.mpr (by decide)
  · intro c inside
    simp only [List.mem_append, List.mem_replicate, List.mem_singleton] at inside
    rcases inside with ⟨-, rfl⟩ | rfl <;> decide

include blank in
theorem cells?_rowText {widths : Nat × Nat} {row : String × String}
    (clean : ∀ c ∈ row.1.toList ++ row.2.toList, frame.isVertical c = false)
    (trimmed : Text.trim row.1.toList = row.1.toList ∧ Text.trim row.2.toList = row.2.toList) :
    cells? frame (rowText frame widths row) = some row := by
  rw [List.forall_mem_append] at clean
  have first := cell_not_vertical blank widths.1 clean.1
  have second := cell_not_vertical blank widths.2 clean.2
  have side : frame.isVertical frame.side = true := by simp [Frame.isVertical]
  have divider : frame.isVertical frame.divider = true := by simp [Frame.isVertical]
  have parts : (rowText frame widths row).splitOnP frame.isVertical =
      [[], cell widths.1 row.1, cell widths.2 row.2, []] := by
    have shape : rowText frame widths row = [] ++ frame.side :: (cell widths.1 row.1 ++
        frame.divider :: (cell widths.2 row.2 ++ frame.side :: [])) := by
      simp [rowText]
    rw [shape, List.splitOnP_append_cons_of_forall_mem (by simp) _ side,
      List.splitOnP_append_cons_of_forall_mem first _ divider,
      List.splitOnP_append_cons_of_forall_mem second _ side, List.splitOnP_nil]
  rw [cells?, parts]
  simp [trim_cell, trimmed]

include unbroken in
theorem cells?_ruleText (widths : Nat × Nat) {rule : Rule} (known : rule ∈ frame.rules) :
    cells? frame (ruleText widths rule) = none := by
  obtain ⟨filling, crossing⟩ := unbroken rule known
  let middle := List.replicate (widths.1 + 2) rule.filling ++
    rule.crossing :: List.replicate (widths.2 + 2) rule.filling
  have shape : ruleText widths rule = rule.left :: (middle ++ [rule.right]) := by
    simp [ruleText, middle]
  have inner : ∀ c ∈ middle, frame.isVertical c = false := by
    intro c inside
    simp only [middle, List.mem_append, List.mem_cons, List.mem_replicate] at inside
    rcases inside with ⟨-, rfl⟩ | rfl | ⟨-, rfl⟩ <;> assumption
  -- Two vertical lines at most are too few for a row.
  rw [cells?, shape]
  cases left : frame.isVertical rule.left <;> cases right : frame.isVertical rule.right
  · rw [List.splitOnP_eq_singleton (by simpa [left, right, or_imp, forall_and] using inner)]
  · rw [← List.cons_append,
      List.splitOnP_append_cons_of_forall_mem (by simpa [left] using inner) _ right]
  · rw [← List.nil_append (rule.left :: _),
      List.splitOnP_append_cons_of_forall_mem (by simp) _ left,
      List.splitOnP_eq_singleton (by simpa [right, or_imp, forall_and] using inner)]
  · rw [← List.nil_append (rule.left :: _),
      List.splitOnP_append_cons_of_forall_mem (by simp) _ left,
      List.splitOnP_append_cons_of_forall_mem inner _ right]
    rfl

include blank unbroken in
/-- The rows of a table, its header first, are read back from its lines. -/
theorem readRows_lines {table : Table}
    (clean : ∀ row ∈ table.header :: table.rows,
      ∀ c ∈ row.1.toList ++ row.2.toList, frame.isVertical c = false)
    (trimmed : ∀ row ∈ table.header :: table.rows,
      Text.trim row.1.toList = row.1.toList ∧ Text.trim row.2.toList = row.2.toList) :
    readRows frame (table.lines frame) = table.header :: table.rows := by
  have row : ∀ row ∈ table.header :: table.rows,
      cells? frame (rowText frame table.widths row) = some row := fun row known =>
    cells?_rowText blank (clean row known) (trimmed row known)
  have rule : ∀ rule ∈ frame.rules, cells? frame (ruleText table.widths rule) = none :=
    fun rule known => cells?_ruleText unbroken table.widths known
  have rows : (table.rows.map (rowText frame table.widths)).filterMap (cells? frame) =
      table.rows := by
    rw [List.filterMap_map]
    refine (List.filterMap_congr fun other known => ?_).trans (List.filterMap_some)
    exact row other (List.mem_cons_of_mem _ known)
  simp only [Frame.rules, List.forall_mem_cons] at rule
  obtain ⟨top, below, between, bottom, -⟩ := rule
  simp only [readRows, lines, List.filterMap_append, filterMap_intersperse between, rows,
    List.filterMap_cons, List.filterMap_nil, top, below, bottom, row table.header List.mem_cons_self]
  simp

end Reading

end Table

end PipelineAdvisor
