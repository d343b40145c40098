import PipelineAdvisor.Report.Style

/-!
Pages for a terminal: lines of styled spans, and tables. Colour changes the control sequences around
spans and the frame around tables, and nothing else.
-/

namespace PipelineAdvisor

structure Span where
  style : Option Style := none
  text : List Char

namespace Span

def plain (text : String) : Span where
  text := text.toList

def styled (style : Style) (text : String) : Span where
  style := some style
  text := text.toList

def render (color : Bool) (span : Span) : List Char :=
  match span.style with
  | some style => if color then style.paint span.text else span.text
  | none => span.text

end Span

/-- A horizontal rule of a table: its ends, its filling and what stands where a column ends. -/
structure Rule where
  left : Char
  filling : Char
  crossing : Char
  right : Char

structure Frame where
  top : Rule
  belowHeader : Rule
  betweenRows : Rule
  bottom : Rule
  /-- The vertical line at both sides. -/
  side : Char
  /-- The vertical line between cells. -/
  divider : Char

namespace Frame

def ascii : Frame where
  top := ⟨'+', '-', '+', '+'⟩
  belowHeader := ⟨'+', '=', '=', '+'⟩
  betweenRows := ⟨'|', '-', '+', '|'⟩
  bottom := ⟨'+', '-', '+', '+'⟩
  side := '|'
  divider := '|'

def boxed : Frame where
  top := ⟨'┌', '─', '┬', '┐'⟩
  belowHeader := ⟨'╞', '═', '╪', '╡'⟩
  betweenRows := ⟨'├', '╌', '┼', '┤'⟩
  bottom := ⟨'└', '─', '┴', '┘'⟩
  side := '│'
  divider := '┆'

end Frame

structure Table where
  header : String × String
  rows : List (String × String)

namespace Table

def widths (table : Table) : Nat × Nat :=
  table.rows.foldl
    (fun widths row => (max widths.1 row.1.length, max widths.2 row.2.length))
    (table.header.1.length, table.header.2.length)

def cell (width : Nat) (text : String) : List Char :=
  ' ' :: text.toList ++ List.replicate (width - text.length) ' ' ++ [' ']

def rowText (frame : Frame) (widths : Nat × Nat) (row : String × String) : List Char :=
  frame.side :: cell widths.1 row.1 ++ frame.divider :: cell widths.2 row.2 ++ [frame.side]

def ruleText (widths : Nat × Nat) (rule : Rule) : List Char :=
  rule.left :: List.replicate (widths.1 + 2) rule.filling ++
    rule.crossing :: List.replicate (widths.2 + 2) rule.filling ++ [rule.right]

def lines (frame : Frame) (table : Table) : List (List Char) :=
  let widths := table.widths
  [ruleText widths frame.top, rowText frame widths table.header,
    ruleText widths frame.belowHeader] ++
    (table.rows.map (rowText frame widths)).intersperse (ruleText widths frame.betweenRows) ++
    [ruleText widths frame.bottom]

end Table

inductive Block where
  | line (spans : List Span)
  | table (table : Table)

namespace Block

def blank : Block := .line []

def ofText (text : String) : Block := .line [.plain text]

def lines (color : Bool) : Block → List (List Char)
  | .line spans => [spans.flatMap (Span.render color)]
  | .table content => content.lines (if color then .boxed else .ascii)

end Block

def joinLines (lines : List (List Char)) : List Char :=
  lines.flatMap (· ++ ['\n'])

def renderPage (color : Bool) (blocks : List Block) : List Char :=
  joinLines (blocks.flatMap (Block.lines color))

end PipelineAdvisor
