import PipelineAdvisor.Yaml.Token.Cursor
import PipelineAdvisor.Yaml.Token.Basic

/-!
Reading scalars. Quoted and plain scalars run over several lines, and the blanks and line breaks
between two parts are a `Gap` that is folded; block scalars keep the shape of their lines.
-/

namespace PipelineAdvisor.Yaml.Scalar

inductive Gap where
  /-- Blanks within a line. -/
  | blanks (text : List Char)
  /-- Line breaks, with the first one apart. It is empty if it was escaped. -/
  | breaks (first more : List Char)

/-- What a gap contributes: blanks stay, a single line feed becomes a space, and of several the
first is dropped. -/
def Gap.folded : Gap → List Char
  | .blanks text => text
  | .breaks first more =>
    if first.head? == some '\n' then (if more.isEmpty then [' '] else more) else first ++ more

/-- Reads a gap. Tabs left of `tabLimit` on a new line are an error of a plain scalar that began at
`start`. -/
def readGap (tabLimit : Option (Nat × Mark)) :
    Nat → Gap → Cursor → Except SyntaxError (Gap × Cursor)
  | 0, gap, cursor => .ok (gap, cursor)
  | fuel + 1, gap, cursor =>
    match cursor.rest with
    | [] => .ok (gap, cursor)
    | c :: _ =>
      if isSpaceOrTab c then
        match gap with
        | .blanks text => readGap tabLimit fuel (.blanks (text ++ [c])) cursor.skip
        | .breaks first more =>
          match tabLimit with
          | some (limit, start) =>
            if c == '\t' && cursor.mark.column < limit then
              .error (.within .plainScalar start .tabBeforeScalar cursor.mark)
            else readGap tabLimit fuel (.breaks first more) cursor.skip
          | none => readGap tabLimit fuel (.breaks first more) cursor.skip
      else if isBreak c then
        match gap with
        | .blanks _ => readGap tabLimit fuel (.breaks cursor.breakText []) cursor.skipBreak
        | .breaks first more =>
          readGap tabLimit fuel (.breaks first (more ++ cursor.breakText)) cursor.skipBreak
      else .ok (gap, cursor)

def isFlowIndicator (c : Char) : Bool :=
  c == ',' || c == '[' || c == ']' || c == '{' || c == '}'

/-- The characters of a plain scalar up to a blank or an indicator that ends it, and whether they
end at a colon that may not stand there. -/
def plainRun (inFlow : Bool) : List Char → List Char × Bool
  | [] => ([], false)
  | c :: rest =>
    if isSpaceOrBreak c then ([], false)
    else if inFlow && c == ':' &&
        rest.head?.elim false (fun d => isFlowIndicator d || d == '?') then
      ([], true)
    else if c == ':' && rest.head?.elim true isSpaceOrBreak then ([], false)
    else if inFlow && isFlowIndicator c then ([], false)
    else
      let (run, bad) := plainRun inFlow rest
      (c :: run, bad)

structure PlainScalar where
  text : List Char
  stop : Mark
  newLine : Bool
  cursor : Cursor

def plainParts (inFlow : Bool) (indent : Nat) (start : Mark) :
    Nat → List Char → Mark → Gap → Cursor → Except SyntaxError PlainScalar
  | 0, text, stop, _, cursor => .ok ⟨text, stop, false, cursor⟩
  | fuel + 1, text, stop, gap, cursor => do
    let newLine := match gap with | .blanks _ => false | .breaks _ _ => true
    if cursor.atDocumentMark '-' || cursor.atDocumentMark '.' || cursor.isAt '#' then
      return ⟨text, stop, newLine, cursor⟩
    else
      let (run, bad) := plainRun inFlow cursor.rest
      let text := if run.isEmpty then text else text ++ gap.folded ++ run
      let newLine := newLine && run.isEmpty
      let stop := if run.isEmpty then stop else (cursor.skip run.length).mark
      let cursor := cursor.skip run.length
      if bad then .error (.within .plainScalar start .unexpectedColon cursor.mark)
      else if !cursor.holdsAt 0 isSpaceOrBreak then return ⟨text, stop, newLine, cursor⟩
      else
        let (gap, cursor) ←
          readGap (some (indent, start)) cursor.rest.length (.blanks []) cursor
        let newLine := match gap with | .blanks _ => false | .breaks _ _ => true
        if !inFlow && cursor.mark.column < indent then return ⟨text, stop, newLine, cursor⟩
        else plainParts inFlow indent start fuel text stop gap cursor

def readPlain (inFlow : Bool) (indent : Nat) (cursor : Cursor) : Except SyntaxError PlainScalar :=
  plainParts inFlow indent cursor.mark (cursor.rest.length + 1) [] cursor.mark (.blanks []) cursor

def escapeValue? (c : Char) : Option Char :=
  match c with
  | '0' => some '\x00'
  | 'a' => some '\x07'
  | 'b' => some '\x08'
  | 't' => some '\t'
  | '\t' => some '\t'
  | 'n' => some '\n'
  | 'v' => some '\x0b'
  | 'f' => some '\x0c'
  | 'r' => some '\r'
  | 'e' => some '\x1b'
  | ' ' => some ' '
  | '"' => some '"'
  | '/' => some '/'
  | '\\' => some '\\'
  | 'N' => some '\u0085'
  | '_' => some '\u00a0'
  | 'L' => some '\u2028'
  | 'P' => some '\u2029'
  | _ => none

def escapeWidth? (c : Char) : Option Nat :=
  match c with
  | 'x' => some 2
  | 'u' => some 4
  | 'U' => some 8
  | _ => none

def readEscape (start : Mark) (cursor : Cursor) : Except SyntaxError (Char × Cursor) :=
  match cursor.peekAt? 1 with
  | none => .error (.within .quotedEscape start .unknownEscape cursor.mark)
  | some letter =>
    match escapeValue? letter, escapeWidth? letter with
    | some c, _ => .ok (c, cursor.skip 2)
    | none, none => .error (.within .quotedEscape start .unknownEscape cursor.mark)
    | none, some width =>
      let cursor := cursor.skip 2
      let digits := (cursor.rest.take width).takeWhile isHexDigit
      let value := digits.foldl (fun total digit => 16 * total + hexDigitValue digit) 0
      if digits.length < width then
        .error (.within .quotedEscape start .missingHexDigit cursor.mark)
      else if (0xD800 ≤ value ∧ value ≤ 0xDFFF) ∨ 0x10FFFF < value then
        .error (.within .quotedEscape start .badEscapeCode cursor.mark)
      else .ok (Char.ofNat value, cursor.skip width)

/-- Reads a part of a quoted scalar up to a blank, a line break, the closing quote or the end, and
whether an escaped line break ended it. -/
def quotedPart (single : Bool) (start : Mark) :
    Nat → Cursor → Except SyntaxError (List Char × Bool × Cursor)
  | 0, cursor => .ok ([], false, cursor)
  | fuel + 1, cursor =>
    match cursor.rest with
    | [] => .ok ([], false, cursor)
    | c :: rest =>
      if isSpaceOrBreak c then .ok ([], false, cursor)
      else if single && c == '\'' then
        if rest.head? == some '\'' then do
          let (text, escaped, cursor) ← quotedPart single start fuel (cursor.skip 2)
          return ('\'' :: text, escaped, cursor)
        else .ok ([], false, cursor)
      else if !single && c == '"' then .ok ([], false, cursor)
      else if !single && c == '\\' then
        if rest.head?.elim false isBreak then .ok ([], true, cursor.skip.skipBreak)
        else do
          let (c, cursor) ← readEscape start cursor
          let (text, escaped, cursor) ← quotedPart single start fuel cursor
          return (c :: text, escaped, cursor)
      else do
        let (text, escaped, cursor) ← quotedPart single start fuel cursor.skip
        return (c :: text, escaped, cursor)

def quotedParts (single : Bool) (start : Mark) :
    Nat → List Char → Cursor → Except SyntaxError (List Char × Cursor)
  | 0, _, cursor => .error (.within .quotedScalar start .unexpectedEnd cursor.mark)
  | fuel + 1, text, cursor => do
    if cursor.atDocumentMark '-' || cursor.atDocumentMark '.' then
      .error (.within .quotedScalar start .documentMarkInScalar cursor.mark)
    else if cursor.atEnd then .error (.within .quotedScalar start .unexpectedEnd cursor.mark)
    else
      let (part, escaped, cursor) ← quotedPart single start cursor.rest.length cursor
      let text := text ++ part
      if cursor.isAt (if single then '\'' else '"') then return (text, cursor.skip)
      else
        let gap := if escaped then Gap.breaks [] [] else .blanks []
        let (gap, cursor) ← readGap none cursor.rest.length gap cursor
        quotedParts single start fuel (text ++ gap.folded) cursor

def readQuoted (single : Bool) (cursor : Cursor) : Except SyntaxError (List Char × Cursor) :=
  quotedParts single cursor.mark (cursor.rest.length + 1) [] cursor.skip

inductive Chomping where
  | strip
  | clip
  | keep
deriving DecidableEq

def readChomping? (cursor : Cursor) : Option (Chomping × Cursor) :=
  if cursor.isAt '+' then some (.keep, cursor.skip)
  else if cursor.isAt '-' then some (.strip, cursor.skip)
  else none

def readIndentation (start : Mark) (cursor : Cursor) :
    Except SyntaxError (Option Nat × Cursor) :=
  match cursor.peek? with
  | some c =>
    if c == '0' then .error (.within .blockScalar start .zeroIndentation cursor.mark)
    else if c.isDigit then .ok (some (c.toNat - '0'.toNat), cursor.skip)
    else .ok (none, cursor)
  | none => .ok (none, cursor)

def readBlockHeader (start : Mark) (cursor : Cursor) :
    Except SyntaxError (Chomping × Option Nat × Cursor) := do
  match readChomping? cursor with
  | some (chomping, cursor) =>
    let (indentation, cursor) ← readIndentation start cursor
    return (chomping, indentation, cursor)
  | none =>
    let (indentation, cursor) ← readIndentation start cursor
    match indentation, readChomping? cursor with
    | some _, some (chomping, cursor) => return (chomping, indentation, cursor)
    | _, _ => return (.clip, indentation, cursor)

/-- Reads indentation and empty lines up to the next line with text. As long as the indentation is
not known, all spaces count as indentation and the widest line is remembered. -/
def readEmptyLines (start : Mark) (indent : Option Nat) :
    Nat → Nat → Cursor → Except SyntaxError (List Char × Nat × Cursor)
  | 0, widest, cursor => .ok ([], widest, cursor)
  | fuel + 1, widest, cursor => do
    let spaces := cursor.run (· == ' ')
    let taken :=
      match indent with
      | none => spaces.length
      | some indent => min spaces.length (indent - cursor.mark.column)
    let cursor := cursor.skip taken
    let widest := max widest cursor.mark.column
    let inIndentation := indent.elim true fun indent => cursor.mark.column < indent
    if inIndentation && cursor.isAt '\t' then
      .error (.within .blockScalar start .tabInIndentation cursor.mark)
    else if cursor.holdsAt 0 isBreak then
      let text := cursor.breakText
      let (more, widest, cursor) ← readEmptyLines start indent fuel widest cursor.skipBreak
      return (text ++ more, widest, cursor)
    else return ([], widest, cursor)

/-- A block scalar in the making: the finished text, the line break after its last line, the empty
lines after that, and whether the last line begins with a blank. -/
structure BlockLines where
  text : List Char := []
  lastBreak : List Char := []
  emptyLines : List Char
  blankStart : Bool := false

/-- Adds a line. In a folded scalar a single line feed between two lines that begin with no blank
becomes a space. -/
def BlockLines.add (lines : BlockLines) (folded : Bool) (line lineBreak emptyLines : List Char) :
    BlockLines :=
  let blankStart := line.head?.elim false isSpaceOrTab
  let joint :=
    if folded && lines.lastBreak.head? == some '\n' && !lines.blankStart && !blankStart then
      if lines.emptyLines.isEmpty then [' '] else lines.emptyLines
    else lines.lastBreak ++ lines.emptyLines
  { text := lines.text ++ joint ++ line, lastBreak := lineBreak, emptyLines, blankStart }

def blockLines (folded : Bool) (indent : Nat) (start : Mark) :
    Nat → BlockLines → Cursor → Except SyntaxError (BlockLines × Cursor)
  | 0, lines, cursor => .ok (lines, cursor)
  | fuel + 1, lines, cursor =>
    if cursor.mark.column == indent && !cursor.atEnd then do
      let line := cursor.run (!isBreak ·)
      let cursor := cursor.skip line.length
      let lineBreak := cursor.breakText
      let cursor := cursor.skipBreakIfAny
      let (emptyLines, _, cursor) ←
        readEmptyLines start (some indent) (cursor.rest.length + 1) 0 cursor
      blockLines folded indent start fuel (lines.add folded line lineBreak emptyLines) cursor
    else .ok (lines, cursor)

def readBlock (folded : Bool) (parent : Int) (cursor : Cursor) :
    Except SyntaxError (List Char × Cursor) := do
  let start := cursor.mark
  let (chomping, indentation, cursor) ← readBlockHeader start cursor.skip
  let cursor := (cursor.skipRun isSpaceOrTab).skipComment
  if !cursor.atLineEnd then .error (.within .blockScalar start .missingLineEnd cursor.mark)
  else
    let cursor := cursor.skipBreakIfAny
    let declared := indentation.map fun indentation => parent.toNat + indentation
    let (emptyLines, widest, cursor) ←
      readEmptyLines start declared (cursor.rest.length + 1) 0 cursor
    let indent := declared.getD (max (max widest (parent + 1).toNat) 1)
    let (lines, cursor) ←
      blockLines folded indent start (cursor.rest.length + 1) { emptyLines } cursor
    let ending :=
      match chomping with
      | .strip => []
      | .clip => lines.lastBreak
      | .keep => lines.lastBreak ++ lines.emptyLines
    return (lines.text ++ ending, cursor)

end PipelineAdvisor.Yaml.Scalar
