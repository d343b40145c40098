import PipelineAdvisor.Yaml.Token.Name
import PipelineAdvisor.Yaml.Token.Scalar

/-!
The token stream of a text. A scalar or a collection may turn out to be the key of a mapping only
when a colon follows it, so tokens wait in a queue as long as the first of them may be such a key;
the tokens that open the mapping are then put in front of it. `tokens` gives all tokens that can be
released and the error, if any, that ends the stream.
-/

namespace PipelineAdvisor.Yaml

structure KeyCandidate where
  required : Bool
  number : Nat
  mark : Mark

/-- The state of reading tokens. `candidate` belongs to the innermost brackets, `outerCandidates` to
the ones around them, so that their number is the depth of brackets. -/
structure TokenReader where
  cursor : Cursor
  queue : List Token := []
  /-- Number of tokens released. -/
  released : Nat := 0
  /-- Column of the innermost block collection, -1 outside all of them. -/
  indent : Int := -1
  outerIndents : List Int := []
  keyAllowed : Bool := true
  candidate : Option KeyCandidate := none
  outerCandidates : List (Option KeyCandidate) := []
  started : Bool := false

namespace TokenReader

def inFlow (reader : TokenReader) : Bool :=
  !reader.outerCandidates.isEmpty

def column (reader : TokenReader) : Int :=
  reader.cursor.mark.column

def push (reader : TokenReader) (lexeme : Lexeme) (start : Mark) : TokenReader :=
  { reader with queue := reader.queue ++ [⟨lexeme, start, reader.cursor.mark⟩] }

def insert (reader : TokenReader) (number : Nat) (lexeme : Lexeme) (mark : Mark) : TokenReader :=
  let place := number - reader.released
  { reader with
    queue := reader.queue.take place ++ ⟨lexeme, mark, mark⟩ :: reader.queue.drop place }

def pushIndicator (reader : TokenReader) (lexeme : Lexeme) (width : Nat := 1) : TokenReader :=
  let start := reader.cursor.mark
  { reader with cursor := reader.cursor.skip width }.push lexeme start

def dropCandidate (reader : TokenReader) : Except SyntaxError TokenReader :=
  match reader.candidate with
  | some candidate =>
    if candidate.required then
      .error (.within .simpleKey candidate.mark .missingColon reader.cursor.mark)
    else .ok { reader with candidate := none }
  | none => .ok reader

def saveCandidate (reader : TokenReader) : Except SyntaxError TokenReader :=
  if reader.keyAllowed then do
    let required := !reader.inFlow && reader.indent == reader.column
    let candidate : KeyCandidate :=
      ⟨required, reader.released + reader.queue.length, reader.cursor.mark⟩
    let reader ← reader.dropCandidate
    return { reader with candidate := some candidate }
  else .ok reader

def longestKey : Nat := 1024

/-- Whether a candidate can no longer be a key: keys stay on one line and are not too long. -/
def isStale (cursor : Cursor) (candidate : KeyCandidate) : Bool :=
  candidate.mark.line < cursor.mark.line || candidate.mark.index + longestKey < cursor.mark.index

def keepFresh (cursor : Cursor) (candidate : Option KeyCandidate) :
    Except SyntaxError (Option KeyCandidate) :=
  match candidate with
  | some candidate =>
    if isStale cursor candidate then
      if candidate.required then
        .error (.within .simpleKey candidate.mark .missingColon cursor.mark)
      else .ok none
    else .ok (some candidate)
  | none => .ok none

def dropStale (reader : TokenReader) : Except SyntaxError TokenReader := do
  let outer ← reader.outerCandidates.reverse.mapM (keepFresh reader.cursor)
  let candidate ← keepFresh reader.cursor reader.candidate
  return { reader with candidate, outerCandidates := outer.reverse }

/-- Opens a block collection at a column, unless one is open there. Its token is put in front of the
token with the given number, or at the end of the queue. -/
def openBlock (reader : TokenReader) (column : Int) (number : Option Nat) (lexeme : Lexeme)
    (mark : Mark) : TokenReader :=
  if reader.inFlow || column ≤ reader.indent then reader
  else
    let reader := { reader with
      indent := column
      outerIndents := reader.indent :: reader.outerIndents }
    match number with
    | some number => reader.insert number lexeme mark
    | none => reader.push lexeme mark

def closeBlocks (reader : TokenReader) (column : Int) : TokenReader :=
  if reader.inFlow then reader
  else close reader reader.outerIndents
where
  close (reader : TokenReader) : List Int → TokenReader
    | [] => reader
    | outer :: rest =>
      if column < reader.indent then
        let reader := reader.push .blockEnd reader.cursor.mark
        close { reader with indent := outer, outerIndents := rest } rest
      else reader

/-- Passes over blanks, comments and line breaks up to the next token. A new line in a block may
begin with a key. -/
def skipToToken : Nat → TokenReader → TokenReader
  | 0, reader => reader
  | fuel + 1, reader =>
    let cursor := reader.cursor
    let cursor :=
      if cursor.mark.index == 0 && cursor.isAt '\ufeff' then cursor.skip else cursor
    let tabs := reader.inFlow || !reader.keyAllowed
    let cursor := (cursor.skipRun fun c => c == ' ' || (tabs && c == '\t')).skipComment
    if cursor.holdsAt 0 isBreak then
      skipToToken fuel { reader with
        cursor := cursor.skipBreak
        keyAllowed := reader.keyAllowed || !reader.inFlow }
    else { reader with cursor }

def readStreamEnd (reader : TokenReader) : Except SyntaxError TokenReader := do
  let mark := reader.cursor.mark
  let mark := if mark.column == 0 then mark else { mark with line := mark.line + 1, column := 0 }
  let reader := { reader with cursor := { reader.cursor with mark } }
  let reader ← (reader.closeBlocks (-1)).dropCandidate
  return { reader with keyAllowed := false }.push .streamEnd mark

def readDirective (reader : TokenReader) : Except SyntaxError TokenReader := do
  let reader ← (reader.closeBlocks (-1)).dropCandidate
  let start := reader.cursor.mark
  let (lexeme, stop, cursor) ← Name.readDirective reader.cursor
  return { reader with
    keyAllowed := false
    cursor
    queue := reader.queue ++ [⟨lexeme, start, stop⟩] }

def readDocumentMark (lexeme : Lexeme) (reader : TokenReader) :
    Except SyntaxError TokenReader := do
  let reader ← (reader.closeBlocks (-1)).dropCandidate
  return { reader with keyAllowed := false }.pushIndicator lexeme 3

def openFlow (lexeme : Lexeme) (reader : TokenReader) : Except SyntaxError TokenReader := do
  let reader ← reader.saveCandidate
  return { reader with
    outerCandidates := reader.candidate :: reader.outerCandidates
    candidate := none
    keyAllowed := true }.pushIndicator lexeme

def closeFlow (lexeme : Lexeme) (reader : TokenReader) : Except SyntaxError TokenReader := do
  let reader ← reader.dropCandidate
  let reader :=
    match reader.outerCandidates with
    | [] => reader
    | candidate :: rest => { reader with candidate, outerCandidates := rest }
  return { reader with keyAllowed := false }.pushIndicator lexeme

def readFlowEntry (reader : TokenReader) : Except SyntaxError TokenReader := do
  let reader ← reader.dropCandidate
  return { reader with keyAllowed := true }.pushIndicator .flowEntry

def readBlockEntry (reader : TokenReader) : Except SyntaxError TokenReader := do
  let mark := reader.cursor.mark
  if !reader.inFlow && !reader.keyAllowed then .error { problem := .entriesNotAllowed, mark }
  else
    let reader ← (reader.openBlock reader.column none .blockSequenceStart mark).dropCandidate
    return { reader with keyAllowed := true }.pushIndicator .blockEntry

def readKey (reader : TokenReader) : Except SyntaxError TokenReader := do
  let mark := reader.cursor.mark
  if !reader.inFlow && !reader.keyAllowed then .error { problem := .keysNotAllowed, mark }
  else
    let reader ← (reader.openBlock reader.column none .blockMappingStart mark).dropCandidate
    return { reader with keyAllowed := !reader.inFlow }.pushIndicator .key

def readValue (reader : TokenReader) : Except SyntaxError TokenReader :=
  match reader.candidate with
  | some candidate =>
    let reader := reader.insert candidate.number .key candidate.mark
    let reader :=
      reader.openBlock candidate.mark.column (some candidate.number) .blockMappingStart
        candidate.mark
    .ok ({ reader with candidate := none, keyAllowed := false }.pushIndicator .value)
  | none =>
    let mark := reader.cursor.mark
    if !reader.inFlow && !reader.keyAllowed then .error { problem := .valuesNotAllowed, mark }
    else
      let reader := reader.openBlock reader.column none .blockMappingStart mark
      .ok ({ reader with keyAllowed := !reader.inFlow }.pushIndicator .value)

def readNamed (read : Cursor → Except SyntaxError (Lexeme × Cursor)) (reader : TokenReader) :
    Except SyntaxError TokenReader := do
  let reader ← reader.saveCandidate
  let start := reader.cursor.mark
  let (lexeme, cursor) ← read reader.cursor
  return { reader with keyAllowed := false, cursor }.push lexeme start

def readQuoted (single : Bool) (reader : TokenReader) : Except SyntaxError TokenReader :=
  reader.readNamed fun cursor => do
    let (text, cursor) ← Scalar.readQuoted single cursor
    return (.scalar text (if single then .singleQuoted else .doubleQuoted), cursor)

def readBlockScalar (folded : Bool) (reader : TokenReader) : Except SyntaxError TokenReader := do
  let reader ← reader.dropCandidate
  let start := reader.cursor.mark
  let (text, cursor) ← Scalar.readBlock folded reader.indent reader.cursor
  return { reader with keyAllowed := true, cursor }.push
    (.scalar text (if folded then .folded else .literal)) start

def readPlain (reader : TokenReader) : Except SyntaxError TokenReader := do
  let reader ← reader.saveCandidate
  let start := reader.cursor.mark
  let scalar ← Scalar.readPlain reader.inFlow (reader.indent + 1).toNat reader.cursor
  return { reader with
    keyAllowed := scalar.newLine
    cursor := scalar.cursor
    queue := reader.queue ++ [⟨.scalar scalar.text .plain, start, scalar.stop⟩] }

def isIndicator (c : Char) : Bool :=
  ['-', '?', ':', ',', '[', ']', '{', '}', '#', '&', '*', '!', '|', '>', '\'', '"', '%', '@',
    '\x60'].contains c

def startsPlain (reader : TokenReader) (c : Char) : Bool :=
  (!isSpaceOrBreak c && !isIndicator c) ||
    (c == '-' && !reader.cursor.holdsAt 1 isSpaceOrTab) ||
    (!reader.inFlow && (c == '?' || c == ':') && !reader.cursor.blankAt 1)

def readTokenAt (reader : TokenReader) (c : Char) : Except SyntaxError TokenReader :=
  let blankNext := reader.cursor.blankAt 1
  if c == '%' && reader.cursor.mark.column == 0 then reader.readDirective
  else if reader.cursor.atDocumentMark '-' then reader.readDocumentMark .documentStart
  else if reader.cursor.atDocumentMark '.' then reader.readDocumentMark .documentEnd
  else if c == '[' then reader.openFlow .flowSequenceStart
  else if c == '{' then reader.openFlow .flowMappingStart
  else if c == ']' then reader.closeFlow .flowSequenceEnd
  else if c == '}' then reader.closeFlow .flowMappingEnd
  else if c == ',' then reader.readFlowEntry
  else if c == '-' && blankNext then reader.readBlockEntry
  else if c == '?' && (reader.inFlow || blankNext) then reader.readKey
  else if c == ':' && (reader.inFlow || blankNext) then reader.readValue
  else if c == '*' then reader.readNamed (Name.readAnchor .aliasName .aliasName)
  else if c == '&' then reader.readNamed (Name.readAnchor .anchor .anchor)
  else if c == '!' then reader.readNamed (Name.readTag reader.inFlow)
  else if c == '|' && !reader.inFlow then reader.readBlockScalar false
  else if c == '>' && !reader.inFlow then reader.readBlockScalar true
  else if c == '\'' then reader.readQuoted true
  else if c == '"' then reader.readQuoted false
  else if reader.startsPlain c then reader.readPlain
  else
    let mark := reader.cursor.mark
    .error (.within .nextToken mark .characterStartsNoToken mark)

def readToken (reader : TokenReader) : Except SyntaxError TokenReader :=
  if !reader.started then
    .ok ({ reader with started := true }.push .streamStart reader.cursor.mark)
  else do
    let reader ← (reader.skipToToken (reader.cursor.rest.length + 1)).dropStale
    let reader := reader.closeBlocks reader.column
    match reader.cursor.peek? with
    | none => reader.readStreamEnd
    | some c => reader.readTokenAt c

/-- Whether the first token of the queue may turn out to be a key. -/
def mustWait (reader : TokenReader) : Bool :=
  (reader.candidate :: reader.outerCandidates).any fun candidate =>
    candidate.elim false (·.number == reader.released)

def fill : Nat → TokenReader → Except SyntaxError TokenReader
  | 0, reader => .ok reader
  | fuel + 1, reader =>
    if reader.queue.isEmpty then do
      let reader ← reader.readToken
      fill fuel reader
    else do
      let reader ← reader.dropStale
      if reader.mustWait then
        let reader ← reader.readToken
        fill fuel reader
      else return reader

def tokensFrom : Nat → TokenReader → List Token × Option SyntaxError
  | 0, _ => ([], none)
  | fuel + 1, reader =>
    match reader.fill (reader.cursor.rest.length + 4) with
    | .error error => ([], some error)
    | .ok reader =>
      match reader.queue with
      | [] => ([], none)
      | token :: queue =>
        if token.lexeme = .streamEnd then ([token], none)
        else
          let (tokens, error) :=
            tokensFrom fuel { reader with queue, released := reader.released + 1 }
          (token :: tokens, error)

end TokenReader

def tokens (text : List Char) : List Token × Option SyntaxError :=
  let reader : TokenReader := { cursor := { rest := text } }
  reader.tokensFrom (4 * text.length + 8)

end PipelineAdvisor.Yaml
