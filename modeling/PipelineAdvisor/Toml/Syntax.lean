import PipelineAdvisor.Toml.Token

/-!
The shape of a settings document: headers and assignments, with keys and scalars still as they are
written. A missing key or scalar is an empty one here and is found out when it is read.
-/

namespace PipelineAdvisor.Toml

/-- A part of the text that writes a key or a scalar; without quoting it is bare. -/
structure Written where
  quoting : Option Quoting := none
  start : Nat
  text : List Char := []
deriving Inhabited

def Written.extent (written : Written) : Extent :=
  ⟨written.start, written.start + byteLength written.text⟩

inductive WrittenValue where
  | scalar (written : Written)
  | array (extent : Extent) (items : List WrittenValue)
  | table (extent : Extent) (entries : List (List Written × WrittenValue))
deriving Inhabited

inductive Statement where
  /-- A header: of a table, or of the next table of an array. -/
  | header (ofArray : Bool) (extent : Extent) (path : List Written)
  | assignment (path : List Written) (value : WrittenValue)

namespace Syntax

def complain {α : Type} (problem : Problem) (extent : Extent) : Except Complaint α :=
  .error (problem.at extent)

def peek : List Token → Token
  | [] => ⟨.finish, 0, []⟩
  | token :: _ => token

def skipBlanks : List Token → List Token
  | [] => []
  | token :: rest => if token.kind = .blank then skipBlanks rest else token :: rest

def checkComment (token : Token) : Except Complaint Unit :=
  let allowed (c : Char) : Bool := c == '\t' || (0x20 ≤ c.toNat && c != '\x7f')
  if token.text.all allowed then .ok ()
  else
    complain .commentCharacter (.point (token.start + byteLength (token.text.takeWhile allowed)))

def checkLineEnd (token : Token) : Except Complaint Unit :=
  if token.text = ['\r'] then complain .bareCarriageReturn token.extent.after else .ok ()

def checkTrivia (token : Token) : Except Complaint Unit :=
  match token.kind with
  | .comment => checkComment token
  | .lineEnd => checkLineEnd token
  | _ => .ok ()

def skipLine : List Token → Except Complaint (List Token)
  | [] => .ok []
  | token :: rest =>
    match token.kind with
    | .lineEnd => do
      checkLineEnd token
      return rest
    | .comment => do
      checkComment token
      skipLine rest
    | .finish => .ok []
    | _ => skipLine rest

def finishLine : List Token → Except Complaint (List Token)
  | [] => .ok []
  | token :: rest =>
    match token.kind with
    | .blank => finishLine rest
    | .lineEnd => do
      checkLineEnd token
      return rest
    | .comment => do
      checkComment token
      finishLine rest
    | .finish => .ok []
    | _ => complain .contentAfterValue token.extent.before

def writtenBy (token : Token) : Option Written :=
  match token.kind with
  | .atom => some { start := token.start, text := token.text }
  | .quoted quoting => some { quoting := some quoting, start := token.start, text := token.text }
  | _ => none

def missingAt (offset : Nat) : Written where
  start := offset

/-- Reads a path of keys with dots between them, starting where a key or where a dot is due. Tells
whether the last key is there; a missing one is empty. -/
def readPath : Bool → List Token → List Written × Bool × List Token
  | keyIsDue, [] => (if keyIsDue then [missingAt 0] else [], !keyIsDue, [])
  | keyIsDue, token :: rest =>
    match token.kind with
    | .blank => readPath keyIsDue rest
    | .dot =>
      let (keys, complete, rest) := readPath true rest
      (if keyIsDue then missingAt token.start :: keys else keys, complete, rest)
    | _ =>
      if !keyIsDue then ([], true, token :: rest)
      else
        match writtenBy token with
        | none => ([missingAt token.start], false, token :: rest)
        | some key =>
          let (keys, complete, rest) := readPath false rest
          (key :: keys, complete, rest)

def readBare : List Token → List Char × List Token
  | [] => ([], [])
  | token :: rest =>
    match token.kind with
    | .dot | .atom =>
      let (text, rest) := readBare rest
      (token.text ++ text, rest)
    | .blank =>
      let (text, after) := readBare rest
      if text.isEmpty then ([], token :: rest) else (token.text ++ text, after)
    | _ => ([], token :: rest)

def deepest : Nat := 80

inductive TableState where
  | key
  | equals (path : List Written)
  | value (path : List Written)
  | comma

mutual

def readValue : Nat → Nat → List Token → Except Complaint (WrittenValue × Bool × List Token)
  | 0, _, tokens => .ok (.scalar (missingAt (peek tokens).start), false, tokens)
  | fuel + 1, depth, tokens =>
    let token := peek tokens
    match token.kind with
    | .equals => complain .repeatedEquals token.extent
    | .rightBrace => complain .missingTableOpening token.extent.before
    | .rightBracket => complain .missingArrayOpening token.extent.before
    | .leftBracket => do
      if deepest ≤ depth then complain .tooDeep token.extent
      else
        let (items, close, rest) ← readItems fuel (depth + 1) true (tokens.drop 1)
        return (.array (token.extent.through close) items, true, rest)
    | .leftBrace => do
      if deepest ≤ depth then complain .tooDeep token.extent
      else
        let (entries, close, rest) ← readEntries fuel (depth + 1) .key (tokens.drop 1)
        return (.table (token.extent.through close) entries, true, rest)
    | .quoted quoting =>
      let written := { quoting := some quoting, start := token.start, text := token.text }
      .ok (.scalar written, true, tokens.drop 1)
    | .dot | .atom | .blank =>
      let (text, rest) := readBare tokens
      .ok (.scalar { start := token.start, text }, true, rest)
    | .comment | .comma | .lineEnd | .finish =>
      .ok (.scalar (missingAt token.start), false, tokens)

def readItems : Nat → Nat → Bool → List Token →
    Except Complaint (List WrittenValue × Extent × List Token)
  | 0, _, _, tokens => complain .unclosedArray (peek tokens).extent
  | fuel + 1, depth, valueIsDue, tokens =>
    let token := peek tokens
    let rest := tokens.drop 1
    match token.kind with
    | .blank => readItems fuel depth valueIsDue rest
    | .comment | .lineEnd => do
      checkTrivia token
      readItems fuel depth valueIsDue rest
    | .finish => complain .unclosedArray token.extent
    | .rightBracket => .ok ([], token.extent, rest)
    | .comma =>
      if valueIsDue then complain .extraArrayComma token.extent
      else readItems fuel depth true rest
    | .equals => complain .assignmentInArray token.extent
    | .rightBrace => complain .missingTableOpening token.extent.before
    | _ =>
      if !valueIsDue then complain .missingArrayComma token.extent.before
      else do
        let (item, _, rest) ← readValue fuel depth tokens
        let (items, close, rest) ← readItems fuel depth false rest
        return (item :: items, close, rest)

def readEntries : Nat → Nat → TableState → List Token →
    Except Complaint (List (List Written × WrittenValue) × Extent × List Token)
  | 0, _, _, tokens => complain .unclosedInlineTable (peek tokens).extent
  | fuel + 1, depth, state, tokens =>
    let token := peek tokens
    let rest := tokens.drop 1
    let missing : WrittenValue := .scalar (missingAt token.start)
    match token.kind with
    | .blank => readEntries fuel depth state rest
    | .comment | .lineEnd => do
      checkTrivia token
      readEntries fuel depth state rest
    | .finish => complain .unclosedInlineTable token.extent
    | .rightBrace =>
      match state with
      | .key | .comma => .ok ([], token.extent, rest)
      | .equals _ => complain .missingAssignment token.extent.before
      | .value path => .ok ([(path, missing)], token.extent, rest)
    | .comma =>
      match state with
      | .key => complain .extraTableComma token.extent.before
      | .comma => readEntries fuel depth .key rest
      | .equals _ => complain .missingAssignment token.extent.before
      | .value path => do
        let (entries, close, rest) ← readEntries fuel depth .key rest
        return ((path, missing) :: entries, close, rest)
    | .equals =>
      match state with
      | .key => readEntries fuel depth (.value [missingAt token.start]) rest
      | .equals path => readEntries fuel depth (.value path) rest
      | .value _ | .comma => complain .extraAssignment token.extent.before
    | _ =>
      match state with
      | .comma => complain .missingTableComma token.extent.before
      | .equals _ => complain .missingAssignment token.extent.before
      | .value path => do
        let (value, _, rest) ← readValue fuel depth tokens
        let (entries, close, rest) ← readEntries fuel depth .comma rest
        return ((path, value) :: entries, close, rest)
      | .key =>
        match token.kind with
        | .leftBracket | .rightBracket | .leftBrace =>
          complain .missingTableKey token.extent.before
        | _ =>
          let (path, _, rest) := readPath true tokens
          readEntries fuel depth (.equals path) rest

end

def readAssigned (path : List Written) (tokens : List Token) :
    Except Complaint (Statement × List Token) := do
  let (value, complete, rest) ← readValue (2 * tokens.length + 2) 0 (skipBlanks tokens)
  let rest ← if complete then finishLine rest else skipLine rest
  return (.assignment path value, rest)

def readAssignment (tokens : List Token) : Except Complaint (Statement × List Token) :=
  let (path, _, rest) := readPath true tokens
  let next := peek rest
  if next.kind = .equals then readAssigned path (rest.drop 1)
  else
    let problem := if (peek tokens).kind = .dot then .missingValueForKey else .keyWithoutValue
    complain problem next.extent.before

def readHeader (opening : Token) (tokens : List Token) :
    Except Complaint (Statement × List Token) := do
  let second := peek tokens
  let ofArray := decide (second.kind = .leftBracket)
  let (path, complete, rest) := readPath true (if ofArray then tokens.drop 1 else tokens)
  let rest := skipBlanks rest
  let close := peek rest
  let lastKey := (path.getLast?.map Written.extent).getD opening.extent
  if close.kind ≠ .rightBracket then
    if complete then
      let problem := if ofArray then .unclosedArrayHeader "]]" else Problem.unclosedHeader
      complain problem lastKey.after
    else
      return (.header ofArray (opening.extent.through lastKey) path, ← skipLine rest)
  else if ofArray then
    let secondClose := peek (rest.drop 1)
    if secondClose.kind ≠ .rightBracket then
      complain (.unclosedArrayHeader "]") close.extent.after
    else
      let extent := opening.extent.through secondClose.extent
      return (.header true extent path, ← finishLine (rest.drop 2))
  else
    return (.header false (opening.extent.through close.extent) path, ← finishLine (rest.drop 1))

def readStatements : Nat → List Token → Except Complaint (List Statement)
  | 0, _ => .ok []
  | fuel + 1, tokens =>
    match tokens with
    | [] => .ok []
    | token :: rest =>
      let more (reading : Except Complaint (Statement × List Token)) :
          Except Complaint (List Statement) := do
        let (statement, rest) ← reading
        let statements ← readStatements fuel rest
        return statement :: statements
      match token.kind with
      | .blank => readStatements fuel rest
      | .comment | .lineEnd => do
        checkTrivia token
        readStatements fuel rest
      | .finish => .ok []
      | .leftBracket => more (readHeader token rest)
      | .rightBracket => complain .missingHeaderOpening token.extent.before
      | .equals => more (readAssigned [missingAt token.start] rest)
      | .comma | .leftBrace | .rightBrace => complain .missingKey token.extent.before
      | .dot | .atom | .quoted _ => more (readAssignment tokens)

def read (text : List Char) : Except Complaint (List Statement) :=
  let tokens := Token.ofText text
  readStatements (tokens.length + 1) tokens

end Syntax

end PipelineAdvisor.Toml
