import PipelineAdvisor.Text.Search

/-!
What can be wrong with a settings document. A problem knows its wording; together with the stretch
of text where it stands it is shown with an excerpt of its line.
-/

namespace PipelineAdvisor.Toml

structure Extent where
  start : Nat
  stop : Nat
deriving DecidableEq, Inhabited

namespace Extent

def point (offset : Nat) : Extent := ⟨offset, offset⟩

def before (extent : Extent) : Extent := point extent.start

def after (extent : Extent) : Extent := point extent.stop

def through (first last : Extent) : Extent := ⟨first.start, last.stop⟩

def shift (offset : Nat) (extent : Extent) : Extent :=
  ⟨offset + extent.start, offset + extent.stop⟩

end Extent

inductive Quoting where
  | literal
  | basic
  | longLiteral
  | longBasic
deriving DecidableEq

namespace Quoting

def name : Quoting → String
  | .literal => "literal string"
  | .basic => "basic string"
  | .longLiteral => "multi-line literal string"
  | .longBasic => "multi-line basic string"

def mark : Quoting → Char
  | .literal | .longLiteral => '\''
  | .basic | .longBasic => '"'

def width : Quoting → Nat
  | .literal | .basic => 1
  | .longLiteral | .longBasic => 3

def delimiter (quoting : Quoting) : List Char :=
  List.replicate quoting.width quoting.mark

def content : Quoting → String
  | .literal => "non-single-quote visible characters"
  | .basic => "non-double-quote visible characters, `\\`"
  | .longLiteral => "non-single-quote characters"
  | .longBasic => "non-double-quote characters, newline, `\\`"

end Quoting

inductive Radix where
  | decimal
  | hexadecimal
  | octal
  | binary
deriving DecidableEq

namespace Radix

def base : Radix → Nat
  | .decimal => 10
  | .hexadecimal => 16
  | .octal => 8
  | .binary => 2

def name : Radix → String
  | .decimal => "integer"
  | .hexadecimal => "hexadecimal"
  | .octal => "octal"
  | .binary => "binary"

end Radix

inductive Problem where
  -- structure
  | unclosedArray
  | extraArrayComma
  | missingArrayComma
  | assignmentInArray
  | missingArrayOpening
  | unclosedInlineTable
  | extraTableComma
  | missingTableComma
  | missingTableKey
  | missingAssignment
  | extraAssignment
  | missingTableOpening
  | tooDeep
  | repeatedEquals
  | keyWithoutValue
  | missingValueForKey
  | contentAfterValue
  | unclosedHeader
  | unclosedArrayHeader (bracket : String)
  | missingHeaderOpening
  | missingKey
  -- line ends and comments
  | bareCarriageReturn
  | commentCharacter
  -- keys
  | emptyKey
  | keyCharacter
  | longKey (quoting : Quoting)
  | duplicateKey
  | notExtensible (type : String)
  -- strings
  | unclosedString (quoting : Quoting)
  | stringCharacter (quoting : Quoting)
  | missingEscape
  | shortCodePoint
  | badCodePoint
  | missingLineBreak
  -- scalars
  | unquotedText
  | missingOpeningQuote (quotes : String)
  | badBoolean (word : String)
  | badSpecialFloat (word : String)
  | redundantSign
  | signedRadix
  | upperCaseRadix (written : String)
  | redundantRadix
  | unexpectedSign
  | leadingZero
  | badDigit (radix : Radix)
  | misplacedUnderscore
  | missingDigits (part : String)
  | badFloat
  | badMoment (what expected : Option String)
deriving DecidableEq

namespace Problem

def keyCharacters : String := "letters, numbers, `-`, `_`"

def text : Problem → String
  | .unclosedArray => "unclosed array, expected `]`"
  | .extraArrayComma => "extra comma in array, expected value"
  | .missingArrayComma => "missing comma between array elements, expected `,`"
  | .assignmentInArray => "unexpected `=` in array, expected value, `]`"
  | .missingArrayOpening => "missing array opening, expected `[`"
  | .unclosedInlineTable => "unclosed inline table, expected `\x7d`"
  | .extraTableComma => "extra comma in inline table, expected key"
  | .missingTableComma => "missing comma between key-value pairs, expected `,`"
  | .missingTableKey => "missing key for inline table element, expected key"
  | .missingAssignment => "missing assignment between key-value pairs, expected `=`"
  | .extraAssignment => "extra assignment between key-value pairs, expected `,`"
  | .missingTableOpening => "missing inline table opening, expected `\x7b`"
  | .tooDeep => "cannot recurse further; max recursion depth met"
  | .repeatedEquals => "extra `=`, expected nothing"
  | .keyWithoutValue => "key with no value, expected `=`"
  | .missingValueForKey => "missing value for key, expected `=`"
  | .contentAfterValue => "unexpected key or value, expected newline, `#`"
  | .unclosedHeader => "unclosed table, expected `]`"
  | .unclosedArrayHeader bracket => "unclosed array table, expected `" ++ bracket ++ "`"
  | .missingHeaderOpening => "missing table open, expected `[`"
  | .missingKey => "invalid key, expected key"
  | .bareCarriageReturn => "carriage return must be followed by newline, expected newline"
  | .commentCharacter => "invalid comment character, expected printable characters"
  | .emptyKey => "unquoted keys cannot be empty, expected " ++ keyCharacters
  | .keyCharacter => "invalid unquoted key, expected " ++ keyCharacters
  | .longKey quoting =>
    "keys cannot be " ++ quoting.name ++ "s, expected basic string, literal string"
  | .duplicateKey => "duplicate key"
  | .notExtensible type => "cannot extend value of type " ++ type ++ " with a dotted key"
  | .unclosedString quoting =>
    "invalid " ++ quoting.name ++ ", expected `" ++ quoting.mark.toString ++ "`"
  | .stringCharacter quoting => "invalid " ++ quoting.name ++ ", expected " ++ quoting.content
  | .missingEscape =>
    "missing escaped value, expected `b`, `e`, `f`, `n`, `r`, `\\`, `\"`, `x`, `u`, `U`"
  | .shortCodePoint => "too few unicode value digits, expected unicode hexadecimal value"
  | .badCodePoint => "invalid value, expected unicode hexadecimal value"
  | .missingLineBreak => "invalid multi-line basic string, expected newline"
  | .unquotedText => "string values must be quoted, expected literal string"
  | .missingOpeningQuote quotes => "missing opening quote, expected `" ++ quotes ++ "`"
  | .badBoolean word => "invalid boolean, expected `" ++ word ++ "`"
  | .badSpecialFloat word => "invalid float, expected `" ++ word ++ "`"
  | .redundantSign => "redundant numeric sign, expected nothing"
  | .signedRadix => "integers with a radix cannot be signed, expected nothing"
  | .upperCaseRadix written => "radix must be lowercase, expected `" ++ written ++ "`"
  | .redundantRadix => "redundant integer number prefix, expected nothing"
  | .unexpectedSign => "unexpected sign, expected nothing"
  | .leadingZero => "unexpected leading zero, expected nothing"
  | .badDigit radix => "invalid " ++ radix.name ++ " number"
  | .misplacedUnderscore => "`_` may only go between digits, expected nothing"
  | .missingDigits part => "invalid " ++ part ++ ", expected digits"
  | .badFloat => "invalid float, expected nothing"
  | .badMoment what expected =>
    "invalid " ++ what.getD "datetime" ++
      (expected.elim "" fun expected => ", expected " ++ expected)

end Problem

structure Complaint where
  message : String
  extent : Extent
deriving DecidableEq

def Problem.at (problem : Problem) (extent : Extent) : Complaint where
  message := problem.text
  extent

def byteLength (text : List Char) : Nat :=
  text.foldl (fun length c => length + c.utf8Size) 0

structure Place where
  line : Nat
  column : Nat
  text : List Char

def findLine : Nat → Nat → List (List Char) → Nat × Nat × List Char
  | number, offset, [] => (number, offset, [])
  | number, offset, [line] => (number, offset, line)
  | number, offset, line :: next :: rest =>
    if offset ≤ byteLength line then (number, offset, line)
    else findLine (number + 1) (offset - byteLength line - 1) (next :: rest)

/-- The column of the character that ends right behind a byte offset; an offset inside a character
counts in bytes. -/
def columnOf (offset : Nat) (line : List Char) : Nat :=
  let ends := (List.range (line.length + 1)).map fun count => byteLength (line.take count)
  (ends.idxOf? (offset + 1)).elim offset (· - 1)

def splitLines : List Char → List (List Char)
  | [] => [[]]
  | c :: rest =>
    if c = '\n' then [] :: splitLines rest
    else
      match splitLines rest with
      | [] => [[c]]
      | line :: lines => (c :: line) :: lines

/-- The place of a byte offset. An offset at the end of the text is one column behind its last
character, be that a line feed. -/
def placeOf (text : List Char) (offset : Nat) : Place :=
  if text.isEmpty then ⟨0, offset, []⟩
  else
    let inside := min offset (byteLength text - 1)
    let (line, start, content) := findLine 0 inside (splitLines text)
    ⟨line, columnOf start (content ++ ['\n']) + (offset - inside), content⟩

def Complaint.render (complaint : Complaint) (text : List Char) : String :=
  let place := placeOf text complaint.extent.start
  let number := s!"{place.line + 1}"
  let gutter := String.ofList (List.replicate (number.length + 1) ' ')
  let indent := String.ofList (List.replicate (place.column + 1) ' ')
  let length := min (complaint.extent.stop - complaint.extent.start)
    (byteLength place.text - place.column)
  let marks := String.ofList (List.replicate (max 1 length) '^')
  let content := String.ofList place.text
  s!"TOML parse error at line {number}, column {place.column + 1}\n" ++
    s!"{gutter}|\n{number} | {content}\n{gutter}|{indent}{marks}\n{complaint.message}\n"

end PipelineAdvisor.Toml
