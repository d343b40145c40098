import PipelineAdvisor.Yaml.Merge
import PipelineAdvisor.Yaml.Block
import PipelineAdvisor.Text.Character

/-!
Why a text is no document. A syntax error has a place and may name the construct it happened in; the
other causes belong to building nodes. `DocumentError.message` is the wording,
`DocumentError.place?` the line and column, from one.
-/

namespace PipelineAdvisor.Yaml

structure Mark where
  index : Nat := 0
  line : Nat := 0
  column : Nat := 0
deriving DecidableEq, Inhabited

def Mark.isOrigin (mark : Mark) : Bool :=
  mark.line == 0 && mark.column == 0

def Mark.text (mark : Mark) : String :=
  s!"line {mark.line + 1} column {mark.column + 1}"

inductive Construct where
  | nextToken
  | simpleKey
  | directive
  | versionDirective
  | tagDirectiveHandle
  | tagDirectiveName
  | tagDirective
  | tagDirectivePrefix
  | anchor
  | aliasName
  | tag
  | tagSuffix
  | blockScalar
  | quotedScalar
  | quotedEscape
  | plainScalar
  | node
  | blockNode
  | flowNode
  | blockCollection
  | blockMapping
  | flowSequence
  | flowMapping
deriving DecidableEq

def Construct.text : Construct → String
  | .nextToken => "while scanning for the next token"
  | .simpleKey => "while scanning a simple key"
  | .directive => "while scanning a directive"
  | .versionDirective => "while scanning a %YAML directive"
  | .tagDirectiveHandle => "while scanning a tag directive"
  | .tagDirectiveName => "while parsing a tag directive"
  | .tagDirective => "while scanning a %TAG directive"
  | .tagDirectivePrefix => "while parsing a %TAG directive"
  | .anchor => "while scanning an anchor"
  | .aliasName => "while scanning an alias"
  | .tag => "while scanning a tag"
  | .tagSuffix => "while parsing a tag"
  | .blockScalar => "while scanning a block scalar"
  | .quotedScalar => "while scanning a quoted scalar"
  | .quotedEscape => "while parsing a quoted scalar"
  | .plainScalar => "while scanning a plain scalar"
  | .node => "while parsing a node"
  | .blockNode => "while parsing a block node"
  | .flowNode => "while parsing a flow node"
  | .blockCollection => "while parsing a block collection"
  | .blockMapping => "while parsing a block mapping"
  | .flowSequence => "while parsing a flow sequence"
  | .flowMapping => "while parsing a flow mapping"

inductive Problem where
  | characterStartsNoToken
  | missingColon
  | entriesNotAllowed
  | keysNotAllowed
  | valuesNotAllowed
  | missingDirectiveName
  | badDirectiveName
  | unknownDirective
  | missingLineEnd
  | missingVersion
  | longVersion
  | missingVersionDot
  | missingBlank
  | missingBlankOrBreak
  | missingExclamation
  | missingTagUri
  | missingTagEnd
  | missingUriOctet
  | badLeadingOctet
  | badTrailingOctet
  | missingName
  | zeroIndentation
  | tabInIndentation
  | documentMarkInScalar
  | unexpectedEnd
  | unknownEscape
  | missingHexDigit
  | badEscapeCode
  | unexpectedColon
  | tabBeforeScalar
  | missingDocumentStart
  | duplicateVersion
  | incompatibleVersion
  | duplicateTagDirective
  | undefinedTagHandle
  | missingContent
  | missingHyphen
  | missingKey
  | missingCommaOrBracket
  | missingCommaOrBrace
deriving DecidableEq

def Problem.text : Problem → String
  | .characterStartsNoToken => "found character that cannot start any token"
  | .missingColon => "could not find expected ':'"
  | .entriesNotAllowed => "block sequence entries are not allowed in this context"
  | .keysNotAllowed => "mapping keys are not allowed in this context"
  | .valuesNotAllowed => "mapping values are not allowed in this context"
  | .missingDirectiveName => "could not find expected directive name"
  | .badDirectiveName => "found unexpected non-alphabetical character"
  | .unknownDirective => "found unknown directive name"
  | .missingLineEnd => "did not find expected comment or line break"
  | .missingVersion => "did not find expected version number"
  | .longVersion => "found extremely long version number"
  | .missingVersionDot => "did not find expected digit or '.' character"
  | .missingBlank => "did not find expected whitespace"
  | .missingBlankOrBreak => "did not find expected whitespace or line break"
  | .missingExclamation => "did not find expected '!'"
  | .missingTagUri => "did not find expected tag URI"
  | .missingTagEnd => "did not find the expected '>'"
  | .missingUriOctet => "did not find URI escaped octet"
  | .badLeadingOctet => "found an incorrect leading UTF-8 octet"
  | .badTrailingOctet => "found an incorrect trailing UTF-8 octet"
  | .missingName => "did not find expected alphabetic or numeric character"
  | .zeroIndentation => "found an indentation indicator equal to 0"
  | .tabInIndentation => "found a tab character where an indentation space is expected"
  | .documentMarkInScalar => "found unexpected document indicator"
  | .unexpectedEnd => "found unexpected end of stream"
  | .unknownEscape => "found unknown escape character"
  | .missingHexDigit => "did not find expected hexadecimal number"
  | .badEscapeCode => "found invalid Unicode character escape code"
  | .unexpectedColon => "found unexpected ':'"
  | .tabBeforeScalar => "found a tab character that violates indentation"
  | .missingDocumentStart => "did not find expected <document start>"
  | .duplicateVersion => "found duplicate %YAML directive"
  | .incompatibleVersion => "found incompatible YAML document"
  | .duplicateTagDirective => "found duplicate %TAG directive"
  | .undefinedTagHandle => "found undefined tag handle"
  | .missingContent => "did not find expected node content"
  | .missingHyphen => "did not find expected '-' indicator"
  | .missingKey => "did not find expected key"
  | .missingCommaOrBracket => "did not find expected ',' or ']'"
  | .missingCommaOrBrace => "did not find expected ',' or '\x7d'"

structure SyntaxError where
  problem : Problem
  mark : Mark
  construct : Option (Construct × Mark) := none
deriving DecidableEq

namespace SyntaxError

def within (construct : Construct) (start : Mark) (problem : Problem) (mark : Mark) :
    SyntaxError where
  problem
  mark
  construct := some (construct, start)

/-- The error in words. Places at the very start are left out, and the beginning of the construct as
well if it is the place of the error. -/
def text (error : SyntaxError) : String :=
  let place := if error.mark.isOrigin then "" else s!" at {error.mark.text}"
  let construct :=
    match error.construct with
    | none => ""
    | some (construct, start) =>
      let same := start.line == error.mark.line && start.column == error.mark.column
      let place := if start.isOrigin || same then "" else s!" at {start.text}"
      s!", {construct.text}{place}"
  error.problem.text ++ place ++ construct

end SyntaxError

inductive CoreTag where
  | bool
  | integer
  | float
  | null
deriving DecidableEq

def CoreTag.expected : CoreTag → String
  | .bool => "a boolean"
  | .integer => "an integer"
  | .float => "a float"
  | .null => "null"

inductive ValueError where
  | duplicateKey (key : Node)
  | tooWide (number : Int)
  | badScalar (tag : CoreTag) (text : String)

namespace ValueError

def keyText : Node → String
  | .null => "with null key"
  | .bool value => if value then "with key `true`" else "with key `false`"
  | .number value => "with key " ++ String.ofList (Block.numberText value)
  | .string text => "with key " ++ String.ofList (Text.quoted text.toList)
  | _ => "in YAML map"

def text : ValueError → String
  | .duplicateKey key => "duplicate entry " ++ keyText key
  | .tooWide number =>
    let width := if number < 0 then "i128" else "u128"
    s!"invalid type: integer `{toString number}` as {width}, expected any YAML value"
  | .badScalar tag text =>
    "invalid value: string " ++ String.ofList (Text.quoted text.toList) ++ ", expected " ++
      tag.expected

end ValueError

inductive PathStep where
  | item (index : Nat)
  | key (name : String)
  /-- The value of a key that is no scalar. -/
  | unknown
deriving DecidableEq

/-- The way to a node, from the root. The root is a dot, which keys below it leave out. -/
def pathText (path : List PathStep) : String :=
  let step (way : Option String) : PathStep → Option String
    | .item index => some (way.getD "." ++ s!"[{index}]")
    | .key name => some (way.elim name fun way => s!"{way}.{name}")
    | .unknown => some (way.elim "?" fun way => s!"{way}.?")
  (path.foldl step none).getD "."

inductive DocumentError where
  /-- A character that may not stand in a document, after this many bytes. -/
  | controlCharacter (offset : Nat)
  | malformed (error : SyntaxError)
  | unknownAnchor (mark : Mark)
  | value (error : ValueError) (mark : Mark) (path : List PathStep)
  | tooDeep (mark : Mark)
  | tooManyAliases
  | severalDocuments
  | merge (error : MergeError)

namespace DocumentError

def mark? : DocumentError → Option Mark
  | .controlCharacter _ => some {}
  | .malformed error => some error.mark
  | .unknownAnchor mark => some mark
  | .value _ mark _ => some mark
  | .tooDeep mark => some mark
  | .tooManyAliases => none
  | .severalDocuments => none
  | .merge _ => none

def place? (error : DocumentError) : Option (Nat × Nat) :=
  error.mark?.map fun mark => (mark.line + 1, mark.column + 1)

def withPlace (text : String) (mark : Mark) : String :=
  if mark.isOrigin then text else s!"{text} at {mark.text}"

def message : DocumentError → String
  | .controlCharacter offset =>
    if offset == 0 then "control characters are not allowed"
    else s!"control characters are not allowed at position {offset}"
  | .malformed error => error.text
  | .unknownAnchor mark => withPlace "unknown anchor" mark
  | .value error mark path =>
    let way := pathText path
    let lead := if way == "." then "" else way ++ ": "
    withPlace (lead ++ error.text) mark
  | .tooDeep mark => withPlace "recursion limit exceeded" mark
  | .tooManyAliases => "repetition limit exceeded"
  | .severalDocuments =>
    "deserializing from YAML containing more than one document is not supported"
  | .merge error => error.message

end DocumentError

end PipelineAdvisor.Yaml
