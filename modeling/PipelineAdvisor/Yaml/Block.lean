import PipelineAdvisor.Yaml.Resolve
import PipelineAdvisor.Yaml.Character
import PipelineAdvisor.Json.Printer

/-!
The block text of a node: one entry or item a line, two spaces per level, sequences in mappings not
indented. `blockText?` writes a whole document; it fails for the nodes that `isWritable` rules out.
-/

namespace PipelineAdvisor.Yaml

inductive WrittenStyle where
  | plain
  | singleQuoted
  | doubleQuoted
  | literal
deriving DecidableEq

namespace Block

/-- Doubles in documents: as in data, but without a sign in front of exponents, and with words for
what is not finite. -/
def floatLayout : FloatLayout where
  longestWhole := 16
  mostLeadingZeros := 4
  exponentPlus := []
  positiveInfinity := ".inf".toList
  negativeInfinity := "-.inf".toList
  notANumber := ".nan".toList

def numberText : Number → List Char
  | .integer value => Json.integerText value
  | .float value => floatLayout.render value

/-- What has been written so far. `spaced` says that a blank stands before the place of writing,
`onlyMarks` that the line holds nothing but indentation and indicators. -/
structure Page where
  reversed : List Char := []
  column : Nat := 0
  spaced : Bool := true
  onlyMarks : Bool := true

namespace Page

def put (page : Page) (text : List Char) : Page :=
  { page with reversed := text.reverseAux page.reversed, column := page.column + text.length }

def breakLine (page : Page) : Page :=
  { page with reversed := '\n' :: page.reversed, column := 0 }

def separate (page : Page) : Page :=
  if page.spaced then page else page.put [' ']

/-- Moves to a column, on a new line unless the present one holds only indicators and reaches less
far. -/
def indentTo (page : Page) (indent : Nat) : Page :=
  let page :=
    if !page.onlyMarks || indent < page.column || (page.column == indent && !page.spaced) then
      page.breakLine
    else page
  let page := page.put (List.replicate (indent - page.column) ' ')
  { page with spaced := true, onlyMarks := true }

def mark (page : Page) (text : List Char) : Page :=
  { (page.separate).put text with spaced := false }

def markValue (page : Page) (needsSpace : Bool) (text : List Char) : Page :=
  let page := if needsSpace then page.separate else page
  { page.put text with spaced := false, onlyMarks := false }

end Page

structure Shape where
  multiline : Bool
  plain : Bool
  singleQuoted : Bool
  block : Bool

def isReservedFirst (c : Char) : Bool :=
  ['#', ',', '[', ']', '{', '}', '&', '*', '!', '|', '>', '\'', '"', '%', '@', '\x60'].contains c

def blankFollows (rest : List Char) : Bool :=
  rest.head?.elim true isSpaceOrBreak

def hasIndicator : Bool → List Char → Bool
  | _, [] => false
  | blankBefore, c :: rest =>
    (c == ':' && blankFollows rest) || (c == '#' && blankBefore) ||
      hasIndicator (isSpaceOrBreak c) rest

def looksStructural (text : List Char) : Bool :=
  "---".toList.isPrefixOf text || "...".toList.isPrefixOf text ||
    match text with
    | [] => false
    | c :: rest =>
      isReservedFirst c || ((c == '?' || c == ':' || c == '-') && blankFollows rest) ||
        hasIndicator (isSpaceOrBreak c) rest

def hasPair (first second : Char → Bool) : List Char → Bool
  | a :: b :: rest => (first a && second b) || hasPair first second (b :: rest)
  | _ => false

def shapeOf (text : List Char) : Shape :=
  if text.isEmpty then ⟨false, true, true, false⟩
  else
    let isSpace (c : Char) := c == ' '
    let edge (test : Char → Bool) := text.head?.elim false test || text.getLast?.elim false test
    let multiline := text.any isBreak
    let special := text.any (fun c => !isPrintable c) || hasPair isSpace isBreak text
    let spaceAfterBreak := hasPair isBreak isSpace text
    { multiline
      plain := !multiline && !special && !edge isSpace && !looksStructural text
      singleQuoted := !spaceAfterBreak && !special
      block := !special && text.getLast? != some ' ' }

/-- The style for a string: strings with line feeds prefer lines of their own, and strings that
would be read as something else are quoted. -/
def styleOf (text : String) (asKey : Bool) : WrittenStyle :=
  let shape := shapeOf text.toList
  let quotedStyle := if shape.singleQuoted then WrittenStyle.singleQuoted else .doubleQuoted
  if asKey && shape.multiline then .doubleQuoted
  else if text.toList.contains '\n' then
    if shape.block && !asKey then .literal else .doubleQuoted
  else if !Scalar.readsAsString text || !shape.plain then quotedStyle
  else .plain

def paddedHex (width value : Nat) : List Char :=
  let digits := (Nat.toDigits 16 value).map Char.toUpper
  List.replicate (width - digits.length) '0' ++ digits

def escaped (c : Char) : List Char :=
  match c.toNat with
  | 0x00 => ['\\', '0']
  | 0x07 => ['\\', 'a']
  | 0x08 => ['\\', 'b']
  | 0x09 => ['\\', 't']
  | 0x0A => ['\\', 'n']
  | 0x0B => ['\\', 'v']
  | 0x0C => ['\\', 'f']
  | 0x0D => ['\\', 'r']
  | 0x1B => ['\\', 'e']
  | 0x22 => ['\\', '"']
  | 0x5C => ['\\', '\\']
  | 0x85 => ['\\', 'N']
  | 0xA0 => ['\\', '_']
  | 0x2028 => ['\\', 'L']
  | 0x2029 => ['\\', 'P']
  | code =>
    if code ≤ 0xFF then ['\\', 'x'] ++ paddedHex 2 code
    else if code ≤ 0xFFFF then ['\\', 'u'] ++ paddedHex 4 code
    else ['\\', 'U'] ++ paddedHex 8 code

def doubleQuotedChar (c : Char) : List Char :=
  if !isPrintable c || isBreak c || c == '"' || c == '\\' then escaped c else [c]

/-- Writes lines of a scalar at an indentation. A line break other than a line feed stays what it
is, and `doubled` writes the first line feed of a run twice. -/
def putLines (indent : Nat) (doubled quotes : Bool) : Bool → Page → List Char → Page
  | _, page, [] => page
  | afterBreak, page, c :: rest =>
    if isBreak c then
      let page := if doubled && !afterBreak && c == '\n' then page.breakLine else page
      let page :=
        if c == '\n' then page.breakLine
        else { page with reversed := c :: page.reversed, column := 0 }
      putLines indent doubled quotes true { page with onlyMarks := true } rest
    else
      let page := if afterBreak && !(quotes && c == ' ') then page.indentTo indent else page
      let page := if quotes && c == '\'' then page.put ['\'', '\''] else page.put [c]
      let stays := quotes && c == ' '
      putLines indent doubled quotes (afterBreak && stays)
        (if stays then page else { page with onlyMarks := false }) rest

/-- The signs after the bar of a literal scalar: the indentation, if the text begins with a blank,
and what to do with line breaks at the end. -/
def literalHints (text : List Char) : List Char :=
  let indentation := if text.head?.elim false (fun c => c == ' ' || isBreak c) then ['2'] else []
  let chomping :=
    match text.reverse with
    | [] => ['-']
    | last :: before =>
      if !isBreak last then ['-']
      else
        match before with
        | [] => ['+']
        | c :: _ => if isBreak c then ['+'] else []
  indentation ++ chomping

def putScalar (page : Page) (style : WrittenStyle) (indent : Nat) (text : List Char) : Page :=
  match style with
  | .plain =>
    let page := if text.isEmpty then page else page.separate
    { page.put text with spaced := false, onlyMarks := false }
  | .singleQuoted =>
    let page := putLines indent true true false (page.markValue true ['\'']) text
    let page := if text.getLast?.elim false isBreak then page.indentTo indent else page
    page.markValue false ['\'']
  | .doubleQuoted =>
    ((page.markValue true ['"']).put (text.flatMap doubleQuotedChar)).markValue false ['"']
  | .literal =>
    let page := (page.markValue true ('|' :: literalHints text)).breakLine
    putLines indent false false true { page with spaced := true, onlyMarks := true } text

def isTagChar (c : Char) : Bool :=
  isNameChar c ||
    [';', '/', '?', ':', '@', '&', '=', '+', '$', ',', '.', '~', '*', '\'', '(', ')', '[',
      ']'].contains c

def tagText (tag : String) : List Char :=
  tag.toList.flatMap fun c =>
    if isTagChar c then [c]
    else (String.singleton c).toUTF8.toList.flatMap fun byte => '%' :: paddedHex 2 byte.toNat

/-- Writes a tag. The tag that is a lone exclamation mark is written between angle brackets. -/
def putTag (page : Page) (tag : String) : Page :=
  if tag == "!" then
    ((page.markValue true ['!', '<']).put (tagText tag)).markValue false ['>']
  else page.markValue true ('!' :: tagText tag)

/-- The length in bytes of a node that fits on the line of its key, or nothing if it does not. -/
def keyLength? : Node → Option Nat
  | .null => some 4
  | .bool value => some (if value then 4 else 5)
  | .number value => some (numberText value).length
  | .string text => if text.toList.any isBreak then none else some text.utf8ByteSize
  | .sequence items => if items.isEmpty then some 0 else none
  | .mapping entries => if entries.isEmpty then some 0 else none
  | .tagged tag content =>
    (keyLength? content).map fun length => length + (if tag == "!" then 1 else 1 + tag.utf8ByteSize)

def longestKey : Nat := 128

def isSimpleKey (key : Node) : Bool :=
  (keyLength? key).elim false (· ≤ longestKey)

inductive Place where
  | root
  | item
  | entry
  | key
deriving DecidableEq

def deeper : Option Nat → Nat
  | none => 0
  | some indent => indent + 2

def scalarIndent : Option Nat → Nat
  | none => 2
  | some indent => indent + 2

mutual

def putNode (place : Place) (indent : Option Nat) (page : Page) : Node → Page
  | .null => putScalar page .plain (scalarIndent indent) "null".toList
  | .bool value =>
    putScalar page .plain (scalarIndent indent) (if value then "true".toList else "false".toList)
  | .number value => putScalar page .plain (scalarIndent indent) (numberText value)
  | .string text =>
    putScalar page (styleOf text (place == .key)) (scalarIndent indent) text.toList
  | .sequence items =>
    if items.isEmpty then (page.markValue true ['[']).markValue false [']']
    else
      let flush := place == .entry && !page.onlyMarks && indent.isSome
      putItems (if flush then indent.getD 0 else deeper indent) page items
  | .mapping entries =>
    if entries.isEmpty then (page.markValue true ['{']).markValue false ['}']
    else putEntries (deeper indent) page entries
  | .tagged tag content => putNode place indent (putTag page tag) content

def putItems (indent : Nat) (page : Page) : List Node → Page
  | [] => page
  | item :: rest =>
    putItems indent (putNode .item (some indent) ((page.indentTo indent).mark ['-']) item) rest

/-- Writes the entries of a mapping. A key that does not fit on one line with its value stands
behind a question mark. -/
def putEntries (indent : Nat) (page : Page) : List (Node × Node) → Page
  | [] => page
  | (key, value) :: rest =>
    let page := page.indentTo indent
    let page :=
      if isSimpleKey key then (putNode .key (some indent) page key).markValue false [':']
      else
        ((putNode .entry (some indent) (page.mark ['?']) key).indentTo indent).mark [':']
    putEntries indent (putNode .entry (some indent) page value) rest

end

/-- Whether a key of this shape cannot start a mapping that has no other entry. -/
def hidesStart : Node → Bool
  | .mapping [_] => true
  | .tagged _ _ => true
  | _ => false

mutual

/-- Whether a node has a written form. A mapping with one entry has none if its key is tagged or is
itself a mapping with one entry, unless the mapping has a tag of its own; a tag on a tag has none.
-/
def isWritable (hasTag : Bool) : Node → Bool
  | .sequence items => areWritable items
  | .mapping [(key, value)] =>
    (hasTag || !hidesStart key) && isWritable false key && isWritable false value
  | .mapping entries => entriesWritable entries
  | .tagged _ content => !hasTag && isWritable true content
  | _ => true

def areWritable : List Node → Bool
  | [] => true
  | item :: rest => isWritable false item && areWritable rest

def entriesWritable : List (Node × Node) → Bool
  | [] => true
  | (key, value) :: rest => isWritable false key && isWritable false value && entriesWritable rest

end

def text? (node : Node) : Option (List Char) :=
  if isWritable false node then some (putNode .root none {} node).reversed.reverse else none

end Block

end PipelineAdvisor.Yaml
