import PipelineAdvisor.Yaml.Token.Cursor
import PipelineAdvisor.Yaml.Token.Basic

/-!
Reading anchors, tags and directives. Each function starts at the first character of its token and
returns the lexeme with the place after it.
-/

namespace PipelineAdvisor.Yaml.Name

def readAnchor (construct : Construct) (make : List Char → Lexeme) (cursor : Cursor) :
    Except SyntaxError (Lexeme × Cursor) :=
  let start := cursor.mark
  let cursor := cursor.skip
  let name := cursor.run isNameChar
  let cursor := cursor.skip name.length
  let ends := cursor.blankAt 0 ||
    cursor.holdsAt 0 fun c => ['?', ':', ',', ']', '}', '%', '@', '\x60'].contains c
  if name.isEmpty || !ends then .error (.within construct start .missingName cursor.mark)
  else .ok (make name, cursor)

def isUriChar (bracketed : Bool) (c : Char) : Bool :=
  isNameChar c ||
    [';', '/', '?', ':', '@', '&', '=', '+', '$', '.', '!', '~', '*', '\'', '(', ')'].contains c ||
    (bracketed && [',', '[', ']'].contains c)

def octetCount? (octet : Nat) : Option Nat :=
  if octet < 0x80 then some 1
  else if 0xC0 ≤ octet ∧ octet < 0xE0 then some 2
  else if 0xE0 ≤ octet ∧ octet < 0xF0 then some 3
  else if 0xF0 ≤ octet ∧ octet < 0xF8 then some 4
  else none

def escapedOctet? (cursor : Cursor) : Option Nat :=
  match cursor.rest with
  | '%' :: a :: b :: _ =>
    if isHexDigit a && isHexDigit b then some (hexDigitValue a * 16 + hexDigitValue b) else none
  | _ => none

def trailingOctets (construct : Construct) (start : Mark) :
    Nat → Cursor → Except SyntaxError (List Nat × Cursor)
  | 0, cursor => .ok ([], cursor)
  | count + 1, cursor =>
    match escapedOctet? cursor with
    | none => .error (.within construct start .missingUriOctet cursor.mark)
    | some octet =>
      if 0x80 ≤ octet ∧ octet < 0xC0 then do
        let (octets, cursor) ← trailingOctets construct start count (cursor.skip 3)
        return (octet :: octets, cursor)
      else .error (.within construct start .badTrailingOctet cursor.mark)

def escapedOctets (construct : Construct) (start : Mark) (cursor : Cursor) :
    Except SyntaxError (List Nat × Cursor) :=
  match escapedOctet? cursor with
  | none => .error (.within construct start .missingUriOctet cursor.mark)
  | some octet =>
    match octetCount? octet with
    | none => .error (.within construct start .badLeadingOctet cursor.mark)
    | some count => do
      let (octets, cursor) ← trailingOctets construct start (count - 1) (cursor.skip 3)
      return (octet :: octets, cursor)

def uriOctets (bracketed : Bool) (construct : Construct) (start : Mark) :
    Nat → Cursor → Except SyntaxError (List Nat × Cursor)
  | 0, cursor => .ok ([], cursor)
  | fuel + 1, cursor =>
    match cursor.rest with
    | [] => .ok ([], cursor)
    | '%' :: _ => do
      let (octets, cursor) ← escapedOctets construct start cursor
      let (more, cursor) ← uriOctets bracketed construct start fuel cursor
      return (octets ++ more, cursor)
    | c :: _ =>
      if isUriChar bracketed c then do
        let (more, cursor) ← uriOctets bracketed construct start fuel cursor.skip
        return (c.toNat :: more, cursor)
      else .ok ([], cursor)

/-- The text that bytes spell, up to the first zero byte; nothing if they spell no text. -/
def textOfOctets? (octets : List Nat) : Option (List Char) :=
  let bytes : ByteArray := ⟨((octets.takeWhile (· != 0)).map UInt8.ofNat).toArray⟩
  (String.fromUTF8? bytes).map String.toList

/-- Reads the text of a tag. At least one character is needed unless a part of it stands before. -/
def readUri (bracketed : Bool) (construct : Construct) (before : List Char) (needed : Bool)
    (start : Mark) (cursor : Cursor) : Except SyntaxError (Option (List Char) × Cursor) := do
  let (octets, after) ← uriOctets bracketed construct start cursor.rest.length cursor
  if needed && octets.isEmpty then .error (.within construct start .missingTagUri after.mark)
  else return ((textOfOctets? octets).map (before ++ ·), after)

def readHandle (directive : Bool) (start : Mark) (cursor : Cursor) :
    Except SyntaxError (List Char × Cursor) :=
  if !cursor.isAt '!' then
    let construct := if directive then Construct.tagDirectiveHandle else .tag
    .error (.within construct start .missingExclamation cursor.mark)
  else
    let cursor := cursor.skip
    let name := cursor.run isNameChar
    let cursor := cursor.skip name.length
    if cursor.isAt '!' then .ok ('!' :: name ++ ['!'], cursor.skip)
    else if directive && !name.isEmpty then
      .error (.within .tagDirectiveName start .missingExclamation cursor.mark)
    else .ok ('!' :: name, cursor)

def isFullHandle (handle : List Char) : Bool :=
  handle.length > 1 && handle.getLast? == some '!'

def readTag (inFlow : Bool) (cursor : Cursor) : Except SyntaxError (Lexeme × Cursor) := do
  let start := cursor.mark
  let (lexeme, cursor) ←
    if cursor.peekAt? 1 == some '<' then do
      let (suffix, cursor) ← readUri true .tagSuffix [] true start (cursor.skip 2)
      if !cursor.isAt '>' then .error (.within .tag start .missingTagEnd cursor.mark)
      else pure (Lexeme.tag [] suffix, cursor.skip)
    else do
      let (handle, cursor) ← readHandle false start cursor
      if isFullHandle handle then
        let (suffix, cursor) ← readUri false .tagSuffix [] true start cursor
        pure (.tag handle suffix, cursor)
      else
        let (suffix, cursor) ← readUri false .tagSuffix (handle.drop 1) false start cursor
        if suffix == some [] then pure (.tag [] (some ['!']), cursor)
        else pure (.tag ['!'] suffix, cursor)
  if cursor.blankAt 0 || (inFlow && cursor.isAt ',') then return (lexeme, cursor)
  else .error (.within .tag start .missingBlankOrBreak cursor.mark)

def longestVersion : Nat := 9

def readVersionNumber (start : Mark) (cursor : Cursor) : Except SyntaxError (Nat × Cursor) :=
  let digits := cursor.run Char.isDigit
  if longestVersion < digits.length then
    .error (.within .versionDirective start .longVersion (cursor.skip longestVersion).mark)
  else if digits.isEmpty then .error (.within .versionDirective start .missingVersion cursor.mark)
  else
    let value := digits.foldl (fun total digit => 10 * total + (digit.toNat - '0'.toNat)) 0
    .ok (value, cursor.skip digits.length)

def readVersion (start : Mark) (cursor : Cursor) : Except SyntaxError (Lexeme × Cursor) := do
  let (major, cursor) ← readVersionNumber start (cursor.skipRun isSpaceOrTab)
  if !cursor.isAt '.' then .error (.within .versionDirective start .missingVersionDot cursor.mark)
  else
    let (minor, cursor) ← readVersionNumber start cursor.skip
    return (.versionDirective major minor, cursor)

def readTagDirective (start : Mark) (cursor : Cursor) : Except SyntaxError (Lexeme × Cursor) := do
  let (handle, cursor) ← readHandle true start (cursor.skipRun isSpaceOrTab)
  if !cursor.holdsAt 0 isSpaceOrTab then
    .error (.within .tagDirective start .missingBlank cursor.mark)
  else
    let (value, cursor) ←
      readUri true .tagDirectivePrefix [] true start (cursor.skipRun isSpaceOrTab)
    if !cursor.blankAt 0 then
      .error (.within .tagDirective start .missingBlankOrBreak cursor.mark)
    else return (.tagDirective handle (value.getD ['!']), cursor)

def readDirective (cursor : Cursor) : Except SyntaxError (Lexeme × Mark × Cursor) := do
  let start := cursor.mark
  let cursor := cursor.skip
  let name := cursor.run isNameChar
  let cursor := cursor.skip name.length
  if name.isEmpty then .error (.within .directive start .missingDirectiveName cursor.mark)
  else if !cursor.blankAt 0 then .error (.within .directive start .badDirectiveName cursor.mark)
  else
    let (lexeme, cursor) ←
      if name == "YAML".toList then readVersion start cursor
      else if name == "TAG".toList then readTagDirective start cursor
      else .error (.within .directive start .unknownDirective cursor.mark)
    let stop := cursor.mark
    let cursor := (cursor.skipRun isSpaceOrTab).skipComment
    if cursor.atLineEnd then return (lexeme, stop, cursor.skipBreakIfAny)
    else .error (.within .directive start .missingLineEnd cursor.mark)

end PipelineAdvisor.Yaml.Name
