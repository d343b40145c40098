import PipelineAdvisor.Toml.Syntax

/-!
The text of quoted strings. Basic strings have escapes; strings over several lines drop a line end
right behind their opening quotes, and a backslash at the end of a line joins it with the next text.
-/

namespace PipelineAdvisor.Toml.Quoted

open Syntax (complain)

def isText (c : Char) : Bool :=
  c == '\t' || (0x20 ≤ c.toNat && c != '\x7f')

def isHexDigit (c : Char) : Bool :=
  c.isDigit || ('a' ≤ c && c ≤ 'f') || ('A' ≤ c && c ≤ 'F')

def hexDigitValue (c : Char) : Nat :=
  if c.isDigit then c.toNat - '0'.toNat
  else if 'a' ≤ c then c.toNat - 'a'.toNat + 10
  else c.toNat - 'A'.toNat + 10

def charOf? (code : Nat) : Option Char :=
  if code < 0xD800 || (0xDFFF < code && code < 0x110000) then some (Char.ofNat code) else none

def simpleEscape? : Char → Option Char
  | 'b' => some '\x08'
  | 'e' => some '\x1b'
  | 'f' => some '\x0c'
  | 'n' => some '\n'
  | 'r' => some '\r'
  | 't' => some '\t'
  | '\\' => some '\\'
  | '"' => some '"'
  | _ => none

def numberedEscape? : Char → Option Nat
  | 'x' => some 2
  | 'u' => some 4
  | 'U' => some 8
  | _ => none

def readEscape (offset : Nat) : List Char → Except Complaint (Char × Nat)
  | [] => complain .missingEscape (.point offset)
  | letter :: rest =>
    match simpleEscape? letter, numberedEscape? letter with
    | some c, _ => .ok (c, 1)
    | none, some count =>
      let digits := (rest.takeWhile isHexDigit).take count
      let code := digits.foldl (fun total digit => 16 * total + hexDigitValue digit) 0
      if digits.length ≠ count then complain .shortCodePoint (.point (offset + 1))
      else
        match charOf? code with
        | some c => .ok (c, 1 + count)
        | none => complain .badCodePoint (.point (offset + 1))
    | none, none => complain .missingEscape (.point offset)

def blankLines (offset : Nat) : List Char → Except Complaint Nat
  | '\r' :: '\n' :: rest => do return (← blankLines (offset + 2) rest) + 2
  | '\r' :: _ => complain .bareCarriageReturn (.point (offset + 1))
  | c :: rest =>
    if c == ' ' || c == '\t' || c == '\n' then do return (← blankLines (offset + 1) rest) + 1
    else .ok 0
  | [] => .ok 0

/-- The length of an escaped line end, from the blanks in front of it to the next text. -/
def escapedLineEnd (offset : Nat) (text : List Char) : Except Complaint Nat := do
  let blanks := (text.takeWhile Token.isBlank).length
  match text.drop blanks with
  | '\n' :: rest => return blanks + 1 + (← blankLines (offset + blanks + 1) rest)
  | '\r' :: '\n' :: rest => return blanks + 2 + (← blankLines (offset + blanks + 2) rest)
  | '\r' :: _ => complain .bareCarriageReturn (.point (offset + blanks + 1))
  | _ => complain .missingLineBreak (.point (offset + blanks))

def readBasic (quoting : Quoting) : Nat → Nat → List Char → Except Complaint (List Char)
  | _, _, [] => .ok []
  | 0, _, _ => .ok []
  | fuel + 1, offset, c :: rest =>
    let long := quoting = .longBasic
    if c == '\\' then do
      let continued := long && ((rest.head?.map fun c =>
        Token.isBlank c || c == '\n' || c == '\r').getD false)
      if continued then
        let length ← escapedLineEnd (offset + 1) rest
        readBasic quoting fuel (offset + 1 + length) (rest.drop length)
      else
        let (char, length) ← readEscape (offset + 1) rest
        return char :: (← readBasic quoting fuel (offset + 1 + length) (rest.drop length))
    else if isText c || (long && c == '\n') then do
      return c :: (← readBasic quoting fuel (offset + c.utf8Size) rest)
    else if long && c == '\r' then
      match rest with
      | '\n' :: more => do return '\r' :: '\n' :: (← readBasic quoting fuel (offset + 2) more)
      | _ => complain .bareCarriageReturn (.point (offset + 1))
    else
      let run := (c :: rest).takeWhile fun c =>
        !(isText c || (long && (c == '\n' || c == '\r')))
      complain (.stringCharacter quoting) ⟨offset, offset + byteLength run⟩

def checkLiteral (quoting : Quoting) : Nat → List Char → Except Complaint Unit
  | _, [] => .ok ()
  | offset, c :: rest =>
    let long := quoting = .longLiteral
    if isText c || (long && c == '\n') then checkLiteral quoting (offset + c.utf8Size) rest
    else if long && c == '\r' then
      match rest with
      | '\n' :: more => checkLiteral quoting (offset + 2) more
      | _ => complain .bareCarriageReturn (.point (offset + 1))
    else complain (.stringCharacter quoting) (.point offset)

def withoutEnd? (ending text : List Char) : Option (List Char) :=
  if ending.isSuffixOf text then some (text.take (text.length - ending.length)) else none

def read (quoting : Quoting) (written : List Char) : Except Complaint (List Char) := do
  let delimiter := quoting.delimiter
  let inside := written.drop delimiter.length
  match withoutEnd? delimiter inside with
  | none => complain (.unclosedString quoting) (.point (byteLength written))
  | some inside =>
    let lineEnd : Nat :=
      if quoting.width = 1 then 0
      else
        match inside with
        | '\n' :: _ => 1
        | '\r' :: '\n' :: _ => 2
        | _ => 0
    let offset := delimiter.length + lineEnd
    let inside := inside.drop lineEnd
    match quoting with
    | .literal | .longLiteral =>
      checkLiteral quoting offset inside
      return inside
    | .basic | .longBasic => readBasic quoting inside.length offset inside

end PipelineAdvisor.Toml.Quoted
