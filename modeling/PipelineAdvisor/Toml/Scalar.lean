import PipelineAdvisor.Toml.Quoted
import PipelineAdvisor.Toml.Moment

/-!
What keys and scalars stand for. A bare scalar is told by its first characters: a sign or digit
starts a number or a moment, a letter one of four words, and all else is a string whose quotes are
missing.
-/

namespace PipelineAdvisor.Toml

/-- A scalar. Numbers keep their digits, without underscores. -/
inductive Scalar where
  | string (text : String)
  | integer (radix : Radix) (digits : List Char)
  | float (digits : List Char)
  | boolean (value : Bool)
  | moment
deriving DecidableEq, Inhabited

namespace Scalar

open Syntax (complain)

structure Tail where
  offset : Nat
  text : List Char

def Tail.drop (tail : Tail) (count : Nat) : Tail :=
  ⟨tail.offset + count, tail.text.drop count⟩

def whole (written : List Char) : Extent :=
  ⟨0, byteLength written⟩

def endsWith (ending : String) (text : List Char) : Bool :=
  ending.toList.isSuffixOf text

/-- The complaint about a text without quotes; if it ends with quotes, the opening ones are missing.
-/
def refuse {α : Type} (written : List Char) : Except Complaint α :=
  match ["'''", "\"\"\"", "'", "\""].find? fun quotes => endsWith quotes written with
  | some quotes => complain (.missingOpeningQuote quotes) (.point 0)
  | none => complain .unquotedText (whole written)

def checkDigits (part : String) (zerosAllowed : Bool) (tail : Tail) : Except Complaint Tail :=
  let run := tail.text.takeWhile fun c => c.isDigit || c == '_'
  let count := run.countP Char.isDigit
  if count = 0 then
    complain (.missingDigits part) ⟨tail.offset, tail.offset + run.length⟩
  else if 1 < count && !zerosAllowed && run.head? == some '0' then
    complain .leadingZero ⟨tail.offset, tail.offset + 1⟩
  else .ok (tail.drop run.length)

def checkFloat (written : List Char) (tail : Tail) : Except Complaint Unit := do
  let tail ← checkDigits "mantissa" false tail
  let tail ← if tail.text.head? == some '.' then checkDigits "fraction" true (tail.drop 1)
    else pure tail
  let tail ←
    match tail.text with
    | mark :: rest =>
      if mark == 'e' || mark == 'E' then
        let signed := rest.head? == some '+' || rest.head? == some '-'
        checkDigits "exponent" true (tail.drop (if signed then 2 else 1))
      else pure tail
    | [] => pure tail
  if tail.text.isEmpty then return ()
  else complain .badFloat ⟨tail.offset, byteLength written⟩

def isNumeral (radix : Option Radix) (c : Char) : Bool :=
  match radix with
  | some .hexadecimal => Quoted.isHexDigit c
  | some .octal => '0' ≤ c && c ≤ '7'
  | some .binary => c == '0' || c == '1'
  | _ => c.isDigit

/-- Walks along a number whose first and last characters are no underscores, and complains about the
first underscore that has no digit at one of its sides. A sign in front of it is let pass. -/
def checkUnderscores (radix : Option Radix) (offset : Nat) (previous : List Char) :
    List Char → Except Complaint Unit
  | [] => .ok ()
  | '_' :: rest =>
    let badBefore := previous.head?.any (!isNumeral radix ·) && 1 < previous.length
    let badBehind := rest.head?.any fun c => c != '_' && !isNumeral radix c
    if badBefore || badBehind then complain .misplacedUnderscore ⟨offset, offset + 1⟩
    else if rest.head? == some '_' then complain .misplacedUnderscore ⟨offset + 1, offset + 2⟩
    else checkUnderscores radix (offset + 1) ('_' :: previous) rest
  | c :: rest => checkUnderscores radix (offset + c.utf8Size) (c :: previous) rest

def numerals (radix : Option Radix) (tail : Tail) : Except Complaint (List Char) := do
  if tail.text.head? == some '_' then
    complain .misplacedUnderscore ⟨tail.offset, tail.offset + 1⟩
  else if tail.text.getLast? == some '_' then
    let stop := tail.offset + byteLength tail.text
    complain .misplacedUnderscore ⟨stop - 1, stop⟩
  checkUnderscores radix tail.offset [] tail.text
  return tail.text.filter (· != '_')

def readRadix (radix : Radix) (tail : Tail) : Except Complaint Scalar := do
  if tail.text.head? == some '+' || tail.text.head? == some '-' then
    complain .unexpectedSign ⟨tail.offset, tail.offset + 1⟩
  let valid := tail.text.takeWhile fun c => isNumeral (some radix) c || c == '_'
  if valid.length < tail.text.length then
    complain (.badDigit radix) (.point (tail.offset + valid.length))
  return .integer radix (← numerals (some radix) tail)

def goesOnAsFloat (text : List Char) : Bool :=
  text.any fun c => c == '.' || c == 'e' || c == 'E'

def readNumeric (written : List Char) (tail : Tail) : Except Complaint Scalar := do
  let all : Tail := ⟨0, written⟩
  let rest := tail.text.dropWhile Char.isDigit
  let leadingZero : Except Complaint Unit :=
    if tail.text.head? == some '0' && 1 < tail.text.length then
      complain .leadingZero ⟨tail.offset, tail.offset + 1⟩
    else .ok ()
  match rest with
  | [] =>
    leadingZero
    return .integer .decimal (← numerals none all)
  | next :: _ =>
    if next == '-' || next == ':' then
      match Moment.check written with
      | .ok () => return .moment
      | .error problem => complain problem (whole written)
    else if rest.contains ' ' then refuse written
    else if goesOnAsFloat rest then
      checkFloat written tail
      return .float (← numerals none all)
    else if next == '_' then
      leadingZero
      return .integer .decimal (← numerals none all)
    else refuse written

def readZero (written : List Char) (signed : Bool) (tail : Tail) : Except Complaint Scalar := do
  let based (radix : Radix) (lower : String) (upper : Bool) : Except Complaint Scalar := do
    if signed then complain .signedRadix ⟨0, 1⟩
    if upper then complain (.upperCaseRadix lower) ⟨tail.offset, tail.offset + 2⟩
    readRadix radix (tail.drop 2)
  match tail.text.drop 1 with
  | 'x' :: _ => based .hexadecimal "0x" false
  | 'X' :: _ => based .hexadecimal "0x" true
  | 'o' :: _ => based .octal "0o" false
  | 'O' :: _ => based .octal "0o" true
  | 'b' :: _ => based .binary "0b" false
  | 'B' :: _ => based .binary "0b" true
  | 'd' :: _ | 'D' :: _ =>
    if signed then complain .signedRadix ⟨0, 1⟩
    else complain .redundantRadix ⟨tail.offset, tail.offset + 2⟩
  | [] => return .integer .decimal written
  | _ => readNumeric written tail

def readWord (written : List Char) (word : String) (value : Scalar) (problem : Problem) :
    Except Complaint Scalar :=
  if String.ofList written == word then .ok value
  else if written.contains ' ' then refuse written
  else complain problem (whole written)

def readSigned (written : List Char) (tail : Tail) : Except Complaint Scalar :=
  match tail.text with
  | [] => refuse written
  | c :: _ =>
    if c == '+' || c == '-' then complain .redundantSign ⟨tail.offset, tail.offset + 1⟩
    else if c == '0' then readZero written true tail
    else if c.isDigit || c == '_' then readNumeric written tail
    else if c == '.' then do
      checkFloat written ⟨0, written⟩
      return .float written
    else if c == 'i' || c == 'I' then word "inf"
    else if c == 'n' || c == 'N' then word "nan"
    else refuse written
where
  /-- The one word that may stand here. -/
  word (expected : String) : Except Complaint Scalar :=
    if String.ofList tail.text == expected then .ok (.float written)
    else
      complain (.badSpecialFloat expected) ⟨tail.offset, tail.offset + byteLength tail.text⟩

def readBare (written : List Char) : Except Complaint Scalar :=
  match written with
  | [] => refuse written
  | c :: rest =>
    if c == '+' || c == '-' then readSigned written ⟨1, rest⟩
    else if c == '0' then readZero written false ⟨0, written⟩
    else if c.isDigit || c == '_' then readNumeric written ⟨0, written⟩
    else if c == '.' then do
      checkFloat written ⟨0, written⟩
      return .float written
    else if c == 't' || c == 'T' then
      readWord written "true" (.boolean true) (.badBoolean "true")
    else if c == 'f' || c == 'F' then
      readWord written "false" (.boolean false) (.badBoolean "false")
    else if c == 'i' || c == 'I' then
      readWord written "inf" (.float written) (.badSpecialFloat "inf")
    else if c == 'n' || c == 'N' then
      readWord written "nan" (.float written) (.badSpecialFloat "nan")
    else refuse written

end Scalar

namespace Written

def locate {α : Type} (written : Written) (result : Except Complaint α) : Except Complaint α :=
  result.mapError fun complaint =>
    { complaint with extent := complaint.extent.shift written.start }

def scalar (written : Written) : Except Complaint Scalar :=
  written.locate <|
    match written.quoting with
    | none => Scalar.readBare written.text
    | some quoting => return .string (String.ofList (← Quoted.read quoting written.text))

def isKeyChar (c : Char) : Bool :=
  c.isAlphanum || c == '-' || c == '_'

def key (written : Written) : Except Complaint String :=
  written.locate <|
    match written.quoting with
    | none => do
      let text := written.text
      let valid := text.takeWhile isKeyChar
      if text.isEmpty then Syntax.complain .emptyKey (.point 0)
      else if valid.length < text.length then Syntax.complain .keyCharacter (.point valid.length)
      else return String.ofList text
    | some quoting => do
      if quoting.width = 3 then
        Syntax.complain (.longKey quoting) ⟨0, byteLength written.text⟩
      else return String.ofList (← Quoted.read quoting written.text)

end Written

end PipelineAdvisor.Toml
