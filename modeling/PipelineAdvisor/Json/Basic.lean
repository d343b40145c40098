import PipelineAdvisor.Number.Decimal

/-!
Values of the data format in which reports and step images are written. Members of an object keep
the order in which they were written. Strings stand inside quotation marks: `escape` writes them,
`readString?` reads them back, and a character is escaped only if it is a quotation mark, a
backslash or a control character below space.
-/

namespace PipelineAdvisor

inductive Json where
  | null
  | bool (value : Bool)
  | integer (value : Int)
  | float (value : Binary64)
  | string (value : String)
  | array (items : List Json)
  | object (members : List (String × Json))
deriving Inhabited

namespace Json

/-- The value of a member; of several members of one name the last one counts. -/
def member? (value : Json) (name : String) : Option Json :=
  match value with
  | .object members => (members.reverse.find? fun member => member.1 == name).map (·.2)
  | _ => none

/-- Floats are written with all places below `10 ^ 16`, with a signed exponent from there on and
below `10 ^ -5`. What is no finite number is written as null. -/
def floatLayout : FloatLayout where
  longestWhole := 16
  mostLeadingZeros := 4
  exponentPlus := ['+']
  positiveInfinity := "null".toList
  negativeInfinity := "null".toList
  notANumber := "null".toList

def integerText (value : Int) : List Char :=
  if value < 0 then '-' :: FloatLayout.decimalDigits value.natAbs
  else FloatLayout.decimalDigits value.natAbs

def hexDigit (value : Nat) : Char :=
  Nat.digitChar value

def escapeChar (c : Char) : List Char :=
  if c = '"' then ['\\', '"']
  else if c = '\\' then ['\\', '\\']
  else if c = '\x08' then ['\\', 'b']
  else if c = '\x0c' then ['\\', 'f']
  else if c = '\n' then ['\\', 'n']
  else if c = '\r' then ['\\', 'r']
  else if c = '\t' then ['\\', 't']
  else if c.toNat < 0x20 then
    ['\\', 'u', '0', '0', hexDigit (c.toNat / 16), hexDigit (c.toNat % 16)]
  else [c]

def escape (text : List Char) : List Char :=
  text.flatMap escapeChar

def stringText (text : String) : List Char :=
  '"' :: escape text.toList ++ ['"']

def hexValue? (c : Char) : Option Nat :=
  if '0' ≤ c ∧ c ≤ '9' then some (c.toNat - '0'.toNat)
  else if 'a' ≤ c ∧ c ≤ 'f' then some (c.toNat - 'a'.toNat + 10)
  else if 'A' ≤ c ∧ c ≤ 'F' then some (c.toNat - 'A'.toNat + 10)
  else none

def hexQuad? (a b c d : Char) : Option Nat := do
  let a ← hexValue? a
  let b ← hexValue? b
  let c ← hexValue? c
  let d ← hexValue? d
  return ((a * 16 + b) * 16 + c) * 16 + d

def shortEscape? (c : Char) : Option Char :=
  match c with
  | '"' => some '"'
  | '\\' => some '\\'
  | '/' => some '/'
  | 'b' => some '\x08'
  | 'f' => some '\x0c'
  | 'n' => some '\n'
  | 'r' => some '\r'
  | 't' => some '\t'
  | _ => none

/-- Reads the rest of a string up to its closing quotation mark, and returns it with what follows. A
pair of surrogate escapes stands for one character. -/
def readString? : List Char → Option (List Char × List Char)
  | [] => none
  | '"' :: rest => some ([], rest)
  | '\\' :: 'u' :: a :: b :: c :: d :: rest => do
    let unit ← hexQuad? a b c d
    if 0xD800 ≤ unit ∧ unit < 0xDC00 then
      match rest with
      | '\\' :: 'u' :: e :: f :: g :: h :: rest =>
        let low ← hexQuad? e f g h
        if 0xDC00 ≤ low ∧ low < 0xE000 then
          let (text, rest) ← readString? rest
          return (Char.ofNat (0x10000 + (unit - 0xD800) * 0x400 + (low - 0xDC00)) :: text, rest)
        else none
      | _ => none
    else if 0xDC00 ≤ unit ∧ unit < 0xE000 then none
    else
      let (text, rest) ← readString? rest
      return (Char.ofNat unit :: text, rest)
  | '\\' :: c :: rest => do
    let c ← shortEscape? c
    let (text, rest) ← readString? rest
    return (c :: text, rest)
  | c :: rest => do
    if c.toNat < 0x20 then none
    else
      let (text, rest) ← readString? rest
      return (c :: text, rest)

end Json

end PipelineAdvisor
