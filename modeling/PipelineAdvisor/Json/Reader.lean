import PipelineAdvisor.Json.Basic

/-!
Reading a value from its text. Spaces, tabs and line ends may stand between the parts. Whole numbers
that fit into 64 bits stay whole, all other numbers become doubles.
-/

namespace PipelineAdvisor.Json

def isSpace (c : Char) : Bool :=
  c == ' ' || c == '\n' || c == '\t' || c == '\r'

def skipSpace (text : List Char) : List Char :=
  text.dropWhile isSpace

def isNumberChar (c : Char) : Bool :=
  c.isDigit || c == '-' || c == '+' || c == '.' || c == 'e' || c == 'E'

def unsignedNumber? (negative : Bool) (text : List Char) : Option Json :=
  if text.all Char.isDigit then
    if text.isEmpty || (text.length > 1 && text.head? == some '0') then none
    else
      let value := text.foldl (fun total digit => 10 * total + (digit.toNat - '0'.toNat)) 0
      if negative then
        if 0 < value ∧ value ≤ Nat.pow 2 63 then some (.integer (-value))
        else some (.float (Binary64.ofDecimal true value 0))
      else if value < Nat.pow 2 64 then some (.integer value)
      else some (.float (Binary64.ofDecimal false value 0))
  else
    match text with
    | '.' :: _ => none
    | '0' :: c :: _ => if c.isDigit then none else fractional? negative text
    | _ => fractional? negative text
where
  /-- A literal with a point or an exponent; a point needs a digit after it. -/
  fractional? (negative : Bool) (text : List Char) : Option Json :=
    let places := (text.dropWhile (· != '.')).drop 1
    if text.contains '.' && !(places.head?.elim false Char.isDigit) then none
    else
      match text with
      | c :: _ =>
        if c.isDigit then (readDecimal? text).map fun d => .float (d.toBinary64 negative) else none
      | [] => none

def number? : List Char → Option Json
  | '-' :: text => unsignedNumber? true text
  | text => unsignedNumber? false text

def keyword? (word : List Char) (value : Json) (text : List Char) : Option (Json × List Char) :=
  if word.isPrefixOf text then some (value, text.drop word.length) else none

mutual

/-- Reads one value from the front of a text; `fuel` bounds the number of values and parts. -/
def readValue? : Nat → List Char → Option (Json × List Char)
  | 0, _ => none
  | fuel + 1, text =>
    match skipSpace text with
    | [] => none
    | '"' :: rest => (readString? rest).map fun (text, rest) => (.string (String.ofList text), rest)
    | '[' :: rest =>
      match skipSpace rest with
      | ']' :: rest => some (.array [], rest)
      | rest => (readItems? fuel rest).map fun (items, rest) => (.array items, rest)
    | '{' :: rest =>
      match skipSpace rest with
      | '}' :: rest => some (.object [], rest)
      | rest => (readMembers? fuel rest).map fun (members, rest) => (.object members, rest)
    | 'n' :: rest => keyword? "null".toList .null ('n' :: rest)
    | 't' :: rest => keyword? "true".toList (.bool true) ('t' :: rest)
    | 'f' :: rest => keyword? "false".toList (.bool false) ('f' :: rest)
    | rest =>
      (number? (rest.takeWhile isNumberChar)).map fun value => (value, rest.dropWhile isNumberChar)

def readItems? : Nat → List Char → Option (List Json × List Char)
  | 0, _ => none
  | fuel + 1, text => do
    let (item, rest) ← readValue? fuel text
    match skipSpace rest with
    | ']' :: rest => return ([item], rest)
    | ',' :: rest =>
      let (items, rest) ← readItems? fuel rest
      return (item :: items, rest)
    | _ => none

def readMembers? : Nat → List Char → Option (List (String × Json) × List Char)
  | 0, _ => none
  | fuel + 1, text =>
    match skipSpace text with
    | '"' :: rest => do
      let (name, rest) ← readString? rest
      match skipSpace rest with
      | ':' :: rest =>
        let (value, rest) ← readValue? fuel rest
        let member := (String.ofList name, value)
        match skipSpace rest with
        | '}' :: rest => return ([member], rest)
        | ',' :: rest =>
          let (members, rest) ← readMembers? fuel rest
          return (member :: members, rest)
        | _ => none
      | _ => none
    | _ => none

end

def read? (text : List Char) : Option Json :=
  match readValue? (2 * text.length + 2) text with
  | some (value, rest) => if (skipSpace rest).isEmpty then some value else none
  | none => none

end PipelineAdvisor.Json
