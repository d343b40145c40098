import PipelineAdvisor.Yaml.Node

/-!
What a scalar stands for. A plain scalar is null, a truth value, a whole number, a double or,
failing all that, a string. Whole numbers beyond 64 bits but within 128 are no value at all.
-/

namespace PipelineAdvisor.Yaml

/-- What a scalar is read as. `tooWide` is a whole number of 65 to 128 bits, with its sign. -/
inductive Reading where
  | value (node : Node)
  | tooWide (number : Int)

namespace Scalar

def isNull (text : String) : Bool :=
  text == "null" || text == "Null" || text == "NULL" || text == "~"

def bool? (text : String) : Option Bool :=
  if text == "true" || text == "True" || text == "TRUE" then some true
  else if text == "false" || text == "False" || text == "FALSE" then some false
  else none

def digits? (base : Nat) (text : List Char) : Option Nat :=
  let value? (c : Char) : Option Nat :=
    let value :=
      if c.isDigit then c.toNat - '0'.toNat
      else if 'a' ≤ c ∧ c ≤ 'f' then c.toNat - 'a'.toNat + 10
      else if 'A' ≤ c ∧ c ≤ 'F' then c.toNat - 'A'.toNat + 10
      else base
    if value < base then some value else none
  if text.isEmpty then none
  else text.foldlM (fun total c => (value? c).map (base * total + ·)) 0

def withoutSign : List Char → List Char
  | '-' :: rest => rest
  | '+' :: rest => rest
  | text => text

def startsWithSign : List Char → Bool
  | '-' :: _ => true
  | '+' :: _ => true
  | _ => false

/-- Digits that begin with a zero they do not need are a string and no number. -/
def isZeroPadded (text : List Char) : Bool :=
  match withoutSign text with
  | '0' :: c :: rest => (c :: rest).all Char.isDigit
  | _ => false

def based? (text : List Char) : Option (Option Nat) :=
  match text with
  | '0' :: 'x' :: rest => some (digits? 16 rest)
  | '0' :: 'o' :: rest => some (digits? 8 rest)
  | '0' :: 'b' :: rest => some (digits? 2 rest)
  | _ => none

def integer? (text : List Char) : Option Int :=
  match text with
  | '-' :: rest =>
    match based? rest with
    | some (some value) => some (-(value : Int))
    | _ => if isZeroPadded text then none else (digits? 10 rest).map fun value => -(value : Int)
  | _ =>
    let rest := match text with | '+' :: rest => rest | text => text
    match based? rest with
    | some (some value) => some value
    | _ => if isZeroPadded text then none else (digits? 10 rest).map fun value => (value : Int)

/-- The double that a plain scalar writes. What exceeds the largest double is no number. -/
def float? (text : List Char) : Option Binary64 :=
  let unsigned := match text with | '+' :: rest => rest | text => text
  let word := String.ofList unsigned
  let whole := String.ofList text
  if text.head? == some '+' && startsWithSign unsigned then none
  else if word == ".inf" || word == ".Inf" || word == ".INF" then some (Binary64.infinity false)
  else if whole == "-.inf" || whole == "-.Inf" || whole == "-.INF" then
    some (Binary64.infinity true)
  else if whole == ".nan" || whole == ".NaN" || whole == ".NAN" then some (Binary64.nan false)
  else
    let negative := unsigned.head? == some '-'
    match readDecimal? (withoutSign unsigned) with
    | some decimal =>
      let value := decimal.toBinary64 negative
      if value.isFinite then some value else none
    | none => none

def integerReading? (text : List Char) : Option Reading :=
  match integer? text with
  | some value =>
    if -(Nat.pow 2 63 : Int) ≤ value ∧ value < Nat.pow 2 64 then
      some (.value (.number (.integer value)))
    else if -(Nat.pow 2 127 : Int) ≤ value ∧ value < Nat.pow 2 128 then some (.tooWide value)
    else none
  | none => none

def resolve (text : String) : Reading :=
  if text.isEmpty || isNull text then .value .null
  else
    match bool? text with
    | some value => .value (.bool value)
    | none =>
      match integerReading? text.toList with
      | some reading => reading
      | none =>
        if isZeroPadded text.toList then .value (.string text)
        else
          match float? text.toList with
          | some value => .value (.number (.float value))
          | none => .value (.string text)

def readsAsString (text : String) : Bool :=
  match resolve text with
  | .value (.string _) => !isZeroPadded text.toList
  | _ => false

end Scalar

end PipelineAdvisor.Yaml
