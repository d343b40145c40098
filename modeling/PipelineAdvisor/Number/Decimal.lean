import PipelineAdvisor.Number.Binary64

/-!
Decimal text of doubles: the fewest digits that read back as the same double, of several such the
ones nearest to its value, laid out by a `FloatLayout`. `readDecimal?` is the reading direction. A
`Number` is what documents hold: a whole number of 64 bits, with or without sign, or a double; the
two kinds are never equal to each other.
-/

namespace PipelineAdvisor

structure Decimal where
  digits : Nat
  exponent : Int
deriving DecidableEq

namespace Decimal

def toBinary64 (negative : Bool) (d : Decimal) : Binary64 :=
  Binary64.ofDecimal negative d.digits d.exponent

/-- Number of digits before the decimal point of `numerator / denominator`, negative when zeros
follow the point; found from a guess that is at most one too small. -/
def pointPosition (numerator denominator : Nat) : Int :=
  let guess : Int := ((numerator.log2 : Int) - denominator.log2 - 1) * 30103 / 100000
  let reaches (place : Int) : Bool :=
    if 0 ≤ place then denominator * Nat.pow 10 place.toNat ≤ numerator
    else denominator ≤ numerator * Nat.pow 10 (-place).toNat
  if reaches (guess + 1) then guess + 2 else if reaches guess then guess + 1 else guess

def inUnits (numerator denominator : Nat) (exponent : Int) : Nat × Nat :=
  if 0 ≤ exponent then (numerator, denominator * Nat.pow 10 exponent.toNat)
  else (numerator * Nat.pow 10 (-exponent).toNat, denominator)

def atPlace? (x : Binary64) (exponent : Int) : Option Decimal :=
  let (top, bottom) := inUnits x.fraction.1 x.fraction.2 exponent
  let below : Decimal := ⟨top / bottom, exponent⟩
  let above : Decimal := ⟨top / bottom + 1, exponent⟩
  let magnitude := x.magnitudeBits
  let fitsBelow := (below.toBinary64 false).magnitudeBits == magnitude
  let fitsAbove := (above.toBinary64 false).magnitudeBits == magnitude
  let nearest : Decimal := ⟨Binary64.divideToEven top bottom, exponent⟩
  if fitsBelow && fitsAbove then some nearest
  else if fitsBelow then some below
  else if fitsAbove then some above
  else none

def exact (x : Binary64) : Decimal :=
  if 1074 ≤ x.scale then ⟨x.significand * Nat.pow 2 (x.scale - 1074), 0⟩
  else ⟨x.significand * Nat.pow 5 (1074 - x.scale), -((1074 - x.scale : Nat) : Int)⟩

/-- The shortest decimal that reads back as a finite double, sign aside. Seventeen digits always
suffice. -/
def shortest (x : Binary64) : Decimal :=
  if x.magnitudeBits = 0 then ⟨0, 0⟩
  else
    let point := pointPosition x.fraction.1 x.fraction.2
    ((List.range 17).findSome? fun (count : Nat) => atPlace? x (point - (count + 1))).getD (exact x)

end Decimal

structure FloatLayout where
  /-- Digits before the point up to which whole numbers are written out. -/
  longestWhole : Int
  /-- Zeros right after the point up to which small numbers are written out. -/
  mostLeadingZeros : Int
  /-- Sign in front of exponents that are not negative. -/
  exponentPlus : List Char
  positiveInfinity : List Char
  negativeInfinity : List Char
  notANumber : List Char

namespace FloatLayout

def decimalDigits (value : Nat) : List Char :=
  Nat.toDigits 10 value

def layDigits (layout : FloatLayout) (digits : List Char) (point : Int) : List Char :=
  let count : Int := digits.length
  if count ≤ point ∧ point ≤ layout.longestWhole then
    digits ++ List.replicate (point - count).toNat '0' ++ ['.', '0']
  else if 0 < point ∧ point ≤ layout.longestWhole then
    digits.take point.toNat ++ ['.'] ++ digits.drop point.toNat
  else if -layout.mostLeadingZeros ≤ point ∧ point ≤ 0 then
    ['0', '.'] ++ List.replicate (-point).toNat '0' ++ digits
  else
    let exponent := point - 1
    let sign := if exponent < 0 then ['-'] else layout.exponentPlus
    let mantissa :=
      match digits with
      | [] => []
      | [digit] => [digit]
      | digit :: more => digit :: '.' :: more
    mantissa ++ ['e'] ++ sign ++ decimalDigits exponent.natAbs

def digitsAndPoint (d : Decimal) : List Char × Int :=
  let digits := decimalDigits d.digits
  let kept := (digits.reverse.dropWhile (· == '0')).reverse
  (if kept.isEmpty then ['0'] else kept, if d.digits = 0 then 1 else d.exponent + digits.length)

def render (layout : FloatLayout) (x : Binary64) : List Char :=
  if x.isNaN then layout.notANumber
  else if x.isInfinite then
    if x.negative then layout.negativeInfinity else layout.positiveInfinity
  else
    let (digits, point) := digitsAndPoint (Decimal.shortest x)
    let text := layout.layDigits digits point
    if x.negative then '-' :: text else text

end FloatLayout

/-- A decimal literal taken apart: the digits of both sides of the point as one number, and the
power of ten. There must be a digit on one side of the point, and one after an exponent mark. -/
def readDecimal? (text : List Char) : Option Decimal :=
  let whole := text.takeWhile Char.isDigit
  let rest := text.dropWhile Char.isDigit
  let (places, rest) :=
    match rest with
    | '.' :: more => (more.takeWhile Char.isDigit, more.dropWhile Char.isDigit)
    | _ => ([], rest)
  let digits := whole ++ places
  let value := digits.foldl (fun total digit => 10 * total + (digit.toNat - '0'.toNat)) 0
  if digits.isEmpty then none
  else
    match rest with
    | [] => some ⟨value, -places.length⟩
    | mark :: more =>
      let (negative, ten) :=
        match more with
        | '-' :: more => (true, more)
        | '+' :: more => (false, more)
        | more => (false, more)
      if (mark == 'e' || mark == 'E') && !ten.isEmpty && ten.all Char.isDigit then
        let power := ten.foldl (fun total digit => 10 * total + (digit.toNat - '0'.toNat)) 0
        some ⟨value, (if negative then -(power : Int) else power) - places.length⟩
      else none

inductive Number where
  | integer (value : Int)
  | float (value : Binary64)
deriving DecidableEq, Inhabited

namespace Number

def same : Number → Number → Bool
  | .integer a, .integer b => a == b
  | .float a, .float b => a.sameNumber b
  | _, _ => false

def toNat? : Number → Option Nat
  | .integer value => if 0 ≤ value then some value.toNat else none
  | .float _ => none

def isFinite : Number → Bool
  | .integer _ => true
  | .float value => value.isFinite

end Number

end PipelineAdvisor
