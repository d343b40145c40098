/-!
Double precision numbers as their 64 bits, with exact arithmetic on the values they stand for. Every
operation computes the exact result as a fraction and rounds it once, to the nearest double and on a
tie to the even one. `orderKey` is the total order of all bit patterns.
-/

namespace PipelineAdvisor

structure Binary64 where
  bits : UInt64
deriving DecidableEq, Inhabited

namespace Binary64

def signBit : Nat := Nat.pow 2 63

/-- The distance of two patterns whose exponent fields differ by one. -/
def exponentUnit : Nat := Nat.pow 2 52

def infinityBits : Nat := 2047 * Nat.pow 2 52

def magnitudeBits (x : Binary64) : Nat :=
  x.bits.toNat % signBit

def negative (x : Binary64) : Bool :=
  signBit ≤ x.bits.toNat

def isNaN (x : Binary64) : Bool :=
  infinityBits < x.magnitudeBits

def isInfinite (x : Binary64) : Bool :=
  x.magnitudeBits == infinityBits

def isFinite (x : Binary64) : Bool :=
  x.magnitudeBits < infinityBits

def ofMagnitude (negative : Bool) (magnitude : Nat) : Binary64 :=
  ⟨UInt64.ofNat (if negative then signBit + magnitude else magnitude)⟩

def zero (negative : Bool) : Binary64 := ofMagnitude negative 0

def infinity (negative : Bool) : Binary64 := ofMagnitude negative infinityBits

def nan (negative : Bool) : Binary64 := ofMagnitude negative (infinityBits + Nat.pow 2 51)

/-- The whole number `m` of the value `m * 2 ^ power` of a finite double, sign aside. -/
def significand (x : Binary64) : Nat :=
  let fraction := x.magnitudeBits % exponentUnit
  if x.magnitudeBits / exponentUnit = 0 then fraction else exponentUnit + fraction

/-- The power of two of a finite double, `2 ^ (scale - 1074)`, shifted to be a natural number. -/
def scale (x : Binary64) : Nat :=
  x.magnitudeBits / exponentUnit - 1

def fraction (x : Binary64) : Nat × Nat :=
  if 1074 ≤ x.scale then (x.significand * Nat.pow 2 (x.scale - 1074), 1)
  else (x.significand, Nat.pow 2 (1074 - x.scale))

def divideToEven (numerator denominator : Nat) : Nat :=
  let quotient := numerator / denominator
  let twiceRest := 2 * (numerator % denominator)
  if twiceRest < denominator then quotient
  else if denominator < twiceRest then quotient + 1
  else quotient + quotient % 2

def scaleOf (numerator denominator : Nat) : Nat :=
  let guess := if numerator = 0 then 0 else numerator.log2 + 1074 - (denominator.log2 + 53)
  if numerator * Nat.pow 2 1074 / (denominator * Nat.pow 2 guess) < Nat.pow 2 53 then guess
  else guess + 1

/-- The double nearest to a fraction, on a tie the one with an even significand; infinity when the
fraction is too large. -/
def ofFraction (negative : Bool) (numerator denominator : Nat) : Binary64 :=
  let scale := scaleOf numerator denominator
  let significand := divideToEven (numerator * Nat.pow 2 1074) (denominator * Nat.pow 2 scale)
  ofMagnitude negative (min infinityBits (scale * exponentUnit + significand))

def ofNat (value : Nat) : Binary64 :=
  ofFraction false value 1

/-- The double nearest to `digits * 10 ^ exponent`. Exponents far out of range are decided by the
number of digits alone. -/
def ofDecimal (negative : Bool) (digits : Nat) (exponent : Int) : Binary64 :=
  let place := exponent + (Nat.toDigits 10 digits).length
  if digits = 0 ∨ place < -330 then zero negative
  else if 310 < place then infinity negative
  else if 0 ≤ exponent then ofFraction negative (digits * Nat.pow 10 exponent.toNat) 1
  else ofFraction negative digits (Nat.pow 10 (-exponent).toNat)

def signedFraction (x : Binary64) : Int × Nat :=
  let (numerator, denominator) := x.fraction
  (if x.negative then -numerator else numerator, denominator)

def ofSigned (numerator : Int) (denominator : Nat) : Binary64 :=
  ofFraction (numerator < 0) numerator.natAbs denominator

def add (x y : Binary64) : Binary64 :=
  let (a, b) := x.signedFraction
  let (c, d) := y.signedFraction
  ofSigned (a * d + c * b) (b * d)

def sub (x y : Binary64) : Binary64 :=
  let (a, b) := x.signedFraction
  let (c, d) := y.signedFraction
  ofSigned (a * d - c * b) (b * d)

def mul (x y : Binary64) : Binary64 :=
  let (a, b) := x.signedFraction
  let (c, d) := y.signedFraction
  ofSigned (a * c) (b * d)

def div (x y : Binary64) : Binary64 :=
  let (a, b) := x.signedFraction
  let (c, d) := y.signedFraction
  ofSigned (a * d) (b * c.toNat)

/-- The whole number nearest to a finite double, a half upwards; zero for what is negative. -/
def roundHalfUp (x : Binary64) : Nat :=
  let (numerator, denominator) := x.fraction
  if x.negative then 0 else (2 * numerator + denominator) / (2 * denominator)

/-- Equality of numbers: both zeros are one number, and all not-a-number patterns count as one. -/
def sameNumber (x y : Binary64) : Bool :=
  (x.isNaN && y.isNaN) || (!x.isNaN && !y.isNaN &&
    (x.bits == y.bits || (x.magnitudeBits == 0 && y.magnitudeBits == 0)))

/-- Position of a pattern in the total order: negative ones first, larger magnitudes further out, so
that every pattern has its own place. -/
def orderKey (x : Binary64) : Int :=
  if x.negative then -(x.magnitudeBits : Int) - 1 else x.magnitudeBits

end Binary64

end PipelineAdvisor
