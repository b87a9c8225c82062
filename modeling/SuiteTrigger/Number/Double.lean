/-!
# Binary64 numbers

A number with a fraction or an exponent is kept as the binary64 number nearest to it: a significand
of at most 53 bits times a power of two, an infinity, or no number. Rounding is done in exact
integer arithmetic, and a tie goes to the even significand.
-/

namespace SuiteTrigger

/-- A binary64 number; the finite ones are `± significand * 2 ^ exponent`. -/
inductive Double where
  | nan
  | infinite (negative : Bool)
  | finite (negative : Bool) (significand : Nat) (exponent : Int)
  deriving DecidableEq, Inhabited

namespace Double

def twoTo (n : Nat) : Nat := Nat.pow 2 n

def tenTo (n : Nat) : Nat := Nat.pow 10 n

def minExponent : Int := -1074

def maxExponent : Int := 971

def zero (negative : Bool) : Double := .finite negative 0 minExponent

/-- The integer nearest to `num / den`, a tie to the even one. -/
def roundDiv (num den : Nat) : Nat :=
  let whole := num / den
  let rest := num % den
  if 2 * rest < den then whole
  else if den < 2 * rest then whole + 1
  else if whole % 2 = 0 then whole else whole + 1

/-- `num / den` divided by `2 ^ exponent`, as a numerator and a denominator. -/
def scale (num den : Nat) (exponent : Int) : Nat × Nat :=
  if 0 ≤ exponent then (num, den * twoTo exponent.toNat) else (num * twoTo (-exponent).toNat, den)

/-- The exponent at which `num / den` has a significand of 53 bits, or the least one. -/
def exponentFor (num den : Nat) : Int :=
  let guess : Int := num.log2 - den.log2 - 52
  let scaled := scale num den guess
  max (if scaled.1 / scaled.2 < twoTo 52 then guess - 1 else guess) minExponent

/-- The binary64 number nearest to `± num / den`. -/
def ofRatio (negative : Bool) (num den : Nat) : Double :=
  if num = 0 then zero negative
  else
    let exponent := exponentFor num den
    let scaled := scale num den exponent
    let rounded := roundDiv scaled.1 scaled.2
    let significand := if rounded = twoTo 53 then twoTo 52 else rounded
    let exponent := if rounded = twoTo 53 then exponent + 1 else exponent
    if maxExponent < exponent then .infinite negative else .finite negative significand exponent

/-- The binary64 number nearest to `± digits * 10 ^ exponent`. Far beyond the range of binary64 the
power of ten is not computed. -/
def ofDecimal (negative : Bool) (digits : Nat) (exponent : Int) : Double :=
  if digits = 0 then zero negative
  else if 400 < exponent then .infinite negative
  else if exponent < -(digits.log2 : Int) - 400 then zero negative
  else if 0 ≤ exponent then ofRatio negative (digits * tenTo exponent.toNat) 1
  else ofRatio negative digits (tenTo (-exponent).toNat)

/-- The integer that a number equals; none for a fraction, an infinity or no number. -/
def toInt? : Double → Option Int
  | .finite negative significand exponent =>
    let size :=
      if 0 ≤ exponent then some (significand * twoTo exponent.toNat)
      else if significand % twoTo (-exponent).toNat = 0 then
        some (significand / twoTo (-exponent).toNat)
      else none
    size.map fun size => if negative then -(size : Int) else size
  | _ => none

/-- The integer that is left when the fraction of a number is dropped. -/
def truncate? : Double → Option Int
  | .finite negative significand exponent =>
    let size :=
      if 0 ≤ exponent then significand * twoTo exponent.toNat
      else significand / twoTo (-exponent).toNat
    some (if negative then -(size : Int) else size)
  | _ => none

/-- The largest integer that is not above a number. -/
def floor? : Double → Option Int
  | .finite negative significand exponent =>
    if 0 ≤ exponent then
      let size : Int := significand * twoTo exponent.toNat
      some (if negative then -size else size)
    else
      let size : Int := significand
      some ((if negative then -size else size) / twoTo (-exponent).toNat)
  | _ => none

def isFinite : Double → Bool
  | .finite .. => true
  | _ => false

end Double

end SuiteTrigger
