import SuiteTrigger.Number.Double

/-!
# The shortest text of a binary64 number

A binary64 number is written with the fewest decimal digits that read back as it, the nearest such
digits when there are several. Numbers of one to sixteen whole digits, and small ones down to four
places, are written positionally and always with a point; the rest have a signed exponent of at
least two digits.
-/

namespace SuiteTrigger.Double

/-- A positive number `num / den`, and the ends of the interval of numbers that round to it, as
multiples of `1 / den`. -/
structure Neighbourhood where
  num : Nat
  den : Nat
  low : Nat
  high : Nat
  /-- Whether the ends round to the number too. -/
  closed : Bool

/-- The interval around `significand * 2 ^ exponent`: half a unit to each side, a quarter below a
power of two. -/
def Neighbourhood.of (significand : Nat) (exponent : Int) : Neighbourhood :=
  let below := if significand = twoTo 52 ∧ minExponent < exponent then 1 else 2
  let up := if 2 ≤ exponent then twoTo (exponent - 2).toNat else 1
  let den := if 2 ≤ exponent then 1 else twoTo (2 - exponent).toNat
  { num := 4 * significand * up
    den
    low := (4 * significand - below) * up
    high := (4 * significand + 2) * up
    closed := significand % 2 = 0 }

/-- The ten's power below a positive number: `10 ^ e ≤ num / den < 10 ^ (e + 1)`. -/
def decimalExponent (num den : Nat) : Int :=
  let guess : Int := ((num.log2 : Int) - den.log2) * 1233 / 4096
  let reaches (e : Int) : Bool :=
    if 0 ≤ e then den * tenTo e.toNat ≤ num else den ≤ num * tenTo (-e).toNat
  if reaches (guess + 1) then guess + 1
  else if reaches guess then guess
  else guess - 1

/-- The digits of the point of the grid `10 ^ place` that lies in the interval and is nearest to the
number, of two equally near the even one; none when no point of the grid lies in it. -/
def Neighbourhood.onGrid? (n : Neighbourhood) (place : Int) : Option Nat :=
  let unit := if 0 ≤ place then n.den * tenTo place.toNat else n.den
  let up := if 0 ≤ place then 1 else tenTo (-place).toNat
  let num := n.num * up
  let inside (digits : Nat) : Bool :=
    let point := digits * unit
    if n.closed then n.low * up ≤ point && point ≤ n.high * up
    else n.low * up < point && point < n.high * up
  let below := num / unit
  match inside below, inside (below + 1) with
  | true, true => some (roundDiv num unit)
  | true, false => some below
  | false, true => some (below + 1)
  | false, false => none

/-- The fewest digits that read back as a positive number, and the place of the last one. -/
def shortestDigits (significand : Nat) (exponent : Int) : Nat × Int :=
  let n := Neighbourhood.of significand exponent
  let top := decimalExponent n.num n.den
  let found := (List.range 17).findSome? fun (more : Nat) =>
    let place := top - more
    (n.onGrid? place).map fun digits => (digits, place)
  found.getD (0, 0)

/-- Digits with a point before the digit `point`, counted from the first one. -/
def positional (digits : List Char) (point : Int) : List Char :=
  if point ≤ 0 then '0' :: '.' :: List.replicate (-point).toNat '0' ++ digits
  else
    let whole := point.toNat
    let padded := digits ++ List.replicate (whole - digits.length) '0'
    let fraction := padded.drop whole
    padded.take whole ++ '.' :: (if fraction.isEmpty then ['0'] else fraction)

/-- Digits with a point after the first one and a power of ten. -/
def scientific (digits : List Char) (exponent : Int) : List Char :=
  let fraction := digits.drop 1
  let size := (toString exponent.natAbs).toList
  digits.take 1 ++ (if fraction.isEmpty then [] else '.' :: fraction) ++
    'e' :: (if exponent < 0 then '-' else '+') ::
      (List.replicate (2 - size.length) '0' ++ size)

/-- The text of the digits `digits * 10 ^ place`. -/
def layout (digits : Nat) (place : Int) : List Char :=
  let written := (toString digits).toList
  let point := place + written.length
  let significant := (written.reverse.dropWhile (· = '0')).reverse
  if -4 < point ∧ point ≤ 16 then positional significant point
  else scientific significant (point - 1)

def text : Double → String
  | .nan => "nan"
  | .infinite negative => if negative then "-inf" else "inf"
  | .finite negative significand exponent =>
    let sign := if negative then "-" else ""
    if significand = 0 then sign ++ "0.0"
    else
      let (digits, place) := shortestDigits significand exponent
      sign ++ String.ofList (layout digits place)

end SuiteTrigger.Double
