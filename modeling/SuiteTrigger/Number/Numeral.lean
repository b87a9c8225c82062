import SuiteTrigger.Number.Double
import SuiteTrigger.Text.Blank
import SuiteTrigger.Text.DecimalDigit

/-!
# Numerals in settings

A number in a setting may stand between blanks, have a sign, be written in the decimal digits of any
script and have single underscores between its digits. An integer of more than 4300 digits is
refused before it is read.
-/

namespace SuiteTrigger

/-- What keeps a text from being read as an integer. -/
inductive NumeralError where
  | notInteger (text : String)
  | tooManyDigits (count : Nat)
  | notNumber (text : String)
  deriving DecidableEq

namespace Numeral

open Text

def digitLimit : Nat := 4300

/-- The number that digits spell, most significant first. -/
def natOfDigits (digits : List Nat) : Nat := digits.foldl (fun n d => 10 * n + d) 0

/-- A run of digits with single underscores between them, and what follows it. No run is found where
no digit stands, and none that has an underscore at its end or two in a row. -/
def digitRun? : List Char → Option (List Nat × List Char)
  | [] => none
  | c :: rest =>
    (digitValue? c).bind fun value =>
      match rest with
      | '_' :: rest =>
        (digitRun? rest).map fun run => (value :: run.1, run.2)
      | rest =>
        match digitRun? rest with
        | some run => some (value :: run.1, run.2)
        | none =>
          match rest with
          | [] => some ([value], [])
          | d :: rest => if isDigit d then none else some ([value], d :: rest)

/-- A sign, where there is one, and what follows it. -/
def signOf : List Char → Bool × List Char
  | '-' :: rest => (true, rest)
  | '+' :: rest => (false, rest)
  | rest => (false, rest)

/-- The integer that a text spells. -/
def readInt (s : String) : Except NumeralError Int :=
  let (negative, rest) := signOf (s.toList.dropWhile isNumberBlank)
  match digitRun? rest with
  | none => .error (.notInteger s)
  | some (digits, rest) =>
    if digitLimit < digits.length then .error (.tooManyDigits digits.length)
    else if rest.all isNumberBlank then
      let size := natOfDigits digits
      .ok (if negative then -(size : Int) else size)
    else .error (.notInteger s)

/-- The power of ten after `e` or `E`; zero where there is none. -/
def exponentPart? : List Char → Option (Int × List Char)
  | c :: rest =>
    if c = 'e' ∨ c = 'E' then
      let (negative, rest) := signOf rest
      (digitRun? rest).map fun run =>
        let size := natOfDigits run.1
        (if negative then -(size : Int) else size, run.2)
    else some (0, c :: rest)
  | [] => some (0, [])

/-- Digits with an optional point among them, at least one digit in all: the digits, and how many
of them follow the point. -/
def mantissa? (cs : List Char) : Option (List Nat × Nat × List Char) :=
  match digitRun? cs with
  | some (whole, '.' :: rest) =>
    match digitRun? rest with
    | some (fraction, rest) => some (whole ++ fraction, fraction.length, rest)
    | none =>
      match rest with
      | '_' :: _ => none
      | rest => some (whole, 0, rest)
  | some (whole, rest) => some (whole, 0, rest)
  | none =>
    match cs with
    | '.' :: rest => (digitRun? rest).map fun run => (run.1, run.1.length, run.2)
    | _ => none

/-- The names of the numbers that have no digits, in lower case. -/
def named? (negative : Bool) (cs : List Char) : Option Double :=
  let name := String.ofList (cs.map Char.toLower)
  if name = "inf" ∨ name = "infinity" then some (.infinite negative)
  else if name = "nan" then some .nan
  else none

/-- The binary64 number nearest to what a text spells. -/
def readDouble (s : String) : Except NumeralError Double :=
  let (negative, rest) := signOf (trimWhile isNumberBlank s.toList)
  match named? negative rest with
  | some value => .ok value
  | none =>
    match mantissa? rest with
    | some (digits, places, rest) =>
      match exponentPart? rest with
      | some (exponent, []) =>
        .ok (Double.ofDecimal negative (natOfDigits digits) (exponent - places))
      | _ => .error (.notNumber s)
    | none => .error (.notNumber s)

end Numeral

end SuiteTrigger
