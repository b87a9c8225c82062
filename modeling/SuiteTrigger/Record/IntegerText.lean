import SuiteTrigger.Number.Numeral
import SuiteTrigger.Text.Split

/-!
# Integers in text

A field for an integer may hold text. A numeral is taken as it stands: digits without a superfluous
zero, behind an optional minus sign. Other text is cleaned first: blanks around it, a plus sign, the
zeros at its start, a fraction of zeros and single underscores drop out, and a numeral has to be
left.
-/

namespace SuiteTrigger.IntegerText

open Text

/-- Why a text is no integer. -/
inductive Flaw where
  | notNumeral
  | tooManyDigits
  deriving DecidableEq

def isDigit (c : Char) : Bool := '0' ≤ c && c ≤ '9'

def isZero (c : Char) : Bool := c = '0'

/-- Whether a numeral without superfluous zeros may go on with a character: a digit but zero, or a
minus sign. -/
def isFirst (c : Char) : Bool := (isDigit c && !isZero c) || c = '-'

/-- Whether a minus sign stands at the start of a text, and the text after it. -/
def minusOf : List Char → Bool × List Char
  | '-' :: rest => (true, rest)
  | cs => (false, cs)

/-- Digits that are zero itself or do not begin with zero. -/
def isWhole : List Char → Bool
  | [] => false
  | c :: rest => if isZero c then rest.isEmpty else (c :: rest).all isDigit

/-- Whether the numeral that a text begins with has more digits than the limit. -/
def isTooLong (cs : List Char) : Bool :=
  match (minusOf cs).2.takeWhile isDigit with
  | [] => false
  | c :: rest => !isZero c && Numeral.digitLimit < rest.length + 1

/-- The integer of a numeral. -/
def numeral? (cs : List Char) : Option Int :=
  let (negative, digits) := minusOf cs
  if isWhole digits && !isTooLong cs then
    let size : Int := Numeral.natOfDigits (digits.map fun c => c.toNat - 48)
    some (if negative then -size else size)
  else none

/-- What follows zeros and underscores, of which `last` was the last. It stays before a point and at
the end of the text. -/
def afterZeros? (last : Char) : List Char → Option (List Char)
  | [] => some [last]
  | c :: rest =>
    if isZero c || c = '_' then afterZeros? c rest
    else if isFirst c then some (c :: rest)
    else if c = '.' then some (last :: c :: rest)
    else none

/-- A text without the zeros at its start; none where no numeral begins. -/
def dropZeros? : List Char → Option (List Char)
  | [] => none
  | c :: rest =>
    if isZero c then afterZeros? c rest
    else if isFirst c then some (c :: rest)
    else none

/-- Removes a fraction of zeros, point included; other text stays. -/
def dropFraction (cs : List Char) : List Char :=
  match cut? '.' cs with
  | some (whole, c :: places) => if (c :: places).all isZero then whole else cs
  | _ => cs

/-- Removes underscores that stand one by one inside a text; other text stays. -/
def dropUnderscores (cs : List Char) : List Char :=
  if (splitOn '_' cs).any (·.isEmpty) then cs else cs.filter (· ≠ '_')

/-- A text without what may stand around and inside a numeral. -/
def clean? (cs : List Char) : Option (List Char) :=
  let bare := match trimWhile isNumberBlank cs with
    | '+' :: '-' :: _ => none
    | '+' :: rest => dropZeros? rest
    | '-' :: rest => (dropZeros? rest).map ('-' :: ·)
    | rest => dropZeros? rest
  bare.map fun cs => dropUnderscores (dropFraction cs)

/-- The integer that a text spells. A text that begins with a numeral above the limit is refused for
its size, whatever follows. -/
def read (cs : List Char) : Except Flaw Int :=
  if isTooLong cs then .error .tooManyDigits
  else match (numeral? cs).orElse fun _ => (clean? cs).bind numeral? with
    | some n => .ok n
    | none => .error .notNumeral

end SuiteTrigger.IntegerText
