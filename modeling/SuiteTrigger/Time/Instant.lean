import SuiteTrigger.Number.Double
import SuiteTrigger.Time.Year

namespace SuiteTrigger

/-- Why a number stands for no instant. -/
inductive InstantError where
  | notNumber
  | beyondSeconds
  | beyondYears
  /-- The year as it is told. -/
  | noSuchYear (year : Int)
  deriving DecidableEq

namespace Instant

def secondsOfDay : Int := 86400

def firstDay : Int := 719162

/-- The furthest number of seconds, on either side of 1970. -/
def secondLimit : Int := 9223372036854775808

/-- The first number above the words of 32 bits. -/
def yearLimit : Int := 2147483648

/-- The year in which years begin to be counted in a word. -/
def yearBase : Int := 1900

def firstYear : Int := 1

def lastYear : Int := 9999

def year (seconds : Int) : Int := Year.ofDay (seconds / secondsOfDay + firstDay)

/-- Checks an instant. A year that is told is a word as well. -/
def check (seconds : Int) : Except InstantError Int :=
  let y := year seconds
  if seconds < -secondLimit ∨ secondLimit < seconds then .error .beyondSeconds
  else if y - yearBase < -yearLimit ∨ yearLimit ≤ y - yearBase then .error .beyondYears
  else if firstYear ≤ y ∧ y ≤ lastYear then .ok seconds
  else .error (.noSuchYear (Int.bmod y (2 * yearLimit).toNat))

/-- The instant that a number stands for; a fraction of a second is dropped. -/
def ofDouble (x : Double) : Except InstantError Int :=
  match x.floor? with
  | some seconds => check seconds
  | none => .error (if x = .nan then .notNumber else .beyondSeconds)

end Instant

def InstantError.message : InstantError → String
  | .notNumber => "Invalid value NaN (not a number)"
  | .beyondSeconds => "timestamp out of range for platform time_t"
  | .beyondYears => "[Errno 75] Value too large for defined data type"
  | .noSuchYear year => s!"year {year} is out of range"

end SuiteTrigger
