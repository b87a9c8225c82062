namespace SuiteTrigger.Year

/-- The days of four hundred years, of a hundred years without a leap day at their end, of four
years and of one. -/
def cycleDays : Int := 146097

def centuryDays : Int := 36524

def leapDays : Int := 1461

def commonDays : Int := 365

/-- The year in which a day lies. The last century of a cycle and the last year of four have one day
more than the others, so no fifth one begins there. -/
def ofDay (day : Int) : Int :=
  let inCycle := day % cycleDays
  let century := min 3 (inCycle / centuryDays)
  let inCentury := inCycle - century * centuryDays
  let inLeap := inCentury % leapDays
  400 * (day / cycleDays) + 100 * century + 4 * (inCentury / leapDays) +
    min 3 (inLeap / commonDays) + 1

end SuiteTrigger.Year
