import SuiteTrigger.Http.Message

namespace SuiteTrigger.Http

structure RateLimit where
  remaining : Int
  /-- The instant from which on requests are allowed anew. -/
  reset : Int
  deriving DecidableEq

namespace RateLimit

def checkInt (text : String) : Except Failure Int :=
  (Numeral.readInt text).mapError .badNumeral

def checkInstant (text : String) : Except Failure Int := do
  let number ← (Numeral.readDouble text).mapError Failure.badNumeral
  (Instant.ofDouble number).mapError .badInstant

/-- The limit that headers tell. Every number is checked up to the first header that is missing,
and the instant only when it is complete. -/
def read (headers : Headers) : Except Failure (Option RateLimit) := do
  let some limit := headers.lookup "x-ratelimit-limit" | return none
  let _ ← checkInt limit
  let some remaining := headers.lookup "x-ratelimit-remaining" | return none
  let remaining ← checkInt remaining
  let some reset := headers.lookup "x-ratelimit-reset" | return none
  return some ⟨remaining, ← checkInstant reset⟩

/-- Whether a refused request was one too many: none remain. -/
def isExceeded (limit : RateLimit) : Bool := limit.remaining = 0

end RateLimit

end SuiteTrigger.Http
