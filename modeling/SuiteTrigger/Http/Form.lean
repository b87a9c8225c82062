import SuiteTrigger.Encoding.Percent
import SuiteTrigger.Text.Split

namespace SuiteTrigger.Http.Form

/-- A name or value as it was before it was encoded. -/
def decodePart (cs : List Char) : List Char :=
  Percent.decodeLossy (cs.map fun c => if c = '+' then ' ' else c)

def field? (cs : List Char) : Option (String × String) :=
  match Text.cut? '=' cs with
  | some (_, []) => none
  | some (name, value) => some (String.ofList (decodePart name), String.ofList (decodePart value))
  | none => none

def fields (cs : List Char) : List (String × String) :=
  (Text.splitOn '&' cs).filterMap field?

end SuiteTrigger.Http.Form
