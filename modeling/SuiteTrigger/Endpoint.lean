import SuiteTrigger.Metrics
import SuiteTrigger.Text.DecimalDigit
import SuiteTrigger.Text.Split

/-!
# What a call was about

A call to the code host is counted by what its address is about: the token of an installation, or
the labels or comments of the leftmost issue in the address. An issue is named by one or more
decimal digits of any script.
-/

namespace SuiteTrigger.Endpoint

open Text

/-- What follows a run of at least one digit. -/
def afterDigits? (cs : List Char) : Option (List Char) :=
  match cs with
  | c :: rest => if isDigit c then some (rest.dropWhile isDigit) else none
  | [] => none

/-- The endpoint of an issue at the start of a text: `/issues/`, digits, `/` and its word. -/
def issueAt? (cs : List Char) : Option Endpoint :=
  ((afterStart? "/issues/".toList cs).bind afterDigits?).bind fun rest =>
    if (afterStart? "/labels".toList rest).isSome then some .labels
    else if (afterStart? "/comments".toList rest).isSome then some .comments
    else none

/-- The endpoint of the leftmost issue in a text. -/
def issueIn? : List Char → Option Endpoint
  | [] => none
  | c :: rest => (issueAt? (c :: rest)).orElse fun _ => issueIn? rest

def ofUrl (url : String) : Endpoint :=
  if url = "installation_token" || occursIn "access_tokens".toList url.toList then
    .installationToken
  else (issueIn? url.toList).getD .other

end SuiteTrigger.Endpoint
