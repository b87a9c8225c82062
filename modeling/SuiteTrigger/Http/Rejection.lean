import SuiteTrigger.Http.Content
import SuiteTrigger.Http.Link
import SuiteTrigger.Http.RateLimit
import SuiteTrigger.Http.Status

/-!
# Answers that refuse

An answer carries a page of data when its status says that the request was carried out. All other
answers are rejections of the kind that their status tells; the text of a rejection is the message
in the answer, or the phrase of the status where there is no message. An answer whose body cannot
be read is neither.
-/

namespace SuiteTrigger.Http

inductive RejectionKind where
  | badRequest
  | unknownFault
  | rateLimit
  | invalidField
  | invalid
  | serverFault
  | redirection
  | other
  deriving DecidableEq

def RejectionKind.name : RejectionKind → String
  | .badRequest => "BadRequest"
  | .unknownFault => "BadRequestUnknownError"
  | .rateLimit => "RateLimitExceeded"
  | .invalidField => "InvalidField"
  | .invalid => "ValidationError"
  | .serverFault => "GitHubBroken"
  | .redirection => "RedirectionException"
  | .other => "HTTPException"

structure Rejection where
  kind : RejectionKind
  status : Int
  /-- The message of the answer can be any value. -/
  text : Json
  deriving DecidableEq

/-- A rejection as it is shown: its kind and, in brackets, what it says. -/
def Rejection.shown (r : Rejection) : String := r.kind.name ++ "(" ++ r.text.display ++ ")"

/-- Why a call gives nothing. -/
inductive CallError where
  | rejected (rejection : Rejection)
  | lost (error : NetworkError)
  | failure (failure : Failure)
  deriving DecidableEq

/-- The failure of a call: rejections and missing answers are transient and name the call, all
others stay what they are. -/
def CallError.toFailure (call : String) : CallError → Failure
  | .rejected r => .transient (call ++ " failed: " ++ r.shown)
  | .lost error => .transient (call ++ " failed: " ++ error.shown)
  | .failure f => f

/-- Data of an answer, and the address of the page after it. -/
structure Page where
  data : Json
  next : Option String
  deriving DecidableEq

/-- The items of a value that is gone through: those of a list, the keys of an object, the
characters of a text. -/
def itemsOf : Json → Except Failure (List Json)
  | .arr items => .ok items
  | .obj fields => .ok (fields.map fun field => .str field.1)
  | .str s => .ok (s.toList.map fun c => .str (String.singleton c))
  | _ => .error .wrongType

/-- The items of a page; an object may hold them in its field `items`. -/
def Page.items (page : Page) : Except Failure (List Json) :=
  itemsOf ((page.data.field? "items").getD page.data)

/-- The rejection of a registered status. -/
def rejectAs (kind : RejectionKind) (status : Int) (data : Json) : CallError :=
  match phrase? status with
  | none => .failure (.unknownStatus status)
  | some phrase =>
    let message := (data.field? "message").getD .null
    .rejected ⟨kind, status, if message.isTruthy then message else .str phrase⟩

/-! ### Errors of an invalid input

An error is a text or an entry, which is an object with a code, a field and a message. -/

namespace InputError

def fieldCodes : List String := ["missing", "missing_field", "invalid", "already_exists"]

def isAboutField : Json → Bool
  | .obj fields => fieldCodes.any fun code => fields.lookup "code" = some (.str code)
  | _ => false

/-- The field that an entry names; null when it names none. -/
def field? : Json → Option Json
  | .obj fields => some ((fields.lookup "field").getD .null)
  | _ => none

/-- What an error says; null when an entry says nothing. -/
def message : Json → Except Failure Json
  | .str s => .ok (.str s)
  | .obj fields => .ok ((fields.lookup "message").getD .null)
  | v => .error (.noMember v "get")

end InputError

def invalidStatus : Int := 422

def rejectInvalid (kind : RejectionKind) (text : String) : CallError :=
  .rejected ⟨kind, invalidStatus, .str text⟩

/-- The rejection of an invalid input whose errors are listed: the fields of the entries when one of
them is about a field, and otherwise what the errors say. -/
def rejectErrors (message : String) (errors : List Json) : Except Failure CallError := do
  let listed (values : List Json) := ", ".intercalate (values.map Json.display)
  if errors.any InputError.isAboutField then
    return rejectInvalid .invalidField
      (message ++ " for " ++ listed (errors.filterMap InputError.field?))
  else
    return rejectInvalid .invalid (message ++ ": " ++ listed (← errors.mapM InputError.message))

def rejectInput (data : Json) : CallError :=
  match data with
  | .obj fields =>
    let errors := (fields.lookup "errors").getD .null
    let message := ((fields.lookup "message").getD .null).text
    if !errors.isTruthy then
      match fields.lookup "message" with
      | some message => .rejected ⟨.invalidField, invalidStatus, message⟩
      | none => .failure (.missingKey "message")
    else match errors with
      | .str s => rejectInvalid .invalid (message ++ ": " ++ s)
      | errors =>
        match (itemsOf errors).bind (rejectErrors message) with
        | .ok error => error
        | .error f => .failure f
  | _ => rejectInvalid .unknownFault ((phrase? invalidStatus).getD "")

def rejectForbidden (answer : Answer) (data : Json) : CallError :=
  match RateLimit.read answer.headers with
  | .error f => .failure f
  | .ok limit =>
    if limit.any RateLimit.isExceeded then
      .rejected ⟨.rateLimit, answer.status, (data.field? "message").getD .null⟩
    else rejectAs .badRequest answer.status data

/-- Why an answer gives no page, by its status. -/
def reject (answer : Answer) (data : Json) : CallError :=
  let status := answer.status
  if 500 ≤ status then rejectAs .serverFault status data
  else if status = invalidStatus then rejectInput data
  else if status = 403 then rejectForbidden answer data
  else if 400 ≤ status then rejectAs .badRequest status data
  else if 300 ≤ status then rejectAs .redirection status data
  else rejectAs .other status data

/-- Reads an answer: its page, or why it has none. -/
def Answer.page (answer : Answer) : Except CallError Page :=
  match answer.body.content (answer.headers.lookup "content-type") with
  | .error f => .error (.failure f)
  | .ok content =>
    if isSuccess answer.status then
      match RateLimit.read answer.headers with
      | .error f => .error (.failure f)
      | .ok _ =>
        let next := (answer.headers.lookup "link").bind fun link => nextPage? link.toList
        .ok ⟨content.toJson, next.map String.ofList⟩
    else .error (reject answer content.toJson)

end SuiteTrigger.Http
