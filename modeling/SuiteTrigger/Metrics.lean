import SuiteTrigger.Trigger.Action

namespace SuiteTrigger

/-- Why a webhook was skipped. -/
inductive SkipReason where
  | event
  | isPrivate
  | action
  deriving DecidableEq

/-- What became of an action. -/
inductive ActionResult where
  | applied
  | noop
  | dryRun
  | failed
  deriving DecidableEq

/-- Where an error was met. -/
inductive ErrorContext where
  | malformedEvent
  | eventDispatch
  | webhookValidation
  deriving DecidableEq

/-- What a call to the code host was about. -/
inductive Endpoint where
  | installationToken
  | labels
  | comments
  | other
  deriving DecidableEq

inductive Counter where
  | request (path : String)
  | webhook (event : String)
  | skipped (event : String) (reason : SkipReason)
  | action (kind : ActionKind) (result : ActionResult)
  | error (context : ErrorContext)
  | apiCall (endpoint : Endpoint)
  deriving DecidableEq

def SkipReason.name : SkipReason → String
  | .event => "event"
  | .isPrivate => "private"
  | .action => "action"

def ActionResult.name : ActionResult → String
  | .applied => "applied"
  | .noop => "noop"
  | .dryRun => "dry_run"
  | .failed => "failed"

def ErrorContext.name : ErrorContext → String
  | .malformedEvent => "malformed_event"
  | .eventDispatch => "event_dispatch"
  | .webhookValidation => "webhook_validation"

def Endpoint.name : Endpoint → String
  | .installationToken => "installation_token"
  | .labels => "labels"
  | .comments => "comments"
  | .other => "other"

/-- A counter with its labels, as it is exposed. -/
def Counter.series (c : Counter) : String :=
  let (family, labels) := match c with
    | .request path => ("cigate_num_req", "path=" ++ path)
    | .webhook event => ("cigate_num_webhook", "event=" ++ event)
    | .skipped event reason =>
      ("cigate_num_webhook_skipped", "event=" ++ event ++ ",reason=" ++ reason.name)
    | .action kind result =>
      ("cigate_num_actions", "kind=" ++ kind.name ++ ",result=" ++ result.name)
    | .error context => ("cigate_error_counter", "context=" ++ context.name)
    | .apiCall endpoint => ("cigate_num_api_calls", "endpoint=" ++ endpoint.name)
  family ++ "\x7b" ++ labels ++ "\x7d"

/-- How far each counter was moved, in the order of their first moves. -/
def Counter.totals (moves : List Counter) : List (Counter × Nat) :=
  moves.eraseDups.map fun c => (c, moves.count c)

end SuiteTrigger
