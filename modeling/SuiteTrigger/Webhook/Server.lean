import SuiteTrigger.Http.Accept
import SuiteTrigger.Webhook.Incoming

/-!
# The webhook server

The server has three routes: a status check, the webhook, and the counters. Every request is
counted by its path, except those for the counters. A request without a path fails, and so does one
that has no route and does not tell which media types it takes.
-/

namespace SuiteTrigger.Webhook

/-- An answer to a request; pages that are not the program's own have no text. -/
structure Response where
  status : Nat
  text : Option String
  deriving DecidableEq

inductive Route where
  | status
  | webhook
  | metrics
  deriving DecidableEq

namespace Route

def all : List Route := [status, webhook, metrics]

def path : Route → String
  | .status => "/status"
  | .webhook => "/webhook"
  | .metrics => "/metrics"

def method : Route → String
  | .status => "GET"
  | .webhook => "POST"
  | .metrics => "GET"

/-- The route of a path; slashes at its end do not count. -/
def ofPath? (path : String) : Option Route :=
  let name := Text.dropEndWhile (· = '/') (path.toList.drop 1)
  all.find? fun route => route.path.toList.drop 1 = name

end Route

variable {σ : Type}

def receive (p : Platform σ) (settings : Settings) (connect : Json → Work σ Unit) (i : Incoming) :
    Work σ Response := do
  Work.log .debug "Webhook received"
  match i.delivery settings.webhookSecret with
  | .error (.invalid reason) =>
    Work.count (.error .webhookValidation)
    Work.log .warning ("Rejecting webhook: " ++ reason)
    return ⟨400, some "invalid webhook"⟩
  | .error .failed => return ⟨500, none⟩
  | .ok delivery =>
    match ← Work.attempt (Pipeline.deliver p settings connect delivery) with
    | .ok status => return ⟨status.code, some ""⟩
    | .error _ => return ⟨500, none⟩

/-- The answer to a request without a route: a page in one of the media types that the sender
takes. -/
def refuse (status : Nat) (i : Incoming) : Response :=
  if (i.headers.lookup "accept").all Http.Accept.isList then ⟨status, none⟩ else ⟨500, none⟩

def respond (p : Platform σ) (settings : Settings) (connect : Json → Work σ Unit)
    (i : Incoming) : Work σ Response := do
  let some path := i.path? | return ⟨500, none⟩
  if path ≠ Route.metrics.path then Work.count (.request path)
  match Route.ofPath? path with
  | none => return refuse 404 i
  | some route =>
    if i.method ≠ route.method then return refuse 405 i
    else match route with
      | .status =>
        Work.log .debug "status check"
        return ⟨200, some "ok"⟩
      | .metrics => return ⟨200, none⟩
      | .webhook => receive p settings connect i

/-- What a request was answered, and what it counted and logged. -/
structure Served (σ : Type) where
  response : Response
  journal : Journal
  /-- The platform as the request left it. -/
  platform : σ

/-- The answer to a request on a platform. -/
def serveOne (p : Platform σ) (settings : Settings) (connect : Json → Work σ Unit)
    (platform : σ) (i : Incoming) : Served σ :=
  let (outcome, scene) := (respond p settings connect i).on ⟨platform, .empty⟩
  ⟨outcome.toOption.getD ⟨500, none⟩, scene.journal, scene.platform⟩

/-- The answers to requests that come one after another. -/
def serve (p : Platform σ) (settings : Settings) (connect : Json → Work σ Unit) :
    σ → List Incoming → List (Served σ)
  | _, [] => []
  | platform, i :: rest =>
    let served := serveOne p settings connect platform i
    served :: serve p settings connect served.platform rest

/-- The least severity that is logged; an unknown threshold keeps the server from starting. -/
def logSeverity (settings : Settings) : Except Failure Nat :=
  match settings.logThreshold with
  | .severity least => .ok least
  | .unknown name => .error (.unknownThreshold name)

end SuiteTrigger.Webhook
