import SuiteTrigger.Pipeline.Handling

/-!
# Dispatching deliveries

Deliveries of pull request events are handled; others lead to nothing. A private repository is
served only when the settings list its full name.
-/

namespace SuiteTrigger

def Settings.serves (settings : Settings) (repository : Repository) : Bool :=
  repository.isPrivate != some true ||
    match settings.allowlist, repository.fullName with
    | some names, some name => names.contains name
    | _, _ => false

namespace Pipeline

variable {σ : Type}

/-- Whether a repository is served, with a warning when it is not. -/
def letsThrough (settings : Settings) (repository : Repository) : Work σ Bool := do
  if settings.serves repository then return true
  else
    Work.log .warning
      ("Webhook triggered on private repository: " ++ repository.htmlUrl.getD "None")
    return false

/-- The repository of a payload, which was read before. -/
def repositoryOf (payload : Event.Payload) : Except Failure Repository :=
  match payload.lookup "repository" with
  | none => .error (.missingKey "repository")
  | some v =>
    match Repository.read v with
    | .ok repository => .ok repository
    | .error refusal => .error (.refused refusal)

/-- Handles a delivery of a pull request event, unless its repository is not served. The event is
read first: a broken repository section is a malformed event. -/
def onPullRequest (p : Platform σ) (settings : Settings) (options : Options) (name : String)
    (payload : Event.Payload) : Work σ Unit := do
  let action := ((payload.lookup "action").getD .null).text
  Work.log .debug s!"Received {name} event, action {action}"
  let event ← Work.ofExcept (Event.ofDelivered name (.obj payload))
  let repository ← Work.ofExcept (repositoryOf payload)
  if ← letsThrough settings repository then
    let _ ← handleEvent p options event
  else Work.count (.skipped name .isPrivate)

/-- Hands a delivery to what handles events of its name, if anything does. -/
def dispatch (p : Platform σ) (settings : Settings) (options : Options) (name : String)
    (data : Json) : Work σ Unit :=
  match EventKind.ofName? name, data with
  | none, _ => pure ()
  | some _, .obj payload => onPullRequest p settings options name payload
  | some _, data => Work.fail (.noMember data "get")

end Pipeline

end SuiteTrigger
