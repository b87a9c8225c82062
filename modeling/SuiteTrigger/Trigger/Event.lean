import SuiteTrigger.Resource
import SuiteTrigger.Text.LowerCase
import SuiteTrigger.Text.Quoted
import SuiteTrigger.Trigger.LabelSet

/-!
# Pull request events

A delivered payload becomes an event on a pull request: new code, a submitted review, or something
that is ignored. A payload that lacks what its event needs is malformed; the first failing check, in
the order event name, action, repository, pull request, review, says why.
-/

namespace SuiteTrigger

/-- The kinds of deliveries that are handled. -/
inductive EventKind where
  | pullRequest
  | review
  deriving DecidableEq

namespace EventKind

def name : EventKind → String
  | .pullRequest => "pull_request"
  | .review => "pull_request_review"

def ofName? (name : String) : Option EventKind :=
  if name = EventKind.pullRequest.name then some .pullRequest
  else if name = EventKind.review.name then some .review
  else none

end EventKind

/-- The pull request that an event is about. -/
structure PullRequestRef where
  repoUrl : String
  number : Int
  fullName : Option String
  headSha : Option String
  /-- The labels that the payload lists; they serve planning only. -/
  inlineLabels : Option LabelSet
  deriving DecidableEq

/-- A pull request in messages: the full name of its repository, or the address where there is no
name, and its number. -/
def PullRequestRef.describe (pr : PullRequestRef) : String :=
  let name := match pr.fullName with
    | some name => if name.isEmpty then pr.repoUrl else name
    | none => pr.repoUrl
  s!"PR({name}#{pr.number})"

inductive ReviewOutcome where
  | approved
  | changesRequested
  | commented
  deriving DecidableEq

namespace ReviewOutcome

def name : ReviewOutcome → String
  | .approved => "approved"
  | .changesRequested => "changes_requested"
  | .commented => "commented"

def ofName? (name : String) : Option ReviewOutcome :=
  [approved, changesRequested, commented].find? fun outcome => outcome.name = name

/-- The outcome that the state of a review names in any letter case. -/
def ofState? (state : String) : Option ReviewOutcome := ofName? (Text.lower state)

end ReviewOutcome

inductive Event where
  /-- New code on the pull request. -/
  | codePush (pr : PullRequestRef) (action : String)
  | reviewSubmitted (pr : PullRequestRef) (outcome : ReviewOutcome)
  | ignored (pr : PullRequestRef) (kind : String) (action : String)
  deriving DecidableEq

/-- Why a payload is no event. -/
inductive MalformedEvent where
  | unsupported (event : String)
  | noAction (event : String)
  | noSection (name : String)
  | refused (refusal : Refusal)
  | noReview
  | unknownState (state : String)
  deriving DecidableEq

def MalformedEvent.message : MalformedEvent → String
  | .unsupported event => "Unsupported event type " ++ Text.quote event
  | .noAction event => event ++ " payload has no action"
  | .noSection name => "Payload has no " ++ Text.quote name ++ " field"
  | .refused refusal => refusal.headline
  | .noReview => "Review payload has no 'review' field"
  | .unknownState state => "Unknown review state " ++ Text.quote state

namespace Event

def pr : Event → PullRequestRef
  | .codePush pr _ => pr
  | .reviewSubmitted pr _ => pr
  | .ignored pr _ _ => pr

def typeName : Event → String
  | .codePush .. => "CodePush"
  | .reviewSubmitted .. => "ReviewSubmitted"
  | .ignored .. => "Ignored"

/-- The actions of a pull request that bring new code. -/
def pushActions : List String := ["opened", "synchronize", "reopened"]

/-- The action of a review that submits it. -/
def submitAction : String := "submitted"

abbrev Payload := List (String × Json)

def refusedBy {α : Type} : Except Refusal α → Except MalformedEvent α
  | .ok value => .ok value
  | .error refusal => .error (.refused refusal)

def section? (payload : Payload) (name : String) : Except MalformedEvent Json :=
  match payload.lookup name with
  | some v => .ok v
  | none => .error (.noSection name)

def reference (payload : Payload) : Except MalformedEvent PullRequestRef := do
  let repository ← refusedBy (Repository.read (← section? payload "repository"))
  let pullRequest ← refusedBy (PullRequest.read (← section? payload "pull_request"))
  return {
    repoUrl := repository.url
    number := pullRequest.number
    fullName := repository.fullName
    headSha := pullRequest.head.map (·.sha)
    inlineLabels := some (LabelSet.ofList (pullRequest.labels.map (·.name))) }

/-- The outcome of the review that a payload holds. -/
def reviewOutcome (payload : Payload) : Except MalformedEvent ReviewOutcome :=
  match payload.lookup "review" with
  | none => .error .noReview
  | some v => do
    let review ← refusedBy (Review.read v)
    match ReviewOutcome.ofState? review.state with
    | some outcome => return outcome
    | none => throw (.unknownState review.state)

/-- The event that a delivery of the given name carries. -/
def ofPayload (name : String) (payload : Payload) : Except MalformedEvent Event := do
  let some kind := EventKind.ofName? name | throw (.unsupported name)
  let some (.str action) := payload.lookup "action" | throw (.noAction name)
  let pr ← reference payload
  match kind with
  | .pullRequest =>
    return if pushActions.contains action then .codePush pr action else .ignored pr name action
  | .review =>
    if action = submitAction then return .reviewSubmitted pr (← reviewOutcome payload)
    else return .ignored pr name action

end Event

end SuiteTrigger
