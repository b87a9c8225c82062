import SuiteTrigger.Platform.Basic
import SuiteTrigger.Text.Blank

/-!
# Carrying out actions

Actions are carried out on one pull request in order. Label changes may be repeated without harm.
The first action that fails ends the run: what was applied before it stays applied, and the next
event decides anew from the labels as they are then. A dry run only tells what it would do.
-/

namespace SuiteTrigger.Execution

variable {σ : Type}

/-- Where a comment stands: its address, or its number when it has no address. -/
def commentPlace (c : Comment) : String :=
  match c.htmlUrl with
  | some url => if url.isEmpty then toString c.id else url
  | none => toString c.id

/-- Whether two comments say the same, blanks at their ends aside. -/
def sameText (body : String) (c : Comment) : Bool := Text.strip c.body = Text.strip body

/-- Whether a comment is to be held back, because it may not be repeated and stands there already.
-/
def isRepeat (p : Platform σ) (pr : PullRequestRef) (body : String) (allowRepeats : Bool) :
    Work σ Bool :=
  if allowRepeats then pure false else p.anyComment pr.issue (sameText body)

/-- Posts a comment and tells where it stands. -/
def post (p : Platform σ) (pr : PullRequestRef) (body : String) : Work σ ActionResult := do
  let comment ← p.postComment pr.issue body
  Work.log .info s!"{pr.describe}: posted comment {commentPlace comment}"
  return .applied

def applyOne (p : Platform σ) (pr : PullRequestRef) : Action → Work σ ActionResult
  | .addLabel name => do
    Work.log .info s!"{pr.describe}: adding label {name}"
    p.addLabels pr.issue [name]
    return .applied
  | .removeLabel name => do
    Work.log .info s!"{pr.describe}: removing label {name}"
    let attached ← p.removeLabel pr.issue name
    return if attached then .applied else .noop
  | .postComment body allowRepeats => do
    if ← isRepeat p pr body allowRepeats then
      Work.log .info s!"{pr.describe}: identical comment exists, not posting"
      return .noop
    else post p pr body

/-- What is logged for an action of a dry run, shown as `shown`. -/
def dryRunText (pr : PullRequestRef) (shown : String) : String :=
  s!"[dry run] {pr.describe}: would apply {shown}"

/-- Carries out one action after others were applied, or tells that it would. -/
def step (p : Platform σ) (pr : PullRequestRef) (dryRun : Bool) (applied : List Action)
    (action : Action) : Work σ Unit := do
  if dryRun then
    Work.log .info (dryRunText pr action.describe)
    Work.count (.action action.kind .dryRun)
  else
    match ← Work.attempt (applyOne p pr action) with
    | .ok result => Work.count (.action action.kind result)
    | .error failure =>
      if failure.isTransient then
        Work.count (.action action.kind .failed)
        Work.log .error
          s!"{pr.describe}: {action.describe} failed after {applied.length} applied action(s)"
        Work.fail (.actionFailed failure.message action applied)
      else Work.fail failure

/-- Carries out actions after others were applied, and gives all of them. -/
def applyAfter (p : Platform σ) (pr : PullRequestRef) (dryRun : Bool) (applied : List Action) :
    List Action → Work σ (List Action)
  | [] => pure applied
  | action :: actions => do
    step p pr dryRun applied action
    applyAfter p pr dryRun (applied ++ [action]) actions

/-- Carries out actions in order and gives those that were applied. -/
def apply (p : Platform σ) (pr : PullRequestRef) (dryRun : Bool) (actions : List Action) :
    Work σ (List Action) :=
  applyAfter p pr dryRun [] actions

/-- Carries out actions up to a value that is no action. -/
def applyUntil (p : Platform σ) (pr : PullRequestRef) (dryRun : Bool) (actions : List Action)
    (value : Json) : Work σ (List Action) := do
  let _ ← apply p pr dryRun actions
  if dryRun then
    Work.log .info (dryRunText pr value.display)
    Work.fail (.noMember value "kind")
  else Work.fail (.unknownAction value)

end SuiteTrigger.Execution
