import SuiteTrigger.Resource
import SuiteTrigger.Trigger.Event
import SuiteTrigger.Work

/-!
# Platforms

A platform keeps the labels and comments of issues; a pull request is an issue too. The work of the
program needs five operations and the number of calls made so far. Comments are looked through one
after another, and no further than to the first that is looked for.
-/

namespace SuiteTrigger

/-- An issue: the address of its repository and its number there. -/
structure IssueRef where
  repoUrl : String
  number : Int
  deriving DecidableEq

def PullRequestRef.issue (pr : PullRequestRef) : IssueRef := ⟨pr.repoUrl, pr.number⟩

/-- The operations on issues, over platforms whose state is `σ`. -/
structure Platform (σ : Type) where
  labels : IssueRef → Work σ (List Label)
  addLabels : IssueRef → List String → Work σ Unit
  /-- Takes a label off; false when it was not attached. -/
  removeLabel : IssueRef → String → Work σ Bool
  anyComment : IssueRef → (Comment → Bool) → Work σ Bool
  postComment : IssueRef → String → Work σ Comment
  callCount : σ → Nat

/-- The set of the labels on a pull request as they are now; the payload is not asked, since labels
may have been changed by hand after it was sent. -/
def Platform.readLabels {σ : Type} (p : Platform σ) (pr : PullRequestRef) :
    Work σ LabelSet := do
  let labels := LabelSet.ofList ((← p.labels pr.issue).map (·.name))
  Work.log .debug (pr.describe ++ " has labels " ++ labels.describe)
  return labels

end SuiteTrigger
