import SuiteTrigger.Trigger.Action
import SuiteTrigger.Trigger.Config
import SuiteTrigger.Trigger.Event

/-!
# Decisions

The marker label on a pull request records that the full suite was asked for its present head. New
code takes the marker off and asks for the fast tests; the first approval after that puts it on and
asks for the full suite. Nothing else leads to an action, so the same event with the same labels
always gives the same decision.
-/

namespace SuiteTrigger.TriggerConfig

/-- The actions that an event asks for on a pull request with the given labels. -/
def actionsFor (config : TriggerConfig) (labels : LabelSet) : Event → List Action
  | .codePush .. =>
    (if config.approvedLabel ∈ labels then [.removeLabel config.approvedLabel] else []) ++
      [.postComment config.fastTrigger true]
  | .reviewSubmitted _ .approved =>
    if config.approvedLabel ∈ labels then []
    else [.addLabel config.approvedLabel, .postComment config.fullTrigger true]
  | .reviewSubmitted .. => []
  | .ignored .. => []

/-- A decision in the log. -/
def decisionText (config : TriggerConfig) (labels : LabelSet) (event : Event) : String :=
  let marked := boolText (decide (config.approvedLabel ∈ labels))
  s!"{event.pr.describe}: {event.typeName} with approved={marked} -> " ++
    Action.describeAll (config.actionsFor labels event)

end SuiteTrigger.TriggerConfig
