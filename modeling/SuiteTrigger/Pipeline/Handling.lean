import SuiteTrigger.Pipeline.Execution
import SuiteTrigger.Trigger.Decision

/-!
# Handling an event

An event is handled in three steps: the labels on its pull request are read as they are now, the
actions are decided from them, and the actions are carried out.
-/

namespace SuiteTrigger

/-- How events are handled: with which configuration, and whether anything is changed. -/
structure Options where
  config : TriggerConfig
  dryRun : Bool

def Options.ofSettings (settings : Settings) : Options :=
  ⟨.ofSettings settings, settings.dryRun⟩

/-- The event in a delivered value. A value that is no object has no members to look into, which
comes to light after the check of the event's name. -/
def Event.ofDelivered (name : String) (data : Json) : Except Failure Event :=
  match data with
  | .obj payload =>
    match Event.ofPayload name payload with
    | .ok event => .ok event
    | .error cause => .error (.malformed cause)
  | data =>
    if (EventKind.ofName? name).isSome then .error (.noMember data "get")
    else .error (.malformed (.unsupported name))

namespace Pipeline

variable {σ : Type}

/-- Handles an event that is not ignored. -/
def act (p : Platform σ) (options : Options) (event : Event) : Work σ (List Action) := do
  let pr := event.pr
  let labels ← p.readLabels pr
  let actions := options.config.actionsFor labels event
  Work.log .info (options.config.decisionText labels event)
  if actions.isEmpty then
    Work.log .info s!"Nothing to do for {pr.describe}"
    return []
  else
    let applied ← Execution.apply p pr options.dryRun actions
    Work.log .info
      s!"Finished handling {pr.describe}, API calls: {p.callCount (← Work.platform)}"
    return applied

def handleEvent (p : Platform σ) (options : Options) (event : Event) :
    Work σ (List Action) := do
  Work.log .info s!"Begin handling {event.typeName} for {event.pr.describe}"
  match event with
  | .ignored pr kind action =>
    Work.log .debug s!"Ignoring {kind} action {action} on {pr.describe}"
    Work.count (.skipped kind .action)
    return []
  | event => act p options event

/-- Handles a delivered payload of the named event. -/
def handlePayload (p : Platform σ) (options : Options) (name : String) (data : Json) :
    Work σ (List Action) := do
  handleEvent p options (← Work.ofExcept (Event.ofDelivered name data))

end Pipeline

end SuiteTrigger
