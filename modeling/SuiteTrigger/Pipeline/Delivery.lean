import SuiteTrigger.Pipeline.Dispatch

/-!
# Deliveries to the webhook

A delivery is answered with 200 when nothing is gained by sending it again: it was handled, skipped
or is malformed. It is answered with 502 when the code host failed, so that it is sent again.
-/

namespace SuiteTrigger

/-- A delivered event: its name and the data that came with it. -/
structure Delivery where
  name : String
  data : Json

namespace Delivery

def isSupported (d : Delivery) : Bool := (EventKind.ofName? d.name).isSome

/-- The installation that the data name. -/
def installation? (d : Delivery) : Option Json :=
  (d.data.field? "installation").bind (·.field? "id")

end Delivery

/-- What the sender of a delivery is told. -/
inductive DeliveryStatus where
  | ok
  | badGateway
  deriving DecidableEq

def DeliveryStatus.code : DeliveryStatus → Nat
  | .ok => 200
  | .badGateway => 502

namespace Pipeline

variable {σ : Type}

/-- Answers a delivery that ended in a failure: malformed ones are dropped, transient ones are to be
sent again, all others escape. -/
def recover (name : String) (failure : Failure) : Work σ DeliveryStatus := do
  if failure.isMalformed then
    Work.count (.error .malformedEvent)
    Work.log .warning s!"Dropping malformed {name} delivery: {failure.message}"
    return .ok
  else if failure.isTransient then
    Work.count (.error .eventDispatch)
    Work.log .error "Platform error when dispatching event"
    return .badGateway
  else Work.fail failure

/-- Connects as an installation, unless its token is denied for a reason. -/
def connectUnless (denied? : Json → Option String) (connect : Json → Work σ Unit) (id : Json) :
    Work σ Unit :=
  match denied? id with
  | none => connect id
  | some reason => Work.fail (.transient reason)

/-- Runs a delivery: connects to the platform as its installation and dispatches the event. -/
def deliver (p : Platform σ) (settings : Settings) (connect : Json → Work σ Unit)
    (d : Delivery) : Work σ DeliveryStatus := do
  Work.count (.webhook d.name)
  if !d.isSupported then
    Work.count (.skipped d.name .event)
    return .ok
  else
    match d.installation? with
    | none =>
      Work.count (.error .malformedEvent)
      Work.log .warning s!"Dropping {d.name} delivery without installation"
      return .ok
    | some id =>
      Work.log .debug ("Installation id: " ++ id.text)
      let outcome ← Work.attempt do
        connect id
        Work.log .debug s!"Dispatching event {d.name}"
        dispatch p settings (Options.ofSettings settings) d.name d.data
      match outcome with
      | .ok () => return .ok
      | .error failure => recover d.name failure

end Pipeline

end SuiteTrigger
