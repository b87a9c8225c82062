import SuiteTrigger.Http.Content
import SuiteTrigger.Http.Target
import SuiteTrigger.Pipeline.Delivery
import SuiteTrigger.Webhook.Signature

/-!
# Incoming requests

A request to the webhook is a delivery when its signature holds, its body is read and its headers
name the event and the delivery. What the sender did wrong makes it invalid; what is left
unforeseen makes the request fail.
-/

namespace SuiteTrigger.Webhook

open Http

structure Incoming where
  method : String
  /-- The path of the target, as it is written there; a whole address may have none. -/
  path? : Option String
  headers : Headers
  body : Body

namespace Incoming

def lowerName (name : String) : String := String.ofList (name.toList.map Char.toLower)

/-- A request with a target. Names of headers are ASCII and are looked up in lower case. -/
def read (method target : String) (headers : Headers) (body : Body) :
    Except Failure Incoming :=
  if headers.any fun header => header.1.toList.any fun c => 0x80 ≤ c.toNat then
    .error .badHeaderName
  else match Target.read? target with
    | none => .error (.badTarget target)
    | some path? =>
      .ok ⟨method, path?, headers.map fun header => (lowerName header.1, header.2), body⟩

end Incoming

/-- Why a request is no delivery. -/
inductive Fault where
  | invalid (reason : String)
  | failed
  deriving DecidableEq

/-- The refusal of a body that is neither JSON nor a form. -/
def contentReason : String :=
  "expected a content-type of '" ++ Content.jsonType ++ "' or '" ++ Content.formType ++ "'"

/-- The fault of a wrong signature. -/
def Fault.ofSignature : SignatureFault → Fault
  | .notAscii => .failed
  | fault => .invalid fault.message

/-- The fault of a body that cannot be read. What names no charset at all is unforeseen. -/
def Fault.ofContent : Failure → Fault
  | .badCharset (.unknown _) => .failed
  | .badCharset (.conversion _) => .failed
  | .content (.unreadable (.tooDeep _)) => .failed
  | .content (.undecodable (.stuck _)) => .failed
  | .wrongType => .failed
  | _ => .invalid contentReason

/-- The data in a body: null when there is nothing to read. -/
def dataOf (i : Incoming) : Except Fault Json :=
  match i.headers.lookup "content-type" with
  | none => .error (.invalid contentReason)
  | some header =>
    match i.body.content (some header) with
    | .ok (.text _) => .error (.invalid contentReason)
    | .ok content => .ok content.toJson
    | .error f => .error (Fault.ofContent f)

/-- The delivery that a request makes. -/
def Incoming.delivery (i : Incoming) (secret : Option String) : Except Fault Delivery :=
  match checkSignature secret i.headers i.body.toBytes with
  | .error fault => .error (Fault.ofSignature fault)
  | .ok () =>
    match dataOf i with
    | .error fault => .error fault
    | .ok data =>
      match i.headers.lookup "x-github-event", i.headers.lookup "x-github-delivery" with
      | some name, some _ => .ok ⟨name, data⟩
      | _, _ => .error .failed

end SuiteTrigger.Webhook
