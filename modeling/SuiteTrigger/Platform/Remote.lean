import SuiteTrigger.Endpoint
import SuiteTrigger.Http.Client
import SuiteTrigger.Platform.Basic

/-!
# The platform over HTTP

The operations on issues as calls to the code host. A call is counted and logged before anything is
sent, and it counts once however many pages it takes. What the code host answers is checked record
by record.
-/

namespace SuiteTrigger.Remote

open Http

def labelsUrl (issue : IssueRef) : String := s!"{issue.repoUrl}/issues/{issue.number}/labels"

def commentsUrl (issue : IssueRef) : String := s!"{issue.repoUrl}/issues/{issue.number}/comments"

def countCall (url : String) : Work Client Unit := do
  Work.change fun c => (.ok (), { c with callCount := c.callCount + 1 })
  Work.count (.apiCall (Endpoint.ofUrl url))

/-- A step of the client; `call` names it in failures. -/
def run {α : Type} (call : String) (step : Client → Except CallError α × Client) :
    Work Client α :=
  Work.change fun c =>
    let (outcome, c) := step c
    (outcome.mapError (CallError.toFailure call), c)

/-- A call that changes something with the client's own authorization. -/
def change (verb : Verb) (values : Template.Values) (reference : String) (body : Option Json)
    (c : Client) : Except CallError Json × Client :=
  c.call verb values reference c.authorization body

def checked {α : Type} : Except Refusal α → Except Failure α
  | .ok value => .ok value
  | .error refusal => .error (.refused refusal)

/-- A visit that checks an item and adds it to those found. -/
def collect {α : Type} (read : Json → Except Refusal α) (found : List α) (item : Json) :
    Except Failure (Client.Visit (List α)) :=
  (checked (read item)).map fun value => .proceed (found ++ [value])

/-- A visit that checks an item and stops at the first one that is wanted. -/
def seek {α : Type} (read : Json → Except Refusal α) (wanted : α → Bool) (_ : Bool)
    (item : Json) : Except Failure (Client.Visit Bool) :=
  (checked (read item)).map fun value => if wanted value then .stop true else .proceed false

def labels (issue : IssueRef) : Work Client (List Label) := do
  let url := labelsUrl issue
  countCall url
  Work.log .debug s!"Get labels {url}"
  run s!"GET {url}" (Client.scan (collect Label.read) url [])

/-- What is sent to put labels on an issue. -/
def labelsBody (names : List String) : Json := .obj [("labels", .arr (names.map .str))]

/-- What is sent to post a comment. -/
def commentBody (body : String) : Json := .obj [("body", .str body)]

/-- Puts labels on an issue and gives those that the answer lists. -/
def addLabels (issue : IssueRef) (names : List String) : Work Client (List Label) := do
  let url := labelsUrl issue
  countCall url
  Work.log .debug s!"Adding labels {(Json.arr (names.map .str)).display} to {url}"
  let data ← run s!"POST {url}" (change .post [] url (some (labelsBody names)))
  let items ← Work.ofExcept (if data.isTruthy then itemsOf data else .ok [])
  Work.ofExcept (items.mapM fun item => checked (Label.read item))

/-- The reference of a label on an issue. The name is filled in later, so that it is encoded. -/
def labelReference (issue : IssueRef) : String := labelsUrl issue ++ "/\x7bname\x7d"

/-- What is found out when a label is taken off: a rejection with 404 tells that it was not
attached. -/
def removal : Except CallError Json → Except CallError Bool
  | .ok _ => .ok true
  | .error (.rejected r) => if r.status = 404 then .ok false else .error (.rejected r)
  | .error e => .error e

/-- Takes a label off an issue; false when it was not attached. -/
def removeLabel (issue : IssueRef) (name : String) : Work Client Bool := do
  let url := labelsUrl issue
  countCall url
  Work.log .debug s!"Removing label {name} from {url}"
  let attached ← run s!"DELETE {url}/{name}" fun c =>
    let (outcome, c) :=
      change .delete [("name".toList, name.toList)] (labelReference issue) none c
    (removal outcome, c)
  if !attached then Work.log .debug s!"Label {name} was not attached to {url}"
  return attached

/-- Goes through the comments on an issue. -/
def scanComments {β : Type} (visit : β → Json → Except Failure (Client.Visit β)) (state : β)
    (issue : IssueRef) : Work Client β := do
  let url := commentsUrl issue
  countCall url
  Work.log .debug s!"Get comments {url}"
  run s!"GET {url}" (Client.scan visit url state)

def comments (issue : IssueRef) : Work Client (List Comment) :=
  scanComments (collect Comment.read) [] issue

/-- Whether some comment on an issue is wanted; those after the first such are not asked for. -/
def anyComment (issue : IssueRef) (wanted : Comment → Bool) : Work Client Bool :=
  scanComments (seek Comment.read wanted) false issue

def postComment (issue : IssueRef) (body : String) : Work Client Comment := do
  let url := commentsUrl issue
  countCall url
  Work.log .debug s!"Posting comment to {url}"
  let data ← run s!"POST {url}" (change .post [] url (some (commentBody body)))
  Work.ofExcept (checked (Comment.read data))

def ops : Platform Client where
  labels := labels
  addLabels issue names := do
    let _ ← addLabels issue names
  removeLabel := removeLabel
  anyComment := anyComment
  postComment := postComment
  callCount c := c.callCount

end SuiteTrigger.Remote
