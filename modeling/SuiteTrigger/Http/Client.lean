import SuiteTrigger.Http.Address
import SuiteTrigger.Http.Rejection
import SuiteTrigger.Http.Template

/-!
# The client

The client sends requests one after another and takes the replies in the order in which they come.
It remembers what it sent, and it may keep pages: a page that came with a mark is asked for under
that mark, and an answer that says it did not change stands for the page that is kept.
-/

namespace SuiteTrigger.Http

/-- A page that is kept with the mark that it came with. -/
structure KeptPage where
  mark : Option String
  page : Page
  deriving DecidableEq

structure Client where
  /-- The replies to come. -/
  replies : List Reply
  /-- The requests sent so far, in order. -/
  requests : List Request
  authorization : Option Authorization
  /-- The pages that are kept, by their addresses; none in a client that keeps no pages. -/
  pages : Option (List (String × KeptPage))
  /-- The tokens of installations, by the texts of their ids. -/
  tokens : List (String × Json)
  /-- The calls made so far. -/
  callCount : Nat

/-- The address that a reference leads to, with its template parts replaced. -/
def target (values : Template.Values) (reference : String) : Except Failure String := do
  let address ← (Address.resolve reference.toList).mapError .badAddress
  let expanded ← (Template.expand values address).mapError Failure.badNumeral
  return String.ofList expanded

namespace Client

/-- A client before its first request. -/
def start (authorization : Option Authorization) (keeps : Bool) (replies : List Reply) :
    Client where
  replies
  requests := []
  authorization
  pages := if keeps then some [] else none
  tokens := []
  callCount := 0

def kept? (c : Client) (url : String) : Option KeptPage := c.pages.bind (·.lookup url)

/-- Keeps a page that came with a mark or with a date. -/
def keep (c : Client) (url : String) (headers : Headers) (page : Page) : Client :=
  let mark := headers.lookup "etag"
  if mark.isSome || (headers.lookup "last-modified").isSome then
    { c with pages := c.pages.map fun pages =>
        (url, ⟨mark, page⟩) :: pages.filter fun entry => entry.1 ≠ url }
  else c

def pageRequest (c : Client) (url : String) : Request :=
  ⟨.get, url, c.authorization, (c.kept? url).bind (·.mark), none⟩

def record (c : Client) (r : Request) : Client := { c with requests := c.requests ++ [r] }

/-- What a request ends in when no reply is left. -/
def silence : CallError := .lost (Break.connection.error "no response")

/-- Takes the reply to a request that was sent. -/
def receive (c : Client) (r : Request) (reply : Reply) : Except CallError Page × Client :=
  let c := c.record r
  match reply with
  | .lost error => (.error (.lost error), c)
  | .failed f => (.error (.failure f), c)
  | .answered answer =>
    let kept := if r.verb = .get then c.kept? r.url else none
    match kept, decide (answer.status = 304) with
    | some kept, true => (.ok kept.page, c)
    | _, _ =>
      match answer.page with
      | .error e => (.error e, c)
      | .ok page =>
        (.ok page, if r.verb = .get then c.keep r.url answer.headers page else c)

/-- Sends a request and takes the next reply. -/
def send (c : Client) (r : Request) : Except CallError Page × Client :=
  match c.replies with
  | [] => (.error silence, c.record r)
  | reply :: replies => { c with replies }.receive r reply

/-- Sends a request that changes something, and gives the data of its answer. -/
def call (c : Client) (verb : Verb) (values : Template.Values) (reference : String)
    (authorization : Option Authorization) (body : Option Json) :
    Except CallError Json × Client :=
  match target values reference with
  | .error f => (.error (.failure f), c)
  | .ok url =>
    let (outcome, c) := c.send ⟨verb, url, authorization, none, body⟩
    (outcome.map (·.data), c)

/-- Whether to look at further items. -/
inductive Visit (β : Type) where
  | proceed (state : β)
  | stop (state : β)

variable {β : Type}

/-- Goes through items until a visit stops or fails. -/
def visitAll (visit : β → Json → Except Failure (Visit β)) :
    β → List Json → Except Failure (Visit β)
  | state, [] => .ok (.proceed state)
  | state, item :: items =>
    match visit state item with
    | .error f => .error f
    | .ok (.stop state) => .ok (.stop state)
    | .ok (.proceed state) => visitAll visit state items

/-- Goes through the items of a page and of those after it, page by page: a page is asked for only
when all items before it were visited. The list holds the replies to come. -/
def scanFrom (visit : β → Json → Except Failure (Visit β)) :
    List Reply → String → β → Client → Except CallError β × Client
  | [], reference, _, c =>
    match target [] reference with
    | .error f => (.error (.failure f), c)
    | .ok url => (.error silence, c.record (c.pageRequest url))
  | reply :: replies, reference, state, c =>
    match target [] reference with
    | .error f => (.error (.failure f), c)
    | .ok url =>
      let (outcome, c) := { c with replies }.receive (c.pageRequest url) reply
      match outcome with
      | .error e => (.error e, c)
      | .ok page =>
        match page.items.bind (visitAll visit state) with
        | .error f => (.error (.failure f), c)
        | .ok (.stop state) => (.ok state, c)
        | .ok (.proceed state) =>
          match page.next with
          | none => (.ok state, c)
          | some next => scanFrom visit replies next state c

/-- Goes through all items from a page on. -/
def scan (visit : β → Json → Except Failure (Visit β)) (reference : String) (state : β)
    (c : Client) : Except CallError β × Client :=
  scanFrom visit c.replies reference state c

end Client

end SuiteTrigger.Http
