import SuiteTrigger.Platform.Installation
import SuiteTrigger.Proofs.Sessions

namespace SuiteTrigger.Installation

open Http

/-- What is left to do for a token that is known or not. -/
def tokenFrom (id : Json) : Option Json → Work Client Json
  | some token => return token
  | none => do
    let token ← fetchToken id
    if token = .null then return token
    else Work.change fun c => (.ok token, { c with tokens := c.tokens ++ [(id.text, token)] })

theorem token_eq (id : Json) : token id =
    Work.platform >>= fun c => tokenFrom id (c.tokens.lookup id.text) := rfl

end SuiteTrigger.Installation

namespace SuiteTrigger.Remote

open Http

/-- A property of work that passes to work made of smaller work and holds of the steps of the
client. -/
structure Upholds (P : (α : Type) → Work Client α → Prop) : Prop
    extends Work.Composes Client.callCount P where
  counts : ∀ url, P Unit (countCall url)
  scans : ∀ {β : Type} (call : String) (visit : β → Json → Except Failure (Client.Visit β))
    (reference : String) (state : β), P β (run call (Client.scan visit reference state))
  changes : ∀ {α : Type} (call : String) {verb : Verb} (values : Template.Values)
    (reference : String) (body : Option Json) (told : Except CallError Json → Except CallError α),
    verb ≠ .get → P α (run call fun c =>
      (told (change verb values reference body c).1, (change verb values reference body c).2))
  fetches : ∀ (call reference : String),
    P Json (run call fun c => c.call .post [] reference (some .application) none)
  knows : ∀ {α : Type} (text : String) (next : Option Json → Work Client α),
    (∀ known?, P α (next known?)) → P α (Work.platform >>= fun c => next (c.tokens.lookup text))
  learns : ∀ (text : String) (token : Json),
    P Json (Work.change fun c => (.ok token, { c with tokens := c.tokens ++ [(text, token)] }))
  authorizes : ∀ authorization,
    P Unit (Work.change fun c => (.ok (), { c with authorization, callCount := 0 }))

/-- A step of a session over HTTP: it runs the pipeline, or calls the code host directly. -/
inductive Step where
  | ran (step : Session.Step)
  | labels (issue : IssueRef)
  | addLabels (issue : IssueRef) (names : List String)
  | removeLabel (issue : IssueRef) (name : String)
  | comments (issue : IssueRef)
  | postComment (issue : IssueRef) (body : String)

/-- What a step gives. -/
inductive Value where
  | ran (value : Session.Value)
  | labels (labels : List Label)
  | removed (attached : Bool)
  | comments (comments : List Comment)
  | posted (comment : Comment)
  deriving DecidableEq

/-- The work of a step. Deliveries are received as their installations. -/
def Step.work : Step → Work Client Value
  | ran step => do return .ran (← step.work ops Installation.connect)
  | labels issue => do return .labels (← Remote.labels issue)
  | addLabels issue names => do return .labels (← Remote.addLabels issue names)
  | removeLabel issue name => do return .removed (← Remote.removeLabel issue name)
  | comments issue => do return .comments (← Remote.comments issue)
  | postComment issue body => do return .posted (← Remote.postComment issue body)

def Step.run (step : Step) (c : Client) : Except Failure Value × Scene Client :=
  step.work.on ⟨c, .empty⟩

/-- What is seen of a step: its outcome, the counters and the log, the number of calls that the
client made so far, and the requests that were sent. -/
structure Report where
  outcome : Except Failure Value
  journal : Journal
  callCount : Nat
  requests : List Request

namespace Upholds

variable {P : (α : Type) → Work Client α → Prop} {α : Type}

theorem called (upholds : Upholds P) (url : String) (level : Level) (text : String)
    {next : Work Client α} (rest : P α next) :
    P α (countCall url >>= fun _ => Work.log level text >>= fun _ => next) :=
  upholds.bind (upholds.counts url) fun _ => upholds.logged level text rest

theorem labels (upholds : Upholds P) (issue : IssueRef) : P (List Label) (Remote.labels issue) :=
  upholds.called _ _ _ (upholds.scans _ _ _ _)

theorem addLabels (upholds : Upholds P) (issue : IssueRef) (names : List String) :
    P (List Label) (Remote.addLabels issue names) := by
  refine upholds.called _ _ _ ?_
  refine upholds.bind (upholds.changes _ _ _ _ id nofun) fun data => ?_
  exact upholds.bind (upholds.ofExcept _) fun items => upholds.ofExcept _

theorem removeLabel (upholds : Upholds P) (issue : IssueRef) (name : String) :
    P Bool (Remote.removeLabel issue name) := by
  refine upholds.called _ _ _ ?_
  refine upholds.bind (upholds.changes _ _ _ _ removal nofun) fun attached => ?_
  cases attached with
  | true => exact upholds.pure true
  | false => exact upholds.logged _ _ (upholds.pure false)

theorem scanComments (upholds : Upholds P) {β : Type}
    (visit : β → Json → Except Failure (Client.Visit β)) (state : β) (issue : IssueRef) :
    P β (Remote.scanComments visit state issue) :=
  upholds.called _ _ _ (upholds.scans _ _ _ _)

theorem postComment (upholds : Upholds P) (issue : IssueRef) (body : String) :
    P Comment (Remote.postComment issue body) := by
  refine upholds.called _ _ _ ?_
  exact upholds.bind (upholds.changes _ _ _ _ id nofun) fun data => upholds.ofExcept _

theorem ops (upholds : Upholds P) : Remote.ops.Upholds P where
  toComposes := upholds.toComposes
  labels := upholds.labels
  addLabels issue names := upholds.give (upholds.addLabels issue names) _
  removeLabel := upholds.removeLabel
  anyComment issue _ := upholds.scanComments _ _ issue
  postComment := upholds.postComment

theorem fetchToken (upholds : Upholds P) (id : Json) : P Json (Installation.fetchToken id) := by
  unfold Installation.fetchToken
  refine upholds.logged _ _ (upholds.counted _ ?_)
  exact upholds.bind (upholds.fetches _ _) fun data => upholds.ofExcept _

theorem token (upholds : Upholds P) (id : Json) : P Json (Installation.token id) := by
  rw [Installation.token_eq]
  refine upholds.knows id.text (Installation.tokenFrom id) fun known? => ?_
  cases known? with
  | some token => exact upholds.pure token
  | none =>
    refine upholds.bind (upholds.fetchToken id) fun token => ?_
    by_cases null : token = .null
    · rw [if_pos null]
      exact upholds.pure token
    · rw [if_neg null]
      exact upholds.learns id.text token

theorem connect (upholds : Upholds P) (id : Json) : P Unit (Installation.connect id) :=
  upholds.bind (upholds.token id) fun _ => upholds.authorizes _

theorem step (upholds : Upholds P) (step : Step) : P Value step.work := by
  cases step with
  | ran step => exact upholds.give (upholds.ops.work upholds.connect step) _
  | labels issue => exact upholds.give (upholds.labels issue) _
  | addLabels issue names => exact upholds.give (upholds.addLabels issue names) _
  | removeLabel issue name => exact upholds.give (upholds.removeLabel issue name) _
  | comments issue => exact upholds.give (upholds.scanComments _ _ issue) _
  | postComment issue body => exact upholds.give (upholds.postComment issue body) _

end Upholds

end SuiteTrigger.Remote
