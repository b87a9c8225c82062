import SuiteTrigger.Pipeline.Delivery
import SuiteTrigger.Proofs.Endings

namespace SuiteTrigger

variable {σ : Type}

/-- A property of work that holds of all work that leaves the platform alone and passes to work made
of smaller work. Of the platform itself only the number of calls that `calls` gives is told, in the
log. -/
structure Work.Composes (calls : σ → Nat) (P : (α : Type) → Work σ α → Prop) : Prop where
  ofExcept : ∀ {α : Type} (result : Except Failure α), P α (Work.ofExcept result)
  log : ∀ level text, P Unit (Work.log level text)
  count : ∀ c, P Unit (Work.count c)
  tell : ∀ level (text : Nat → String),
    P Unit (Work.platform >>= fun s => Work.log level (text (calls s)))
  bind : ∀ {α β : Type} {work : Work σ α} {next : α → Work σ β},
    P α work → (∀ value, P β (next value)) → P β (work >>= next)
  attempt : ∀ {α : Type} {work : Work σ α}, P α work → P (Except Failure α) work.attempt

/-- A property of work that passes to work made of smaller work and holds of the operations of a
platform. -/
structure Platform.Upholds (p : Platform σ) (P : (α : Type) → Work σ α → Prop) : Prop
    extends Work.Composes p.callCount P where
  labels : ∀ issue, P (List Label) (p.labels issue)
  addLabels : ∀ issue names, P Unit (p.addLabels issue names)
  removeLabel : ∀ issue name, P Bool (p.removeLabel issue name)
  anyComment : ∀ issue wanted, P Bool (p.anyComment issue wanted)
  postComment : ∀ issue body, P Comment (p.postComment issue body)

namespace Work.Composes

variable {calls : σ → Nat} {P : (α : Type) → Work σ α → Prop} {α β : Type}

theorem pure (composes : Composes calls P) (value : α) : P α (Pure.pure value) :=
  composes.ofExcept (.ok value)

theorem fail (composes : Composes calls P) (failure : Failure) : P α (Work.fail failure) :=
  composes.ofExcept (.error failure)

theorem give (composes : Composes calls P) {work : Work σ α} (holds : P α work) (f : α → β) :
    P β (work >>= fun value => Pure.pure (f value)) :=
  composes.bind holds fun value => composes.pure (f value)

theorem logged (composes : Composes calls P) (level : Level) (text : String)
    {next : Unit → Work σ α} (holds : P α (next ())) : P α (Work.log level text >>= next) :=
  composes.bind (composes.log level text) fun _ => holds

theorem counted (composes : Composes calls P) (c : Counter) {next : Unit → Work σ α}
    (holds : P α (next ())) : P α (Work.count c >>= next) :=
  composes.bind (composes.count c) fun _ => holds

theorem told (composes : Composes calls P) (level : Level) (text : Nat → String)
    {next : Unit → Work σ α} (holds : P α (next ())) :
    P α (Work.platform >>= fun s => Work.log level (text (calls s)) >>= next) := by
  have all := composes.bind (composes.tell level text) fun _ => holds
  rwa [bind_assoc] at all

theorem recover (composes : Composes calls P) (name : String) (failure : Failure) :
    P DeliveryStatus (Pipeline.recover name failure) := by
  unfold Pipeline.recover
  cases failure.isMalformed with
  | true => exact composes.counted _ (composes.logged _ _ (composes.pure _))
  | false =>
    cases failure.isTransient with
    | true => exact composes.counted _ (composes.logged _ _ (composes.pure _))
    | false => exact composes.fail failure

theorem letsThrough (composes : Composes calls P) (settings : Settings) (repository : Repository) :
    P Bool (Pipeline.letsThrough settings repository) := by
  unfold Pipeline.letsThrough
  cases settings.serves repository with
  | true => exact composes.pure true
  | false => exact composes.logged _ _ (composes.pure false)

end Work.Composes

namespace Platform.Upholds

variable {p : Platform σ} {P : (α : Type) → Work σ α → Prop}

theorem readLabels (upholds : p.Upholds P) (pr : PullRequestRef) :
    P LabelSet (p.readLabels pr) := by
  unfold Platform.readLabels
  refine upholds.bind (upholds.labels pr.issue) fun labels => ?_
  exact upholds.logged _ _ (upholds.pure _)

theorem isRepeat (upholds : p.Upholds P) (pr : PullRequestRef) (body : String)
    (allowRepeats : Bool) : P Bool (Execution.isRepeat p pr body allowRepeats) := by
  unfold Execution.isRepeat
  cases allowRepeats with
  | true => exact upholds.pure false
  | false => exact upholds.anyComment pr.issue _

theorem applyOne (upholds : p.Upholds P) (pr : PullRequestRef) (a : Action) :
    P ActionResult (Execution.applyOne p pr a) := by
  cases a with
  | addLabel name =>
    unfold Execution.applyOne
    exact upholds.logged _ _ (upholds.give (upholds.addLabels _ _) _)
  | removeLabel name =>
    unfold Execution.applyOne
    exact upholds.logged _ _ (upholds.give (upholds.removeLabel _ _) _)
  | postComment body allowRepeats =>
    unfold Execution.applyOne
    refine upholds.bind (upholds.isRepeat pr body allowRepeats) fun repeated => ?_
    cases repeated with
    | true => exact upholds.logged _ _ (upholds.pure _)
    | false =>
      refine upholds.bind (upholds.postComment _ _) fun comment => ?_
      exact upholds.logged _ _ (upholds.pure _)

theorem step (upholds : p.Upholds P) (pr : PullRequestRef) (dryRun : Bool) (applied : List Action)
    (a : Action) : P Unit (Execution.step p pr dryRun applied a) := by
  unfold Execution.step
  cases dryRun with
  | true => exact upholds.logged _ _ (upholds.count _)
  | false =>
    refine upholds.bind (upholds.attempt (upholds.applyOne pr a)) fun outcome => ?_
    cases outcome with
    | ok result => exact upholds.count _
    | error failure =>
      dsimp only
      cases failure.isTransient with
      | true => exact upholds.counted _ (upholds.logged _ _ (upholds.fail _))
      | false => exact upholds.fail failure

theorem applyAfter (upholds : p.Upholds P) (pr : PullRequestRef) (dryRun : Bool)
    (applied actions : List Action) :
    P (List Action) (Execution.applyAfter p pr dryRun applied actions) := by
  induction actions generalizing applied with
  | nil => exact upholds.pure applied
  | cons a actions ih =>
    exact upholds.bind (upholds.step pr dryRun applied a) fun _ => ih (applied ++ [a])

theorem apply (upholds : p.Upholds P) (pr : PullRequestRef) (dryRun : Bool)
    (actions : List Action) : P (List Action) (Execution.apply p pr dryRun actions) :=
  upholds.applyAfter pr dryRun [] actions

theorem applyUntil (upholds : p.Upholds P) (pr : PullRequestRef) (dryRun : Bool)
    (actions : List Action) (value : Json) :
    P (List Action) (Execution.applyUntil p pr dryRun actions value) := by
  unfold Execution.applyUntil
  refine upholds.bind (upholds.apply pr dryRun actions) fun _ => ?_
  cases dryRun with
  | true => exact upholds.logged _ _ (upholds.fail _)
  | false => exact upholds.fail _

theorem act (upholds : p.Upholds P) (options : Options) (event : Event) :
    P (List Action) (Pipeline.act p options event) := by
  unfold Pipeline.act
  refine upholds.bind (upholds.readLabels event.pr) fun labels => ?_
  refine upholds.logged _ _ ?_
  cases (options.config.actionsFor labels event).isEmpty with
  | true => exact upholds.logged _ _ (upholds.pure _)
  | false =>
    refine upholds.bind (upholds.apply event.pr options.dryRun _) fun applied => ?_
    exact upholds.told _ (fun n => s!"Finished handling {event.pr.describe}, API calls: {n}")
      (upholds.pure applied)

theorem handleEvent (upholds : p.Upholds P) (options : Options) (event : Event) :
    P (List Action) (Pipeline.handleEvent p options event) := by
  unfold Pipeline.handleEvent
  refine upholds.logged _ _ ?_
  cases event with
  | codePush pr action => exact upholds.act options _
  | reviewSubmitted pr outcome => exact upholds.act options _
  | ignored pr kind action =>
    exact upholds.logged _ _ (upholds.counted _ (upholds.pure _))

theorem handlePayload (upholds : p.Upholds P) (options : Options) (name : String) (data : Json) :
    P (List Action) (Pipeline.handlePayload p options name data) :=
  upholds.bind (upholds.ofExcept _) fun event => upholds.handleEvent options event

theorem onPullRequest (upholds : p.Upholds P) (settings : Settings) (options : Options)
    (name : String) (payload : Event.Payload) :
    P Unit (Pipeline.onPullRequest p settings options name payload) := by
  unfold Pipeline.onPullRequest
  refine upholds.logged _ _ ?_
  refine upholds.bind (upholds.ofExcept _) fun event => ?_
  refine upholds.bind (upholds.ofExcept _) fun repository => ?_
  refine upholds.bind (upholds.letsThrough settings repository) fun served => ?_
  cases served with
  | true => exact upholds.give (upholds.handleEvent options event) _
  | false => exact upholds.count _

theorem dispatch (upholds : p.Upholds P) (settings : Settings) (options : Options) (name : String)
    (data : Json) : P Unit (Pipeline.dispatch p settings options name data) := by
  unfold Pipeline.dispatch
  cases EventKind.ofName? name with
  | none => exact upholds.pure ()
  | some kind =>
    cases data with
    | obj payload => exact upholds.onPullRequest settings options name payload
    | _ => exact upholds.fail _

theorem deliver (upholds : p.Upholds P) (settings : Settings) {connect : Json → Work σ Unit}
    (connects : ∀ id, P Unit (connect id)) (d : Delivery) :
    P DeliveryStatus (Pipeline.deliver p settings connect d) := by
  unfold Pipeline.deliver
  refine upholds.counted _ ?_
  cases d.isSupported with
  | false => exact upholds.counted _ (upholds.pure _)
  | true =>
    cases d.installation? with
    | none => exact upholds.counted _ (upholds.logged _ _ (upholds.pure _))
    | some id =>
      refine upholds.logged _ _ ?_
      refine upholds.bind (upholds.attempt ?_) fun outcome => ?_
      · refine upholds.bind (connects id) fun _ => ?_
        exact upholds.logged _ _ (upholds.dispatch settings _ d.name d.data)
      · cases outcome with
        | ok value => exact upholds.pure _
        | error failure => exact upholds.recover d.name failure

end Platform.Upholds

namespace Session

/-- A step of a session. The token of a received delivery may be denied for a reason, and a list of
actions may break off at a value that is no action. -/
inductive Step where
  | handled (options : Options) (d : Delivery)
  | dispatched (settings : Settings) (options : Options) (d : Delivery)
  | received (settings : Settings) (denied? : Json → Option String) (d : Delivery)
  | executed (pr : PullRequestRef) (dryRun : Bool) (actions : List Action) (beyond? : Option Json)
  | read (pr : PullRequestRef)

/-- What a step gives. -/
inductive Value where
  | actions (applied : List Action)
  | done
  | answered (status : DeliveryStatus)
  | labels (labels : LabelSet)
  deriving DecidableEq

/-- Carries out actions up to a value that is none, if there is one. -/
def execute (p : Platform σ) (pr : PullRequestRef) (dryRun : Bool) (actions : List Action) :
    Option Json → Work σ (List Action)
  | none => Execution.apply p pr dryRun actions
  | some value => Execution.applyUntil p pr dryRun actions value

namespace Step

/-- The work of a step, where `connect` connects to the platform as an installation. -/
def work (p : Platform σ) (connect : Json → Work σ Unit) : Step → Work σ Value
  | handled options d => do return .actions (← Pipeline.handlePayload p options d.name d.data)
  | dispatched settings options d => do
    Pipeline.dispatch p settings options d.name d.data
    return .done
  | received settings denied? d => do
    return .answered (← Pipeline.deliver p settings (Pipeline.connectUnless denied? connect) d)
  | executed pr dryRun actions beyond? => do
    return .actions (← execute p pr dryRun actions beyond?)
  | read pr => do return .labels (← p.readLabels pr)

def isDry : Step → Bool
  | handled options _ => options.dryRun
  | dispatched _ options _ => options.dryRun
  | received settings _ _ => settings.dryRun
  | executed _ dryRun _ _ => dryRun
  | read _ => false

end Step

end Session

theorem Work.Composes.connect {calls : σ → Nat} {P : (α : Type) → Work σ α → Prop}
    (composes : Composes calls P) (denied? : Json → Option String) {connect : Json → Work σ Unit}
    (connects : ∀ id, P Unit (connect id)) (id : Json) :
    P Unit (Pipeline.connectUnless denied? connect id) := by
  unfold Pipeline.connectUnless
  cases denied? id with
  | none => exact connects id
  | some reason => exact composes.fail _

/-- What is upheld by the operations of a platform is upheld by every step of a session. -/
theorem Platform.Upholds.work {p : Platform σ} {P : (α : Type) → Work σ α → Prop}
    (upholds : p.Upholds P) {connect : Json → Work σ Unit} (connects : ∀ id, P Unit (connect id))
    (step : Session.Step) : P Session.Value (step.work p connect) := by
  cases step with
  | handled options d => exact upholds.give (upholds.handlePayload options d.name d.data) _
  | dispatched settings options d =>
    exact upholds.give (upholds.dispatch settings options d.name d.data) _
  | received settings denied? d =>
    exact upholds.give (upholds.deliver settings (upholds.connect denied? connects) d) _
  | executed pr dryRun actions beyond? =>
    refine upholds.give ?_ _
    cases beyond? with
    | none => exact upholds.apply pr dryRun actions
    | some value => exact upholds.applyUntil pr dryRun actions value
  | read pr => exact upholds.give (upholds.readLabels pr) _

end SuiteTrigger
