import SuiteTrigger.Proofs.DeliveryAnswers

/-!
# Ways into the pipeline

A delivery may be handled, dispatched or received by the webhook. All ways run the same pipeline
(`entry_points_agree`), but for the gate in front of dispatched and received deliveries: what is
withheld there is not handled at all (`withheld_or_handled`).
-/

namespace SuiteTrigger

namespace Memory

variable {settings : Settings} {d : Delivery}

/-- A delivery that is not withheld comes to the same when it is dispatched as when it is handled.
-/
theorem dispatchEnding_eq (m : Memory) (options : Options) (supported : d.isSupported = true)
    (served : ¬ d.Withheld settings.listed) :
    m.dispatchEnding settings options d = (m.payloadEnding options d).map fun _ => () := by
  unfold dispatchEnding payloadEnding
  rw [if_pos supported]
  cases Event.ofDelivered d.name d.data with
  | ok event =>
    dsimp only
    rw [if_neg served]
  | error failure => rfl

/-- A delivery that is withheld is not handled when it is dispatched. -/
theorem dispatchEnding_withheld (m : Memory) (options : Options)
    (withheld : d.Withheld settings.listed) :
    (m.dispatchEnding settings options d).platform = m := by
  rcases m.dispatchEnding_cases settings options d with ⟨kept, -⟩ | ⟨-, -, served, -⟩
  · exact kept
  · exact absurd withheld served

theorem deliveryEnding_withheld (m : Memory) (withheld : d.Withheld settings.listed)
    (c : Connection) : (m.deliveryEnding settings c d).platform = m := by
  rcases m.deliveryEnding_platform settings c d with kept | same
  · exact kept
  · rw [same]
    exact m.dispatchEnding_withheld (.ofSettings settings) withheld

end Memory

/-- A private repository is served only when it is listed. A delivery of one that is not listed
leaves the platform as it is, and every other delivery that tells of an event is dispatched as it is
handled. -/
theorem withheld_or_handled {env : Environment} {settings : Settings} {names : List String}
    (loads : Settings.ofEnvironment env = .ok settings) (lists : env.Lists names)
    (free : ∀ name ∈ names, ',' ∉ name.toList) (m : Memory) (d : Delivery) :
    (d.Withheld names →
      (∀ options, ((Pipeline.dispatch Memory.ops settings options d.name d.data).on
        ⟨m, .empty⟩).2.platform = m) ∧
      ∀ connection : Memory.Connection,
        ((Pipeline.deliver Memory.ops settings connection.connect d).on
          ⟨m, .empty⟩).2.platform = m) ∧
    (¬ d.Withheld names → ∀ event, d.TellsOf event → ∀ options,
      let dispatched :=
        (Pipeline.dispatch Memory.ops settings options d.name d.data).on ⟨m, .empty⟩
      let handled := (Pipeline.handlePayload Memory.ops options d.name d.data).on ⟨m, .empty⟩
      dispatched.2.platform = handled.2.platform ∧
        dispatched.1 = handled.1.map fun _ => ()) := by
  rw [← listed_eq loads lists free]
  constructor
  · intro withheld
    constructor
    · intro options
      rw [(Memory.dispatch_ends m settings options d).on_eq.2.1]
      exact m.dispatchEnding_withheld options withheld
    · intro connection
      rw [(Memory.delivery_ends m settings connection d).on_eq.2.1]
      exact m.deliveryEnding_withheld withheld connection
  · intro served event tells options
    obtain ⟨came, left, -⟩ := (Memory.dispatch_ends m settings options d).on_eq
    obtain ⟨cameToo, leftToo, -⟩ := (Memory.payload_ends m options d).on_eq
    have same := m.dispatchEnding_eq options tells.supported served
    constructor
    · rw [left, leftToo, same]
      rfl
    · rw [came, cameToo, same]
      rfl

def examplePrivatePush (fullName : String) : Delivery :=
  ⟨"pull_request", .obj [("action", .str "synchronize"), ("installation", .obj [("id", .int 1)]),
    ("repository", .obj [("id", .int 1), ("name", .str "r"), ("url", .str "u"),
      ("full_name", .str fullName), ("private", .bool true)]),
    ("pull_request", .obj [("number", .int 7)])]⟩

def exampleEnvironment : Environment := [("REPO_ALLOWLIST", "o/a,o/b")]

/-- The settings that the example environment gives; the lifetime of a token is 300 seconds. -/
def exampleListed : Settings where
  webhookSecret := none
  privateKey := none
  appId := none
  token := none
  logThreshold := .severity 30
  allowlist := some ["o/a", "o/b"]
  telegramToken := none
  telegramChat := none
  tokenLifetime := .finite false 5277655813324800 (-44)
  dryRun := false
  host := "0.0.0.0"
  port := 8080
  approvedLabel := "approved"
  bot := "@slab-ci"
  fastTarget := "cpu_fast_test"
  fullTargets := Text.split ',' Settings.defaultFullTargets

/-- Of two pushes to private repositories the one that is listed is handled. -/
theorem listed_push_handled :
    let options := Options.ofSettings exampleListed
    let dispatched (d : Delivery) :=
      (Pipeline.dispatch Memory.ops exampleListed options d.name d.data).on ⟨.empty, .empty⟩
    (dispatched (examplePrivatePush "o/c")).2.platform = .empty ∧
      (dispatched (examplePrivatePush "o/b")).2.platform.commentsOf 7 =
        ["@slab-ci cpu_fast_test"] := by
  intro options dispatched
  have loads : Settings.ofEnvironment exampleEnvironment = .ok exampleListed := rfl
  have lists : exampleEnvironment.Lists ["o/a", "o/b"] := rfl
  have gate := withheld_or_handled loads lists (by decide) .empty
  constructor
  · exact ((gate (examplePrivatePush "o/c")).1 (by decide)).1 options
  · obtain ⟨same, -⟩ := (gate (examplePrivatePush "o/b")).2 (by decide) _ rfl options
    have left := congrArg (fun m : Memory => m.commentsOf 7) same
    exact left.trans (by decide)

/-- What the handling of an object comes to: actions, a malformed event, or a transient failure. -/
theorem Memory.payloadEnding_cases (m : Memory) (options : Options) {d : Delivery}
    {fields : Event.Payload} (isObject : d.data = .obj fields) :
    (∃ actions, (m.payloadEnding options d).outcome = .ok actions) ∨
      (∃ cause, (m.payloadEnding options d).outcome = .error (.malformed cause)) ∨
      ∃ failure, failure.isTransient = true ∧
        (m.payloadEnding options d).outcome = .error failure := by
  unfold Memory.payloadEnding
  cases read : Event.ofDelivered d.name d.data with
  | ok event =>
    obtain ⟨made, calls⟩ := m.eventEnding_calls options event
    by_cases meets : m.Meets made
    · exact .inr (.inr (calls.fails meets))
    · exact .inl (calls.succeeds meets)
  | error failure =>
    rw [isObject] at read
    obtain ⟨cause, rfl⟩ := Event.ofDelivered_error read
    exact .inr (.inl ⟨cause, rfl⟩)

theorem count_answerTo (outcome : Except Failure Unit) (kind : ActionKind) (result : ActionResult) :
    (answerTo outcome).2.count (.action kind result) = 0 := by
  cases outcome with
  | ok value => rfl
  | error failure =>
    unfold answerTo
    dsimp only
    split
    · rfl
    · split
      · rfl
      · rfl

/-- Runs of one delivery that come to the same: it is handled, dispatched and received by the
webhook. -/
structure Agree (handled : Except Failure (List Action) × Scene Memory)
    (dispatched : Except Failure Unit × Scene Memory)
    (received : Except Failure DeliveryStatus × Scene Memory) : Prop where
  platform : dispatched.2.platform = handled.2.platform ∧
    received.2.platform = handled.2.platform
  actions : ∀ kind result,
    dispatched.2.journal.count (.action kind result) =
        handled.2.journal.count (.action kind result) ∧
      received.2.journal.count (.action kind result) =
        handled.2.journal.count (.action kind result)
  outcome : dispatched.1 = handled.1.map fun _ => ()
  answered : received.1 = .ok .ok ↔
    (∃ actions, handled.1 = .ok actions) ∨ ∃ cause, handled.1 = .error (.malformed cause)
  redelivered : received.1 = .ok .badGateway ↔
    ∃ failure, failure.isTransient = true ∧ handled.1 = .error failure

/-- The answer tells whether the pipeline got through, the payload was malformed, or a later attempt
may get further. -/
theorem answered_iff {σ : Type} {e : Ending σ (List Action)}
    (fates : (∃ actions, e.outcome = .ok actions) ∨
      (∃ cause, e.outcome = .error (.malformed cause)) ∨
      ∃ failure, failure.isTransient = true ∧ e.outcome = .error failure) :
    ((e.map fun _ => ()).answered.outcome = .ok .ok ↔
        (∃ actions, e.outcome = .ok actions) ∨ ∃ cause, e.outcome = .error (.malformed cause)) ∧
      ((e.map fun _ => ()).answered.outcome = .ok .badGateway ↔
        ∃ failure, failure.isTransient = true ∧ e.outcome = .error failure) := by
  rcases fates with ⟨actions, done⟩ | ⟨cause, failed⟩ | ⟨failure, transient, failed⟩
  · have outcome : (e.map fun _ => ()).outcome = .ok () := congrArg (Except.map fun _ => ()) done
    rw [answered_ok outcome, done]
    simp
  · have outcome : (e.map fun _ => ()).outcome = .error (.malformed cause) :=
      congrArg (Except.map fun _ => ()) failed
    rw [answered_malformed outcome, failed]
    simp [Failure.isTransient]
  · have outcome : (e.map fun _ => ()).outcome = .error failure :=
      congrArg (Except.map fun _ => ()) failed
    rw [answered_transient transient outcome, failed]
    constructor
    · constructor
      · intro answered
        nomatch answered
      · rintro (⟨actions, done⟩ | ⟨cause, malformed⟩)
        · nomatch done
        · obtain rfl := Except.error.inj malformed
          nomatch transient
    · simp [transient]

/-- A delivery with an installation that is not withheld runs the same pipeline, whichever way it
gets there. -/
theorem entry_points_agree {settings : Settings} {d : Delivery} {id : Json}
    (supported : d.isSupported = true) (installed : d.Installed id)
    (served : ¬ d.Withheld settings.listed) (m : Memory) :
    Agree ((Pipeline.handlePayload Memory.ops (.ofSettings settings) d.name d.data).on ⟨m, .empty⟩)
      ((Pipeline.dispatch Memory.ops settings (.ofSettings settings) d.name d.data).on ⟨m, .empty⟩)
      ((Pipeline.deliver Memory.ops settings (fun _ => pure ()) d).on ⟨m, .empty⟩) := by
  obtain ⟨fields, isObject⟩ := installed.object
  have same := m.dispatchEnding_eq (.ofSettings settings) supported served
  obtain ⟨came, left, moved⟩ := (Memory.payload_ends m (.ofSettings settings) d).on_eq
  obtain ⟨cameBack, leftToo, movedToo⟩ :=
    (Memory.dispatch_ends m settings (.ofSettings settings) d).on_eq
  have received : (Pipeline.deliver Memory.ops settings (fun _ => pure ()) d).Ends m _ :=
    Memory.delivery_ends m settings (.denying fun _ => none) d
  obtain ⟨answer, leftLast, movedLast⟩ := received.on_eq
  rw [same] at cameBack leftToo movedToo
  have granted : m.connectedEnding settings d
      ((Memory.Connection.denying fun _ => none).fetched id).outcome =
        (m.payloadEnding (.ofSettings settings) d).map fun _ => () := same
  rw [Memory.deliveryEnding_connected supported installed, granted] at answer leftLast movedLast
  obtain ⟨answered, redelivered⟩ :=
    answered_iff (m.payloadEnding_cases (.ofSettings settings) isObject)
  rw [← answer, ← came] at answered redelivered
  refine ⟨⟨?_, ?_⟩, ?_, ?_, answered, redelivered⟩
  · rw [leftToo, left]
    rfl
  · rw [leftLast, left]
    rfl
  · intro kind result
    unfold Journal.count
    rw [moved, movedToo, movedLast]
    simp [Ending.map, Ending.answered, count_answerTo, Memory.Connection.denying]
  · rw [cameBack, came]
    rfl

/-- A push whose comment is not posted: it fails when it is handled, and is to be sent again. -/
theorem failed_push_redelivered :
    ((Pipeline.deliver Memory.ops exampleListed (fun _ => pure ()) (examplePrivatePush "o/b")).on
      ⟨Memory.empty.withFailing [.postComment], .empty⟩).1 = .ok .badGateway := by
  have supported : (examplePrivatePush "o/b").isSupported = true := rfl
  have installed : (examplePrivatePush "o/b").Installed (.int 1) := ⟨_, _, rfl, rfl, rfl⟩
  have served : ¬ (examplePrivatePush "o/b").Withheld exampleListed.listed := by decide
  have agree := entry_points_agree supported installed served
    (Memory.empty.withFailing [.postComment])
  exact agree.redelivered.2 ⟨_, rfl, rfl⟩

end SuiteTrigger
