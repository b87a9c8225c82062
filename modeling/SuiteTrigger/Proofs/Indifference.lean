import SuiteTrigger.Proofs.Agreement
import SuiteTrigger.Proofs.Exchanges

/-!
# What plays no part in handling an event

What is done for an event is decided by its matter and by the issue that it is on: new code, a
review with its outcome, or nothing. The rest of the payload only shows up in the log. So payloads
that tell of the same matter on the same issue lead to the same run, in memory and over HTTP
(`same_matter_same_run`).
-/

namespace SuiteTrigger

open Http

variable {σ α : Type}

theorem Work.change_agrees (step : σ → Except Failure α × σ) :
    (change step).Agrees Eq (change step) :=
  agrees_change fun _ _ same => same ▸ ⟨rfl, rfl⟩

theorem Memory.call_agrees (method : Method) (effect : Memory → α × Memory) :
    (Memory.call method effect).Agrees Eq (Memory.call method effect) :=
  Work.change_agrees _

theorem Memory.ops_steady (issue : IssueRef) : Memory.ops.Steady Eq issue where
  labels := by
    rw [Memory.ops_labels]
    exact Memory.call_agrees _ _
  addLabels names := by
    rw [Memory.ops_addLabels]
    exact Memory.call_agrees _ _
  removeLabel name := by
    rw [Memory.ops_removeLabel]
    exact Memory.call_agrees _ _
  anyComment wanted := by
    rw [Memory.ops_anyComment]
    exact Memory.call_agrees _ _
  postComment body := by
    rw [Memory.ops_postComment]
    exact Memory.call_agrees _ _

namespace Remote

theorem countCall_agrees (url : String) : (countCall url).Agrees Eq (countCall url) :=
  (Work.change_agrees _).bind fun _ => Work.agrees_count _ _

theorem called_agrees {next : Work Client α} (url : String) (level : Level) (text : String)
    (rest : next.Agrees Eq next) :
    (countCall url >>= fun _ => Work.log level text >>= fun _ => next).Agrees Eq
      (countCall url >>= fun _ => Work.log level text >>= fun _ => next) := by
  refine (countCall_agrees url).bind fun _ => ?_
  exact (Work.agrees_log _ _ _ _).bind fun _ => rest

theorem run_agrees (call : String) (step : Client → Except CallError α × Client) :
    (run call step).Agrees Eq (run call step) :=
  Work.change_agrees _

theorem ops_steady (issue : IssueRef) : ops.Steady Eq issue where
  labels := called_agrees _ _ _ (run_agrees _ _)
  addLabels names := by
    refine Work.Agrees.bind (called_agrees _ _ _ ?_) fun _ => Work.agrees_pure ()
    refine (run_agrees _ _).bind fun data => ?_
    exact (Work.agrees_ofExcept _).bind fun items => Work.agrees_ofExcept _
  removeLabel name := by
    refine called_agrees _ _ _ ?_
    refine (run_agrees _ _).bind fun attached => ?_
    cases attached with
    | true => exact Work.agrees_pure true
    | false => exact (Work.agrees_log _ _ _ _).bind fun _ => Work.agrees_pure false
  anyComment wanted := called_agrees _ _ _ (run_agrees _ _)
  postComment body := by
    refine called_agrees _ _ _ ?_
    exact (run_agrees _ _).bind fun data => Work.agrees_ofExcept _

end Remote

theorem told_agrees {p : Platform σ} {name name' : String} {data data' : Json}
    {event event' : Event} (steady : ∀ issue, p.Steady Eq issue) (options : Options)
    (told : Event.ofDelivered name data = .ok event)
    (told' : Event.ofDelivered name' data' = .ok event') (matter : event.matter = event'.matter)
    (issue : event.pr.issue = event'.pr.issue) :
    (Pipeline.handlePayload p options name data).Agrees Eq
      (Pipeline.handlePayload p options name' data') := by
  unfold Pipeline.handlePayload
  rw [told, told']
  exact handleEvent_agrees (steady _) options matter issue

/-- Two payloads that tell of events of the same matter, on pull requests with the same address of
the repository and the same number, are handled alike, whatever else they hold: on every platform in
memory, which tells the methods that fail and records those that are called, and over HTTP whatever
the replies are, where the client records the requests. -/
theorem same_matter_same_run {name name' : String} {data data' : Json} {event event' : Event}
    (told : Event.ofDelivered name data = .ok event)
    (told' : Event.ofDelivered name' data' = .ok event') (matter : event.matter = event'.matter)
    (repository : event.pr.repoUrl = event'.pr.repoUrl)
    (number : event.pr.number = event'.pr.number) (options : Options) :
    (∀ (m : Memory) (j j' : Journal),
      SameRun Eq ((Pipeline.handlePayload Memory.ops options name data).on ⟨m, j⟩)
        ((Pipeline.handlePayload Memory.ops options name' data').on ⟨m, j'⟩)) ∧
    ∀ (c : Client) (j j' : Journal),
      SameRun Eq ((Pipeline.handlePayload Remote.ops options name data).on ⟨c, j⟩)
        ((Pipeline.handlePayload Remote.ops options name' data').on ⟨c, j'⟩) := by
  have issue : event.pr.issue = event'.pr.issue := by
    unfold PullRequestRef.issue
    rw [repository, number]
  constructor
  · intro m j j'
    exact (told_agrees Memory.ops_steady options told told' matter issue).sameRun rfl j j'
  · intro c j j'
    exact (told_agrees Remote.ops_steady options told told' matter issue).sameRun rfl j j'

/-- A push whose payload lists the marker, spells its number as text and has members of its own. -/
def exampleStalePush : Delivery :=
  ⟨"pull_request", .obj [("action", .str "opened"),
    ("repository", .obj [("id", .int 2), ("name", .str "other"), ("url", .str "u"),
      ("full_name", .str "o/r"), ("private", .str "no")]),
    ("pull_request", .obj [("number", .str " 7 "), ("title", .str "t"),
      ("labels", .arr [.obj [("name", .str "approved")]]),
      ("head", .obj [("ref", .str "b"), ("sha", .str "c0ffee")])])]⟩

/-- The labels that a payload lists do not decide: no marker is taken off that is not there. -/
theorem stale_labels_ignored :
    ((Pipeline.handlePayload Memory.ops ⟨exampleConfig, false⟩ exampleStalePush.name
      exampleStalePush.data).on ⟨.empty, .empty⟩).1 =
        .ok [.postComment "@slab-ci cpu_fast_test" true] := by
  have told : exampleStalePush.TellsOf (.codePush
      ⟨"u", 7, some "o/r", some "c0ffee", some (.ofList ["approved"])⟩ "opened") := rfl
  have same := (same_matter_same_run examplePush_tells told rfl rfl rfl ⟨exampleConfig, false⟩).1
    .empty .empty .empty
  rw [← same.outcome]
  rfl

end SuiteTrigger
