import SuiteTrigger.Pipeline.Delivery
import SuiteTrigger.Proofs.MemoryEvents

namespace SuiteTrigger

/-- The platform with other methods set to fail. -/
def Memory.withFailing (m : Memory) (methods : List Method) : Memory :=
  { m with failing := methods }

@[simp] theorem Memory.contents_withFailing (m : Memory) (methods : List Method) :
    (m.withFailing methods).contents = m.contents := rfl

/-- The delivery is well formed and tells of an event. -/
def Delivery.TellsOf (d : Delivery) (event : Event) : Prop :=
  Event.ofDelivered d.name d.data = .ok event

/-- A delivery and the methods that fail while it is handled. -/
structure Attempt where
  failing : List Method
  delivery : Delivery

namespace Attempt

variable {config : TriggerConfig} {a : Attempt} {event : Event}

def run (config : TriggerConfig) (a : Attempt) (m : Memory) :
    Except Failure (List Action) × Memory :=
  let (outcome, scene) :=
    (Pipeline.handlePayload Memory.ops ⟨config, false⟩ a.delivery.name a.delivery.data).on
      ⟨m.withFailing a.failing, .empty⟩
  (outcome, scene.platform)

/-- An attempt fails in a way that a later one may get past. -/
def Fails (config : TriggerConfig) (a : Attempt) (m : Memory) : Prop :=
  ∃ failure, (a.run config m).1 = .error failure ∧ failure.isTransient = true

instance (config : TriggerConfig) (a : Attempt) (m : Memory) : Decidable (a.Fails config m) :=
  match outcome : (a.run config m).1 with
  | .ok _ => .isFalse fun ⟨_, failed, _⟩ => nomatch outcome.symm.trans failed
  | .error failure =>
    decidable_of_iff (failure.isTransient = true)
      ⟨fun transient => ⟨failure, outcome, transient⟩,
        fun ⟨_, failed, transient⟩ => Except.error.inj (outcome.symm.trans failed) ▸ transient⟩

theorem run_eq (tells : a.delivery.TellsOf event) (m : Memory) :
    a.run config m = (((m.withFailing a.failing).eventEnding ⟨config, false⟩ event).outcome,
      ((m.withFailing a.failing).eventEnding ⟨config, false⟩ event).platform) := by
  obtain ⟨outcome, platform, -⟩ :=
    (Memory.handlePayload_ends tells ⟨config, false⟩ (m.withFailing a.failing)).on_eq
  rw [← outcome, ← platform]
  rfl

/-- A delivery that tells of no event fails for good and leaves the contents alone. -/
theorem run_refused {failure : Failure}
    (refused : Event.ofDelivered a.delivery.name a.delivery.data = .error failure) (m : Memory) :
    a.run config m = (.error failure, m.withFailing a.failing) := by
  obtain ⟨outcome, platform, -⟩ :=
    (Memory.handlePayload_stops refused ⟨config, false⟩ (m.withFailing a.failing)).on_eq
  exact Prod.ext outcome platform

/-- An attempt performs some first part of what its event asks for. -/
theorem run_begins (config : TriggerConfig) (tells : a.delivery.TellsOf event) (m : Memory) :
    ∃ done, done <+: m.decided config event ∧
      (a.run config m).2.contents = (m.performAll event.pr.number done).contents := by
  obtain ⟨done, first, contents⟩ := (m.withFailing a.failing).eventEnding_begins config event
  refine ⟨done, first, ?_⟩
  rw [run_eq tells, contents]
  exact Memory.contents_performAll (m.contents_withFailing _) _ _

/-- An attempt during which no method fails gives and performs what its event asks for. -/
theorem run_succeeds (config : TriggerConfig) (none : a.failing = [])
    (tells : a.delivery.TellsOf event) (m : Memory) :
    (a.run config m).1 = .ok (m.decided config event) ∧
      (a.run config m).2.contents =
        (m.performAll event.pr.number (m.decided config event)).contents := by
  have succeeds := Memory.eventEnding_succeeds (m := m.withFailing a.failing) none config event
  rw [run_eq tells]
  refine ⟨succeeds.outcome, ?_⟩
  exact succeeds.contents.trans (Memory.contents_performAll (m.contents_withFailing _) _ _)

/-- An attempt that fails transiently did not read the labels, or was stopped at an action, with
those before it performed. -/
theorem fails_cases (tells : a.delivery.TellsOf event) {m : Memory} (fails : a.Fails config m) :
    .getLabels ∈ a.failing ∧ (a.run config m).2.contents = m.contents ∨
      .getLabels ∉ a.failing ∧ ∃ done,
        (m.withFailing a.failing).StopsAfter event.pr.number done (m.decided config event) ∧
        (a.run config m).2.contents = (m.performAll event.pr.number done).contents := by
  obtain ⟨failure, failed, -⟩ := fails
  rw [run_eq tells] at failed ⊢
  rcases (m.withFailing a.failing).eventEnding_cases config event with
    succeeds | ⟨unread, failing⟩ | ⟨read, done, stops, failing⟩
  · rw [succeeds.outcome] at failed
    nomatch failed
  · exact .inl ⟨unread, failing.contents⟩
  · refine .inr ⟨read, done, stops, ?_⟩
    exact failing.contents.trans (Memory.contents_performAll (m.contents_withFailing _) _ _)

end Attempt

def exampleConfig : TriggerConfig := ⟨"approved", "@slab-ci", "cpu_fast_test", ["cpu_test"]⟩

def exampleRef : PullRequestRef := ⟨"u", 7, none, none, some .empty⟩

def examplePayload (action : String) (review : List (String × Json)) : Json :=
  .obj ([("action", .str action),
    ("repository", .obj [("id", .int 1), ("name", .str "r"), ("url", .str "u")]),
    ("pull_request", .obj [("number", .int 7)])] ++ review)

def examplePush : Delivery := ⟨"pull_request", examplePayload "synchronize" []⟩

def exampleApproval : Delivery :=
  ⟨"pull_request_review",
    examplePayload "submitted" [("review", .obj [("state", .str "approved")])]⟩

theorem examplePush_tells : examplePush.TellsOf (.codePush exampleRef "synchronize") := rfl

theorem exampleApproval_tells :
    exampleApproval.TellsOf (.reviewSubmitted exampleRef .approved) := rfl

end SuiteTrigger
