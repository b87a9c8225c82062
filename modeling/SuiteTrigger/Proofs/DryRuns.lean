import SuiteTrigger.Proofs.Frames
import SuiteTrigger.Proofs.Lockstep

/-!
# Dry runs

A dry run of the pipeline reads labels at most and fails only where the payload is refused or the
labels are not read; where a real run from the same platform succeeds, the dry run told its actions
(`Foretold`). What a step of a session comes to is decided by the contents of the platform and by
the methods that fail (`Session.Turn.report_eq`), and a dry step changes neither
(`Session.Step.dry_run`). So dry steps may be put in anywhere without a trace in the other steps
(`dry_runs_foretell_and_keep`).
-/

namespace SuiteTrigger

namespace Memory

/-- Two scenes with the same contents and the same failing methods, whose runs have moved the same
counters and have called the same methods since `k` and `k'`. -/
structure Twins (k k' : List Method) (s s' : Scene Memory) : Prop where
  contents : s.platform.contents = s'.platform.contents
  failing : s.platform.failing = s'.platform.failing
  calls : ∃ made, s.platform.calls = k ++ made ∧ s'.platform.calls = k' ++ made
  moves : s.journal.moves = s'.journal.moves

namespace Twins

variable {k k' : List Method} {s s' : Scene Memory}

theorem record (twins : Twins k k' s s') (methods : List Method) :
    Twins k k' { s with platform := s.platform.record methods }
      { s' with platform := s'.platform.record methods } where
  contents := twins.contents
  failing := twins.failing
  calls := by
    obtain ⟨made, reached, reached'⟩ := twins.calls
    refine ⟨made ++ methods, ?_, ?_⟩
    · rw [Memory.record, reached, List.append_assoc]
    · rw [Memory.record, reached', List.append_assoc]
  moves := twins.moves

theorem setLabels (twins : Twins k k' s s') (n : Int) (set : LabelSet) :
    Twins k k' { s with platform := s.platform.setLabels n set }
      { s' with platform := s'.platform.setLabels n set } where
  contents := contents_setLabels twins.contents n set
  failing := twins.failing
  calls := twins.calls
  moves := twins.moves

theorem setComments (twins : Twins k k' s s') (n : Int) (bodies : List String) :
    Twins k k' { s with platform := s.platform.setComments n bodies }
      { s' with platform := s'.platform.setComments n bodies } where
  contents := contents_setComments twins.contents n bodies
  failing := twins.failing
  calls := twins.calls
  moves := twins.moves

theorem call {α : Type} {effect : Memory → α × Memory} (method : Method)
    (effects : ∀ s s', Twins k k' s s' → (effect s.platform).1 = (effect s'.platform).1 ∧
      Twins k k' { s with platform := (effect s.platform).2 }
        { s' with platform := (effect s'.platform).2 }) :
    (Memory.call method effect).Lockstep (Twins k k') := by
  refine Work.lockstep_change fun s s' twins => ?_
  have recorded := twins.record [method]
  obtain ⟨value, after⟩ := effects _ _ recorded
  by_cases fails : method ∈ s.platform.failing
  · have failsToo : method ∈ s'.platform.failing := twins.failing ▸ fails
    dsimp only
    rw [if_pos fails, if_pos failsToo]
    exact ⟨rfl, recorded⟩
  · have worksToo : method ∉ s'.platform.failing := twins.failing ▸ fails
    dsimp only
    rw [if_neg fails, if_neg worksToo]
    exact ⟨congrArg Except.ok value, after⟩

theorem upholds (k k' : List Method) :
    ops.Upholds fun _ work => work.Lockstep (Twins k k') where
  toComposes := by
    refine Work.lockstep_composes ?_ ?_ ?_
    · intro level text s s' twins
      exact ⟨rfl, twins.contents, twins.failing, twins.calls, twins.moves⟩
    · intro c s s' twins
      exact ⟨rfl, twins.contents, twins.failing, twins.calls, congrArg (· ++ [c]) twins.moves⟩
    · intro level text s s' twins
      exact ⟨rfl, twins.contents, twins.failing, twins.calls, twins.moves⟩
  labels issue := by
    rw [ops_labels]
    refine call _ fun s s' twins => ?_
    dsimp only
    rw [labelsOf_eq twins.contents]
    exact ⟨rfl, twins⟩
  addLabels issue names := by
    rw [ops_addLabels]
    refine call _ fun s s' twins => ?_
    dsimp only
    rw [labelsOf_eq twins.contents]
    exact ⟨rfl, twins.setLabels _ _⟩
  removeLabel issue name := by
    rw [ops_removeLabel]
    refine call _ fun s s' twins => ?_
    dsimp only
    rw [labelsOf_eq twins.contents]
    exact ⟨rfl, twins.setLabels _ _⟩
  anyComment issue wanted := by
    rw [ops_anyComment]
    refine call _ fun s s' twins => ?_
    dsimp only
    rw [commentsOf_eq twins.contents]
    exact ⟨rfl, twins⟩
  postComment issue body := by
    rw [ops_postComment]
    refine call _ fun s s' twins => ?_
    dsimp only
    rw [commentsOf_eq twins.contents]
    exact ⟨rfl, twins.setComments _ _⟩

end Twins

/-- A platform as a run leaves it that reads labels at most. -/
def ReadAtMost (m q : Memory) : Prop := ∃ made, made <+: [Method.getLabels] ∧ q = m.record made

theorem record_nil (m : Memory) : m.record [] = m := by simp [record]

theorem readAtMost_refl (m : Memory) : m.ReadAtMost m :=
  ⟨[], List.nil_prefix, m.record_nil.symm⟩

theorem readAtMost_record (m : Memory) : m.ReadAtMost (m.record [.getLabels]) :=
  ⟨[.getLabels], List.prefix_rfl, rfl⟩

theorem eventEnding_acts {event : Event} (acts : ¬ event.isIgnored = true) (m : Memory)
    (options : Options) : m.eventEnding options event = m.actEnding options event := by
  cases event with
  | ignored pr kind action => exact absurd rfl acts
  | _ => rfl

theorem eventEnding_dry {options : Options} (dry : options.dryRun = true) (m : Memory)
    (event : Event) : m.ReadAtMost (m.eventEnding options event).platform := by
  by_cases ignored : event.isIgnored = true
  · rw [(m.eventEnding_ignored options ignored).2]
    exact m.readAtMost_refl
  · rw [eventEnding_acts ignored, actEnding]
    by_cases unread : Method.getLabels ∈ m.failing
    · rw [if_pos unread]
      exact m.readAtMost_record
    · rw [if_neg unread]
      dsimp only
      rw [if_pos dry]
      exact m.readAtMost_record

theorem payloadEnding_dry {options : Options} (dry : options.dryRun = true) (m : Memory)
    (d : Delivery) : m.ReadAtMost (m.payloadEnding options d).platform := by
  unfold payloadEnding
  cases Event.ofDelivered d.name d.data with
  | ok event => exact eventEnding_dry dry m event
  | error failure => exact m.readAtMost_refl

theorem dispatchEnding_dry {options : Options} (dry : options.dryRun = true) (m : Memory)
    (settings : Settings) (d : Delivery) :
    m.ReadAtMost (m.dispatchEnding settings options d).platform := by
  rcases m.dispatchEnding_cases settings options d with ⟨kept, -⟩ | ⟨event, -, -, ending⟩
  · rw [kept]
    exact m.readAtMost_refl
  · rw [ending]
    exact eventEnding_dry dry m event

theorem deliveryEnding_dry {settings : Settings} (dry : settings.dryRun = true) (m : Memory)
    (c : Connection) (d : Delivery) :
    m.ReadAtMost (m.deliveryEnding settings c d).platform := by
  rcases m.deliveryEnding_platform settings c d with kept | same
  · rw [kept]
    exact m.readAtMost_refl
  · rw [same]
    exact dispatchEnding_dry dry m settings d

/-- A dry run of actions up to a value that is none ends at that value. -/
theorem applyUntil_dry (pr : PullRequestRef) (actions : List Action) (value : Json) (m : Memory) :
    (Execution.applyUntil ops pr true actions value).Ends m
      ⟨.error (.noMember value "kind"), m, actions.map fun a => .action a.kind .dryRun⟩ := by
  rw [← List.append_nil (actions.map _)]
  refine (applyAfter_dry ops pr [] actions m).bind ?_
  rw [if_pos rfl]
  exact (Work.ends_log _ _ _).andThen (Work.ends_fail m _)

end Memory

/-- The dry run of a delivery calls nothing but the read of the labels and changes nothing. It comes
to what the reading of the payload, the read of the labels and the decision come to, and it tells
the actions of every real run that succeeds. -/
structure Foretold (config : TriggerConfig) (d : Delivery) (m : Memory)
    (dry wet : Except Failure (List Action) × Scene Memory) : Prop where
  calls : ∃ made, made <+: [Method.getLabels] ∧ dry.2.platform.calls = m.calls ++ made
  contents : dry.2.platform.contents = m.contents
  outcome : dry.1 = (Event.ofDelivered d.name d.data).bind fun event =>
    if event.isIgnored then .ok []
    else ((Memory.ops.readLabels event.pr).on ⟨m, .empty⟩).1.map (config.actionsFor · event)
  predicts : ∀ actions, wet.1 = .ok actions → dry.1 = .ok actions

namespace Memory

/-- What a dry run tells of an event. -/
theorem outcome_eventEnding_dry (m : Memory) (config : TriggerConfig) (event : Event) :
    (m.eventEnding ⟨config, true⟩ event).outcome =
      if event.isIgnored then .ok []
      else ((ops.readLabels event.pr).on ⟨m, .empty⟩).1.map (config.actionsFor · event) := by
  by_cases ignored : event.isIgnored = true
  · rw [(m.eventEnding_ignored _ ignored).1, if_pos ignored]
  · rw [eventEnding_acts ignored, if_neg ignored, actEnding]
    by_cases unread : Method.getLabels ∈ m.failing
    · rw [if_pos unread, (readLabels_stops unread event.pr).on_eq.1]
      rfl
    · rw [if_neg unread, (readLabels_ends unread event.pr).on_eq.1]
      rfl

/-- A real run that succeeds performs what the dry run tells. -/
theorem eventEnding_predicted {m : Memory} {config : TriggerConfig} {event : Event}
    {actions : List Action} (gave : (m.eventEnding ⟨config, false⟩ event).outcome = .ok actions) :
    (m.eventEnding ⟨config, true⟩ event).outcome = .ok actions := by
  by_cases ignored : event.isIgnored = true
  · rw [(m.eventEnding_ignored _ ignored).1] at gave ⊢
    exact gave
  rcases m.eventEnding_cases config event with
    succeeds | ⟨-, fails⟩ | ⟨-, done, -, fails⟩
  · rw [succeeds.outcome] at gave
    rw [eventEnding_acts ignored, actEnding]
    by_cases unread : Method.getLabels ∈ m.failing
    · have failed := succeeds.outcome
      rw [eventEnding_acts ignored, actEnding, if_pos unread] at failed
      cases failed
    · rw [if_neg unread, ← gave]
      rfl
  · obtain ⟨failure, -, failed⟩ := fails.outcome
    rw [failed] at gave
    cases gave
  · obtain ⟨failure, -, failed⟩ := fails.outcome
    rw [failed] at gave
    cases gave

theorem payload_foretold (config : TriggerConfig) (d : Delivery) (m : Memory) :
    Foretold config d m
      ((Pipeline.handlePayload ops ⟨config, true⟩ d.name d.data).on ⟨m, .empty⟩)
      ((Pipeline.handlePayload ops ⟨config, false⟩ d.name d.data).on ⟨m, .empty⟩) := by
  obtain ⟨came, left, -⟩ := (m.payload_ends ⟨config, true⟩ d).on_eq
  obtain ⟨cameWet, -, -⟩ := (m.payload_ends ⟨config, false⟩ d).on_eq
  have dry : (Options.mk config true).dryRun = true := rfl
  obtain ⟨made, few, platform⟩ := payloadEnding_dry dry m d
  refine ⟨⟨made, few, ?_⟩, ?_, ?_, ?_⟩
  · rw [left, platform]
    rfl
  · rw [left, platform]
    rfl
  · rw [came, payloadEnding]
    cases Event.ofDelivered d.name d.data with
    | error failure => rfl
    | ok event => exact m.outcome_eventEnding_dry config event
  · intro actions done
    rw [cameWet, payloadEnding] at done
    rw [came, payloadEnding]
    cases read : Event.ofDelivered d.name d.data with
    | error failure =>
      rw [read] at done
      nomatch done
    | ok event =>
      rw [read] at done
      exact eventEnding_predicted done

end Memory

namespace Session

def Step.run (step : Step) (m : Memory) : Except Failure Value × Scene Memory :=
  (step.work Memory.ops fun _ => pure ()).on ⟨m, .empty⟩

/-- A dry step comes to an ending that leaves the platform but for a read of labels. -/
theorem Step.dry_ends {step : Step} (dry : step.isDry = true) (m : Memory) :
    ∃ e, (step.work Memory.ops fun _ => pure ()).Ends m e ∧ m.ReadAtMost e.platform := by
  cases step with
  | handled options d =>
    exact ⟨_, (m.payload_ends options d).map Value.actions, Memory.payloadEnding_dry dry m d⟩
  | dispatched settings options d =>
    exact ⟨_, (m.dispatch_ends settings options d).map fun _ => Value.done,
      Memory.dispatchEnding_dry dry m settings d⟩
  | received settings denied? d =>
    exact ⟨_, (m.delivery_ends settings (.denying denied?) d).map Value.answered,
      Memory.deliveryEnding_dry dry m (.denying denied?) d⟩
  | executed pr dryRun actions beyond? =>
    obtain rfl : dryRun = true := dry
    cases beyond? with
    | none =>
      exact ⟨_, (Memory.applyAfter_dry Memory.ops pr [] actions m).map Value.actions,
        m.readAtMost_refl⟩
    | some value =>
      exact ⟨_, (Memory.applyUntil_dry pr actions value m).map Value.actions, m.readAtMost_refl⟩
  | read pr => nomatch dry

/-- A dry step reads labels at most. -/
theorem Step.dry_run {step : Step} (dry : step.isDry = true) (m : Memory) :
    m.ReadAtMost (step.run m).2.platform := by
  obtain ⟨e, ends, few⟩ := Step.dry_ends dry m
  have left : (step.run m).2.platform = e.platform := ends.on_eq.2.1
  rwa [left]

/-- What happens on a platform in memory: a step runs, labels or comments are changed by hand, or
other methods fail from now on. -/
inductive Turn where
  | step (s : Step)
  | setLabels (n : Int) (set : LabelSet)
  | setComments (n : Int) (bodies : List String)
  | setFailing (methods : List Method)

/-- What is seen of a turn: its outcome, the counters it moves and the methods it calls. -/
structure Report where
  outcome : Except Failure Value
  moves : List Counter
  calls : List Method

namespace Turn

variable {m m' : Memory}

def isDry : Turn → Bool
  | step s => s.isDry
  | _ => false

def leaves : Turn → Memory → Memory
  | step s, m => (s.run m).2.platform
  | setLabels n set, m => m.setLabels n set
  | setComments n bodies, m => m.setComments n bodies
  | setFailing methods, m => m.withFailing methods

def report : Turn → Memory → Report
  | step s, m =>
    ⟨(s.run m).1, (s.run m).2.journal.moves, (s.run m).2.platform.calls.drop m.calls.length⟩
  | _, _ => ⟨.ok .done, [], []⟩

end Turn

/-- Two platforms with the same contents on which the same methods fail. -/
structure Alike (m m' : Memory) : Prop where
  contents : m.contents = m'.contents
  failing : m.failing = m'.failing

namespace Turn

variable {m m' : Memory}

theorem report_eq (alike : Alike m m') (turn : Turn) :
    turn.report m = turn.report m' ∧ Alike (turn.leaves m) (turn.leaves m') := by
  cases turn with
  | step s =>
    have start : Memory.Twins m.calls m'.calls ⟨m, .empty⟩ ⟨m', .empty⟩ :=
      ⟨alike.contents, alike.failing, ⟨[], (List.append_nil _).symm, (List.append_nil _).symm⟩, rfl⟩
    have upholds := Memory.Twins.upholds m.calls m'.calls
    have lockstep := upholds.work (fun _ => upholds.pure ()) s
    obtain ⟨outcome, twins⟩ := lockstep _ _ start
    obtain ⟨made, reached, reached'⟩ := twins.calls
    have calls : (s.run m).2.platform.calls.drop m.calls.length = made := by
      rw [Step.run, reached, List.drop_left]
    have calls' : (s.run m').2.platform.calls.drop m'.calls.length = made := by
      rw [Step.run, reached', List.drop_left]
    refine ⟨?_, twins.contents, twins.failing⟩
    rw [report, report, calls, calls', Step.run, Step.run, outcome, twins.moves]
  | setLabels n set =>
    exact ⟨rfl, Memory.contents_setLabels alike.contents n set, alike.failing⟩
  | setComments n bodies =>
    exact ⟨rfl, Memory.contents_setComments alike.contents n bodies, alike.failing⟩
  | setFailing methods => exact ⟨rfl, alike.contents, rfl⟩

theorem leaves_dry {turn : Turn} (dry : turn.isDry = true) (m : Memory) :
    Alike (turn.leaves m) m := by
  cases turn with
  | step s =>
    obtain ⟨made, -, left⟩ := Step.dry_run dry m
    rw [leaves, left]
    exact ⟨rfl, rfl⟩
  | _ => nomatch dry

end Turn

/-- A turn at its place in a session. One that is put in besides is a dry run. -/
structure Slot where
  turn : Turn
  isExtra : Bool
  dry : isExtra = true → turn.isDry = true

namespace Slot

def trace : List Slot → Memory → List (Slot × Report)
  | [], _ => []
  | slot :: slots, m => (slot, slot.turn.report m) :: trace slots (slot.turn.leaves m)

def leavesAll (slots : List Slot) (m : Memory) : Memory :=
  slots.foldl (fun m slot => slot.turn.leaves m) m

/-- The session without what was put in besides. -/
def proper (slots : List Slot) : List Slot := slots.filter (!·.isExtra)

/-- Without what was put in, the turns of a session come to the same and leave a platform that is
alike. -/
theorem trace_proper (slots : List Slot) {m m' : Memory} (alike : Alike m m') :
    (trace slots m).filter (!·.1.isExtra) = trace (proper slots) m' ∧
      Alike (leavesAll slots m) (leavesAll (proper slots) m') := by
  induction slots generalizing m m' with
  | nil => exact ⟨rfl, alike⟩
  | cons slot slots ih =>
    cases extra : slot.isExtra with
    | false =>
      obtain ⟨report, after⟩ := slot.turn.report_eq alike
      obtain ⟨rest, last⟩ := ih after
      have stays : proper (slot :: slots) = slot :: proper slots :=
        List.filter_cons_of_pos (by simp [extra])
      rw [stays, trace, trace, List.filter_cons_of_pos (by simp [extra]), report, rest]
      exact ⟨rfl, last⟩
    | true =>
      obtain ⟨same, fails⟩ := slot.turn.leaves_dry (slot.dry extra) m
      have still : Alike (slot.turn.leaves m) m' :=
        ⟨same.trans alike.contents, fails.trans alike.failing⟩
      obtain ⟨rest, last⟩ := ih still
      have goes : proper (slot :: slots) = proper slots :=
        List.filter_cons_of_neg (by simp [extra])
      rw [goes, trace, List.filter_cons_of_neg (by simp [extra]), rest]
      exact ⟨rfl, last⟩

end Slot

end Session

/-- A dry run foretells the real run of the same delivery and changes nothing. Put in anywhere into
a session, dry runs leave no trace in what the other turns come to nor in the labels and comments at
the end. -/
theorem dry_runs_foretell_and_keep :
    (∀ config d m, Foretold config d m
      ((Pipeline.handlePayload Memory.ops ⟨config, true⟩ d.name d.data).on ⟨m, .empty⟩)
      ((Pipeline.handlePayload Memory.ops ⟨config, false⟩ d.name d.data).on ⟨m, .empty⟩)) ∧
    ∀ slots m, (Session.Slot.trace slots m).filter (!·.1.isExtra) =
        Session.Slot.trace (Session.Slot.proper slots) m ∧
      (Session.Slot.leavesAll slots m).contents =
        (Session.Slot.leavesAll (Session.Slot.proper slots) m).contents := by
  constructor
  · intro config d m
    exact m.payload_foretold config d
  · intro slots m
    obtain ⟨trace, last⟩ := Session.Slot.trace_proper slots ⟨rfl, rfl⟩
    exact ⟨trace, last.contents⟩

end SuiteTrigger
