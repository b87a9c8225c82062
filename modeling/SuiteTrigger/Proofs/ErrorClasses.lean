import SuiteTrigger.Proofs.CallErrors
import SuiteTrigger.Proofs.EntryPoints
import SuiteTrigger.Proofs.FailStop
import SuiteTrigger.Proofs.LabelPages

/-!
# Errors keep their class

What fails in a call is passed on through all layers. A list of actions stops at the first action
in which an error is raised (`Remote.Breaks`), an event fails when its labels are not read or its
actions stop (`Remote.Trips`), and a delivery when it is not connected or its event fails
(`Remote.FailsWith`). Each of them fails with nothing else. On the way a transient failure is told
with the action and those that were applied before it, and it is answered with 502; all other
failures are passed on as they are and escape.
-/

namespace SuiteTrigger

open Http

namespace Work

variable {α : Type}

/-- Whatever the client, the work has an ending. -/
def Settles (work : Work Client α) : Prop := ∀ c, ∃ e, work.Ends c e

theorem settles_composes : Composes Client.callCount fun _ work => Settles work where
  ofExcept result c := ⟨_, ends_ofExcept c result⟩
  log level text c := ⟨_, ends_log c level text⟩
  count counter c := ⟨_, ends_count c counter⟩
  tell level text c := ⟨_, (ends_platform c).andThen (ends_log c _ _)⟩
  bind first rest c := by
    obtain ⟨⟨outcome, d, moves⟩, ends⟩ := first c
    cases outcome with
    | error failure => exact ⟨_, ends.stop⟩
    | ok value =>
      obtain ⟨⟨outcome, d', moves'⟩, later⟩ := rest value d
      exact ⟨_, ends.bind later⟩
  attempt settles c := by
    obtain ⟨e, ends⟩ := settles c
    exact ⟨_, ends.attempt⟩

/-- Work that has an ending comes to what it comes to from an empty journal. -/
theorem Settles.ends {work : Work Client α} (settles : work.Settles) (c : Client) :
    work.Ends c ⟨(work.on ⟨c, .empty⟩).1, (work.on ⟨c, .empty⟩).2.platform,
      (work.on ⟨c, .empty⟩).2.journal.moves⟩ := by
  obtain ⟨e, ends⟩ := settles c
  obtain ⟨outcome, platform, moves⟩ := ends.on_eq
  rw [outcome, platform, moves]
  exact ends

end Work

/-- All work over HTTP has an ending. -/
theorem Remote.upholds_settles : Remote.Upholds fun _ work => Work.Settles work where
  toComposes := Work.settles_composes
  counts url c := ⟨_, countCall_ends c url⟩
  scans call visit reference state c := ⟨_, Work.ends_change rfl⟩
  changes call verb values reference body told other c := ⟨_, Work.ends_change rfl⟩
  fetches call reference c := ⟨_, Work.ends_change rfl⟩
  knows text next holds c := by
    obtain ⟨⟨outcome, d, moves⟩, ends⟩ := holds (c.tokens.lookup text) c
    exact ⟨_, (Work.ends_platform c).andThen ends⟩
  learns text token c := ⟨_, Work.ends_change rfl⟩
  authorizes authorization c := ⟨_, Work.ends_change rfl⟩

namespace Execution

variable {σ : Type} {p : Platform σ} {pr : PullRequestRef} {a : Action} {s s' : σ}
  {applied : List Action} {f g : Failure} {moves counted : List Counter}

/-- What a list of actions fails with when an action fails after others were applied, and what is
counted of it. -/
inductive Stops (a : Action) (applied : List Action) : Failure → Failure → List Counter → Prop
  | transient {f : Failure} (again : f.isTransient = true) :
    Stops a applied f (.actionFailed f.message a applied) [.action a.kind .failed]
  | passed {f : Failure} (other : f.isTransient = false) : Stops a applied f f []

theorem stops_exist (a : Action) (applied : List Action) (f : Failure) :
    ∃ g counted, Stops a applied f g counted := by
  cases transient : f.isTransient with
  | true => exact ⟨_, _, .transient transient⟩
  | false => exact ⟨_, _, .passed transient⟩

/-- A list of actions keeps the class of what an action fails with. -/
theorem Stops.isTransient_eq (stops : Stops a applied f g counted) :
    g.isTransient = f.isTransient := by
  cases stops with
  | transient again => exact again.symm
  | passed other => rfl

theorem step_done {result : ActionResult} (ends : (applyOne p pr a).Ends s ⟨.ok result, s', moves⟩)
    (applied : List Action) :
    (step p pr false applied a).Ends s ⟨.ok (), s', moves ++ [.action a.kind result]⟩ := by
  rw [step, if_neg Bool.false_ne_true]
  exact ends.attempt.bind (Work.ends_count _ _)

theorem step_stops (ends : (applyOne p pr a).Ends s ⟨.error f, s', moves⟩)
    (stops : Stops a applied f g counted) :
    (step p pr false applied a).Ends s ⟨.error g, s', moves ++ counted⟩ := by
  rw [step, if_neg Bool.false_ne_true]
  refine ends.attempt.bind ?_
  dsimp only
  cases stops with
  | transient again =>
    rw [if_pos again]
    exact (Work.ends_count _ _).bind ((Work.ends_log _ _ _).andThen (Work.ends_fail _ _))
  | passed other =>
    rw [if_neg (by simp [other])]
    exact Work.ends_fail _ _

theorem applyAfter_append (p : Platform σ) (pr : PullRequestRef) (dryRun : Bool)
    (applied first rest : List Action) :
    applyAfter p pr dryRun applied (first ++ rest) =
      applyAfter p pr dryRun applied first >>= fun applied =>
        applyAfter p pr dryRun applied rest := by
  induction first generalizing applied with
  | nil => rw [List.nil_append, applyAfter, pure_bind]
  | cons a first ih =>
    rw [List.cons_append, applyAfter, applyAfter, bind_assoc]
    exact congrArg _ (funext fun _ => ih (applied ++ [a]))

end Execution

namespace Remote

variable {issue : IssueRef} {pr : PullRequestRef} {a : Action} {call : Call} {c d : Client}
  {e : CallError} {f g : Failure} {moves : List Counter} {options : Options} {event : Event}

/-- An error is raised in a call that an action makes; the counters are those that its calls moved.
-/
inductive Meets (issue : IssueRef) (c : Client) :
    Action → Call → CallError → List Counter → Client → Prop
  | addLabel {name : String} {e : CallError} {d : Client}
    (raised : (Call.addLabels [name]).Raises issue (called c) e d) :
    Meets issue c (.addLabel name) (.addLabels [name]) e [(Call.addLabels [name]).move issue] d
  | removeLabel {name : String} {e : CallError} {d : Client}
    (raised : (Call.removeLabel name).Raises issue (called c) e d)
    (attached : ¬ (Call.removeLabel name).Absent e) :
    Meets issue c (.removeLabel name) (.removeLabel name) e [(Call.removeLabel name).move issue] d
  | seekComment {body : String} {e : CallError} {d : Client}
    (raised : (Call.anyComment (Execution.sameText body)).Raises issue (called c) e d) :
    Meets issue c (.postComment body false) (.anyComment (Execution.sameText body)) e
      [(Call.anyComment (Execution.sameText body)).move issue] d
  | postComment {body : String} {e : CallError} {d : Client}
    (raised : (Call.postComment body).Raises issue (called c) e d) :
    Meets issue c (.postComment body true) (.postComment body) e
      [(Call.postComment body).move issue] d
  | postNew {body : String} {e : CallError} {c' d : Client} {moves : List Counter}
    (sought : (Remote.anyComment issue (Execution.sameText body)).Ends c ⟨.ok false, c', moves⟩)
    (raised : (Call.postComment body).Raises issue (called c') e d) :
    Meets issue c (.postComment body false) (.postComment body) e
      (moves ++ [(Call.postComment body).move issue]) d

/-- An action fails with what the error becomes that it meets. -/
theorem applyOne_meets (meets : Meets pr.issue c a call e moves d) :
    (Execution.applyOne ops pr a).Ends c
      ⟨.error (e.toFailure (call.name pr.issue)), d, moves⟩ := by
  cases meets with
  | addLabel raised =>
    have ends := Call.raised_ends raised nofun
    exact (Work.ends_log _ _ _).andThen ends.stop.stop
  | removeLabel raised attached =>
    exact (Work.ends_log _ _ _).andThen (Call.raised_ends raised attached).stop
  | seekComment raised => exact (Call.raised_ends raised nofun).stop
  | postComment raised =>
    refine (Work.ends_pure c false).andThen ?_
    exact (Call.raised_ends raised nofun).stop
  | postNew sought raised =>
    refine Work.Ends.bind sought ?_
    exact (Call.raised_ends raised nofun).stop

theorem post_comes (pr : PullRequestRef) (body : String) (c : Client) :
    (∃ result d moves, (Execution.post ops pr body).Ends c ⟨.ok result, d, moves⟩) ∨
      ∃ e d, (Call.postComment body).Raises pr.issue (called c) e d := by
  rcases Call.comes_or_raises pr.issue (.postComment body) c with
    ⟨comment, d, ends⟩ | ⟨e, d, raised, -⟩
  · have posted : (ops.postComment pr.issue body).Ends c _ := ends
    exact .inl ⟨_, d, _, posted.onward ((Work.ends_log d _ _).andThen (Work.ends_pure d _))⟩
  · exact .inr ⟨e, d, raised⟩

theorem applyOne_comes (pr : PullRequestRef) (a : Action) (c : Client) :
    (∃ result d moves, (Execution.applyOne ops pr a).Ends c ⟨.ok result, d, moves⟩) ∨
      ∃ call e moves d, Meets pr.issue c a call e moves d := by
  cases a with
  | addLabel name =>
    rcases Call.comes_or_raises pr.issue (.addLabels [name]) c with
      ⟨labels, d, ends⟩ | ⟨e, d, raised, -⟩
    · have added : (ops.addLabels pr.issue [name]).Ends c _ :=
        Work.Ends.onward ends (Work.ends_pure d ())
      exact .inl ⟨_, d, _, (Work.ends_log _ _ _).andThen (added.onward (Work.ends_pure d _))⟩
    · exact .inr ⟨_, e, _, d, .addLabel raised⟩
  | removeLabel name =>
    rcases Call.comes_or_raises pr.issue (.removeLabel name) c with
      ⟨attached, d, ends⟩ | ⟨e, d, raised, attached⟩
    · have removed : (ops.removeLabel pr.issue name).Ends c _ := ends
      exact .inl ⟨_, d, _, (Work.ends_log _ _ _).andThen (removed.onward (Work.ends_pure d _))⟩
    · exact .inr ⟨_, e, _, d, .removeLabel raised attached⟩
  | postComment body allowRepeats =>
    cases allowRepeats with
    | true =>
      rcases post_comes pr body c with ⟨result, d, moves, ends⟩ | ⟨e, d, raised⟩
      · exact .inl ⟨result, d, moves, (Work.ends_pure c false).andThen ends⟩
      · exact .inr ⟨_, e, _, d, .postComment raised⟩
    | false =>
      rcases Call.comes_or_raises pr.issue (.anyComment (Execution.sameText body)) c with
        ⟨stands, c', sought⟩ | ⟨e, d, raised, -⟩
      · cases stands with
        | true =>
          refine .inl ⟨.noop, c', _, Work.Ends.onward sought ?_⟩
          exact (Work.ends_log c' _ _).andThen (Work.ends_pure c' _)
        | false =>
          rcases post_comes pr body c' with ⟨result, d, moves, ends⟩ | ⟨e, d, raised⟩
          · exact .inl ⟨result, d, _, Work.Ends.bind sought ends⟩
          · exact .inr ⟨_, e, _, d, .postNew sought raised⟩
      · exact .inr ⟨_, e, _, d, .seekComment raised⟩

/-- A list of actions stops at the first action that meets an error. The counters are those of the
actions that were carried out before it and of its own calls, and a failed action is counted. -/
inductive Breaks (pr : PullRequestRef) (c : Client) (applied actions : List Action) :
    Failure → List Counter → Client → Prop
  | intro {done rest : List Action} {a : Action} {c' d : Client} {call : Call} {e : CallError}
    {f g : Failure} {before during counted : List Counter} (split : actions = done ++ a :: rest)
    (carried : (Execution.applyAfter ops pr false applied done).Ends c
      ⟨.ok (applied ++ done), c', before⟩)
    (meets : Meets pr.issue c' a call e during d) (becomes : e.Becomes (call.name pr.issue) f)
    (stops : Execution.Stops a (applied ++ done) f g counted) :
    Breaks pr c applied actions g (before ++ (during ++ counted)) d

variable {applied actions : List Action}

theorem applyAfter_breaks (breaks : Breaks pr c applied actions g moves d) :
    (Execution.applyAfter ops pr false applied actions).Ends c ⟨.error g, d, moves⟩ := by
  cases breaks with
  | intro split carried meets becomes stops =>
    rw [split, Execution.applyAfter_append]
    have fails := applyOne_meets meets
    rw [← CallError.becomes_iff.1 becomes] at fails
    exact carried.bind (Execution.step_stops fails stops).stop

theorem applyAfter_comes (pr : PullRequestRef) (applied actions : List Action) (c : Client) :
    (∃ d moves, (Execution.applyAfter ops pr false applied actions).Ends c
        ⟨.ok (applied ++ actions), d, moves⟩) ∨
      ∃ g moves d, Breaks pr c applied actions g moves d := by
  -- what was applied before is general: an action that is carried out joins it
  induction actions generalizing applied c with
  | nil => exact .inl ⟨c, [], by rw [List.append_nil]; exact Work.ends_pure c applied⟩
  | cons a actions ih =>
    have same (rest : List Action) : applied ++ [a] ++ rest = applied ++ a :: rest :=
      List.append_assoc ..
    rcases applyOne_comes pr a c with ⟨result, c', during, ends⟩ | ⟨call, e, during, d, meets⟩
    · have stepped := Execution.step_done ends applied
      rcases ih (applied ++ [a]) c' with ⟨d, moves, rest⟩ | ⟨g, moves, d, breaks⟩
      · rw [same] at rest
        exact .inl ⟨d, _, stepped.bind rest⟩
      · cases breaks with
        | intro split carried meets becomes stops =>
          rw [same] at carried stops
          exact .inr ⟨g, _, d, .intro (congrArg (List.cons a) split) (stepped.bind carried) meets
            becomes stops⟩
    · obtain ⟨g, counted, stops⟩ := Execution.stops_exist a (applied ++ [])
        (e.toFailure (call.name pr.issue))
      have carried : (Execution.applyAfter ops pr false applied []).Ends c
          ⟨.ok (applied ++ []), c, []⟩ := by
        rw [List.append_nil]
        exact Work.ends_pure c applied
      exact .inr ⟨g, _, d, .intro (List.nil_append _).symm carried meets
        (CallError.becomes_iff.2 rfl) stops⟩

/-- A list of actions fails where one of them meets an error, and nowhere else. -/
theorem apply_fails_iff (dryRun : Bool) : (Execution.apply ops pr dryRun actions).Ends c
    ⟨.error g, d, moves⟩ ↔ dryRun = false ∧ Breaks pr c [] actions g moves d := by
  constructor
  · intro fails
    cases dryRun with
    | true =>
      have dry := Memory.applyAfter_dry ops pr [] actions c
      nomatch congrArg Ending.outcome (fails.unique dry)
    | false =>
      rcases applyAfter_comes pr [] actions c with ⟨d', moves', ends⟩ | ⟨g', moves', d', breaks⟩
      · nomatch congrArg Ending.outcome (fails.unique ends)
      · cases fails.unique (applyAfter_breaks breaks)
        exact ⟨rfl, breaks⟩
  · rintro ⟨rfl, breaks⟩
    exact applyAfter_breaks breaks

/-- An event that is handled fails: its labels are not read, or the actions stop that are decided
on. -/
inductive Trips (options : Options) (c : Client) (event : Event) :
    Failure → List Counter → Client → Prop
  | reading {e : CallError} {f : Failure} {d : Client} (acts : event.isIgnored = false)
    (raised : Call.labels.Raises event.pr.issue (called c) e d)
    (becomes : e.Becomes (Call.labels.name event.pr.issue) f) :
    Trips options c event f [Call.labels.move event.pr.issue] d
  | acting {labels : LabelSet} {c' d : Client} {g : Failure} {before moves : List Counter}
    (acts : event.isIgnored = false) (wet : options.dryRun = false)
    (reads : (ops.readLabels event.pr).Ends c ⟨.ok labels, c', before⟩)
    (breaks : Breaks event.pr c' [] (options.config.actionsFor labels event) g moves d) :
    Trips options c event g (before ++ moves) d

theorem handleEvent_trips (trips : Trips options c event g moves d) :
    (Pipeline.handleEvent ops options event).Ends c ⟨.error g, d, moves⟩ := by
  cases trips with
  | reading acts raised becomes =>
    rw [CallError.becomes_iff.1 becomes]
    have unread : (ops.labels event.pr.issue).Ends c _ := Call.raised_ends raised nofun
    exact handleEvent_unread acts unread.stop
  | acting acts wet reads breaks =>
    rw [handleEvent_acts acts, Pipeline.act]
    refine (Work.ends_log _ _ _).andThen (reads.bind ((Work.ends_log _ _ _).andThen ?_))
    have fails := (apply_fails_iff options.dryRun).2 ⟨wet, breaks⟩
    cases breaks with
    | intro split carried meets becomes stops =>
      rw [if_neg (by rw [split]; simp)]
      exact fails.stop

theorem handleEvent_comes (options : Options) (event : Event) (c : Client) :
    (∃ applied d moves, (Pipeline.handleEvent ops options event).Ends c ⟨.ok applied, d, moves⟩) ∨
      ∃ g moves d, Trips options c event g moves d := by
  by_cases acts : event.isIgnored = false
  · rcases Call.comes_or_raises event.pr.issue .labels c with
      ⟨labels, c', ends⟩ | ⟨e, d, raised, -⟩
    · have reads : (ops.readLabels event.pr).Ends c _ :=
        Work.Ends.onward ends ((Work.ends_log c' _ _).andThen (Work.ends_pure c' _))
      by_cases none : options.config.actionsFor (LabelSet.ofList (labels.map (·.name))) event = []
      · exact .inl ⟨[], c', _, handleEvent_nothing acts reads none⟩
      obtain ⟨⟨outcome, d, moves⟩, applies⟩ :=
        upholds_settles.ops.apply event.pr options.dryRun (options.config.actionsFor _ event) c'
      cases outcome with
      | error g =>
        obtain ⟨wet, breaks⟩ := (apply_fails_iff options.dryRun).1 applies
        exact .inr ⟨g, _, d, .acting acts wet reads breaks⟩
      | ok applied =>
        refine .inl ⟨applied, d, [Call.labels.move event.pr.issue] ++ moves, ?_⟩
        rw [handleEvent_acts acts, Pipeline.act]
        refine (Work.ends_log _ _ _).andThen (reads.bind ((Work.ends_log _ _ _).andThen ?_))
        rw [if_neg (by simpa using none)]
        refine applies.onward ((Work.ends_platform d).andThen ?_)
        exact (Work.ends_log _ _ _).andThen (Work.ends_pure _ _)
    · exact .inr ⟨_, _, d, .reading acts raised (CallError.becomes_iff.2 rfl)⟩
  · cases event with
    | ignored pr kind action =>
      refine .inl ⟨[], c, [.skipped kind .action], ?_⟩
      refine (Work.ends_log _ _ _).andThen ((Work.ends_log _ _ _).andThen ?_)
      exact (Work.ends_count _ _).bind (Work.ends_pure _ _)
    | _ => exact absurd rfl acts

/-- A handled event fails where an error is raised for it, and nowhere else. -/
theorem handleEvent_fails_iff : (Pipeline.handleEvent ops options event).Ends c
    ⟨.error g, d, moves⟩ ↔ Trips options c event g moves d := by
  constructor
  · intro fails
    rcases handleEvent_comes options event c with
      ⟨applied, d', moves', ends⟩ | ⟨g', moves', d', trips⟩
    · nomatch congrArg Ending.outcome (fails.unique ends)
    · cases fails.unique (handleEvent_trips trips)
      exact trips
  · exact handleEvent_trips

/-! ## Deliveries -/

/-- What is done for a delivery of an installation before it is answered. -/
def connected (settings : Settings) (delivery : Delivery) (id : Json) : Work Client Unit := do
  Installation.connect id
  Work.log .debug s!"Dispatching event {delivery.name}"
  Pipeline.dispatch ops settings (.ofSettings settings) delivery.name delivery.data

/-- The work for a delivery of an installation fails: the installation is not connected, or the
event of the delivery fails. -/
inductive FailsWith (settings : Settings) (c : Client) (delivery : Delivery) :
    Failure → List Counter → Client → Prop
  | connecting {id : Json} {f : Failure} {moves : List Counter} {d : Client}
    (supported : delivery.isSupported = true) (installed : delivery.Installed id)
    (connects : (Installation.connect id).Ends c ⟨.error f, d, moves⟩) :
    FailsWith settings c delivery f moves d
  | handling {id : Json} {c' d : Client} {event : Event} {f : Failure}
    {before moves : List Counter} (installed : delivery.Installed id)
    (connects : (Installation.connect id).Ends c ⟨.ok (), c', before⟩)
    (tells : delivery.TellsOf event) (served : ¬ delivery.Withheld settings.listed)
    (trips : Trips (.ofSettings settings) c' event f moves d) :
    FailsWith settings c delivery f (before ++ moves) d

/-- What a delivery is answered that fails, and what is counted of it. -/
inductive AnswersTo : Failure → Except Failure DeliveryStatus → List Counter → Prop
  | malformed {f : Failure} (malformed : f.isMalformed = true) :
    AnswersTo f (.ok .ok) [.error .malformedEvent]
  | again {f : Failure} (transient : f.isTransient = true) :
    AnswersTo f (.ok .badGateway) [.error .eventDispatch]
  | escapes {f : Failure} (lasting : f.isTransient = false) (formed : f.isMalformed = false) :
    AnswersTo f (.error f) []

variable {settings : Settings} {delivery : Delivery} {id : Json}
  {answer : Except Failure DeliveryStatus} {counted : List Counter}

theorem formed_of_transient (transient : f.isTransient = true) : f.isMalformed = false := by
  cases f with
  | transient message => rfl
  | actionFailed message action applied => rfl
  | _ => nomatch transient

theorem answersTo_iff : AnswersTo f answer counted ↔ answerTo (.error f) = (answer, counted) := by
  dsimp only [answerTo]
  constructor
  · intro answers
    cases answers with
    | malformed malformed => rw [if_pos malformed]
    | again transient =>
      rw [if_neg (by simp [formed_of_transient transient]), if_pos transient]
    | escapes lasting formed => rw [if_neg (by simp [formed]), if_neg (by simp [lasting])]
  · intro same
    cases malformed : f.isMalformed with
    | true =>
      rw [if_pos malformed] at same
      cases same
      exact .malformed malformed
    | false =>
      rw [if_neg (by simp [malformed])] at same
      cases transient : f.isTransient with
      | true =>
        rw [if_pos transient] at same
        cases same
        exact .again transient
      | false =>
        rw [if_neg (by simp [transient])] at same
        cases same
        exact .escapes transient malformed

/-- A delivery that is served comes to what its event comes to. -/
theorem dispatch_served {e : Ending Client (List Action)} (tells : delivery.TellsOf event)
    (served : ¬ delivery.Withheld settings.listed)
    (handled : (Pipeline.handleEvent ops (.ofSettings settings) event).Ends c e) :
    (Pipeline.dispatch ops settings (.ofSettings settings) delivery.name delivery.data).Ends c
      (e.map fun _ => ()) := by
  have dispatched : (Pipeline.dispatch ops settings (.ofSettings settings) delivery.name
      delivery.data).Ends c _ := dispatch_told tells handled
  rwa [if_neg served] at dispatched

theorem FailsWith.connected (fails : FailsWith settings c delivery f moves d) :
    ∃ id, delivery.isSupported = true ∧ delivery.Installed id ∧
      (connected settings delivery id).Ends c ⟨.error f, d, moves⟩ := by
  cases fails with
  | connecting supported installed connects => exact ⟨_, supported, installed, connects.stop⟩
  | handling installed connects tells served trips =>
    refine ⟨_, tells.supported, installed, connects.bind ((Work.ends_log _ _ _).andThen ?_)⟩
    exact dispatch_served tells served (handleEvent_trips trips)

/-- Work for a delivery fails in no other way, unless the delivery is malformed. -/
theorem fails_of_connected (supported : delivery.isSupported = true)
    (installed : delivery.Installed id)
    (fails : (connected settings delivery id).Ends c ⟨.error f, d, moves⟩) :
    FailsWith settings c delivery f moves d ∨ f.isMalformed = true := by
  obtain ⟨⟨outcome, c', before⟩, connects⟩ := upholds_settles.connect id c
  cases outcome with
  | error f' =>
    cases fails.unique connects.stop
    exact .inl (.connecting supported installed connects)
  | ok value =>
    have whole {e : Ending Client Unit} (dispatches : (Pipeline.dispatch ops settings
        (.ofSettings settings) delivery.name delivery.data).Ends c' e) :
        (connected settings delivery id).Ends c ⟨e.outcome, e.platform, before ++ e.moves⟩ :=
      connects.bind ((Work.ends_log _ _ _).andThen dispatches)
    cases told : Event.ofDelivered delivery.name delivery.data with
    | error failure =>
      cases fails.unique (whole (dispatch_refused supported told c'))
      obtain ⟨fields, isObject⟩ := installed.object
      rw [isObject] at told
      obtain ⟨cause, rfl⟩ := Event.ofDelivered_error told
      exact .inr rfl
    | ok event =>
      have tells : delivery.TellsOf event := told
      by_cases withheld : delivery.Withheld settings.listed
      · have dispatched : (Pipeline.dispatch ops settings (.ofSettings settings) delivery.name
            delivery.data).Ends c' _ :=
          dispatch_told tells (upholds_settles.ops.handleEvent _ event c').choose_spec
        rw [if_pos withheld] at dispatched
        nomatch congrArg Ending.outcome (fails.unique (whole dispatched))
      · rcases handleEvent_comes (.ofSettings settings) event c' with
          ⟨applied, d', moves', handles⟩ | ⟨g, moves', d', trips⟩
        · have ends := whole (dispatch_served tells withheld handles)
          nomatch congrArg Ending.outcome (fails.unique ends)
        · cases fails.unique (whole (dispatch_served tells withheld (handleEvent_trips trips)))
          exact .inl (.handling installed connects tells withheld trips)

/-- A delivery of an installation is answered by what the work for it comes to. -/
theorem deliver_connected (supported : delivery.isSupported = true)
    (installed : delivery.Installed id) {e : Ending Client Unit}
    (ends : (connected settings delivery id).Ends c e) :
    (Pipeline.deliver ops settings Installation.connect delivery).Ends c
      ⟨e.answered.outcome, e.answered.platform, .webhook delivery.name :: e.answered.moves⟩ := by
  unfold Pipeline.deliver
  refine (Work.ends_count c (.webhook delivery.name)).bind ?_
  rw [if_neg (by simp [supported]), Delivery.installation?_eq_some_iff.2 installed]
  refine (Work.ends_log _ _ _).andThen ?_
  exact answered_ends ends delivery.name

theorem deliver_early
    (early : ¬ (delivery.isSupported = true ∧ ∃ id, delivery.Installed id)) :
    ∃ moves, (Pipeline.deliver ops settings Installation.connect delivery).Ends c
      ⟨.ok .ok, c, moves⟩ := by
  unfold Pipeline.deliver
  by_cases supported : delivery.isSupported = true
  · cases named : delivery.installation? with
    | some id => exact absurd ⟨supported, id, Delivery.installation?_eq_some_iff.1 named⟩ early
    | none =>
      refine ⟨[.webhook delivery.name, .error .malformedEvent], ?_⟩
      refine (Work.ends_count c (.webhook delivery.name)).bind ?_
      rw [if_neg (by simp [supported])]
      refine (Work.ends_count c (.error .malformedEvent)).bind ?_
      exact (Work.ends_log _ _ _).andThen (Work.ends_pure c _)
  · refine ⟨[.webhook delivery.name, .skipped delivery.name .event], ?_⟩
    refine (Work.ends_count c (.webhook delivery.name)).bind ?_
    rw [if_pos (by simp [supported])]
    exact (Work.ends_count c (.skipped delivery.name .event)).bind (Work.ends_pure c _)

theorem deliver_fails (fails : FailsWith settings c delivery f moves d)
    (answers : AnswersTo f answer counted) :
    (Pipeline.deliver ops settings Installation.connect delivery).Ends c
      ⟨answer, d, .webhook delivery.name :: (moves ++ counted)⟩ := by
  obtain ⟨id, supported, installed, ends⟩ := fails.connected
  have delivered := deliver_connected supported installed ends
  rwa [Ending.answered, answersTo_iff.1 answers] at delivered

/-- A delivery that is not answered with 200 has failed. -/
theorem fails_of_deliver (unhandled : answer ≠ .ok .ok)
    (ends : (Pipeline.deliver ops settings Installation.connect delivery).Ends c
      ⟨answer, d, moves⟩) :
    ∃ f during counted, FailsWith settings c delivery f during d ∧ AnswersTo f answer counted ∧
      moves = .webhook delivery.name :: (during ++ counted) := by
  by_cases connects : delivery.isSupported = true ∧ ∃ id, delivery.Installed id
  · obtain ⟨supported, id, installed⟩ := connects
    have settles : (connected settings delivery id).Settles :=
      upholds_settles.bind (upholds_settles.connect id) fun _ =>
        upholds_settles.logged _ _ (upholds_settles.ops.dispatch settings _ _ _)
    obtain ⟨⟨outcome, d', during⟩, work⟩ := settles c
    cases ends.unique (deliver_connected supported installed work)
    cases outcome with
    | ok value => exact absurd rfl unhandled
    | error f =>
      have answers : AnswersTo f _ _ := answersTo_iff.2 rfl
      rcases fails_of_connected supported installed work with fails | malformed
      · exact ⟨f, during, _, fails, answers, rfl⟩
      · refine absurd ?_ unhandled
        rw [Ending.answered, answerTo, if_pos malformed]
  · obtain ⟨moves', ok⟩ := deliver_early connects
    cases ends.unique ok
    exact absurd rfl unhandled

theorem Meets.raises (meets : Meets issue c a call e moves d) :
    ∃ c', call.Raises issue c' e d := by
  cases meets with
  | addLabel raised => exact ⟨_, raised⟩
  | removeLabel raised attached => exact ⟨_, raised⟩
  | seekComment raised => exact ⟨_, raised⟩
  | postComment raised => exact ⟨_, raised⟩
  | postNew sought raised => exact ⟨_, raised⟩

/-- The failure of an event has the class of an error that was raised, and is that error when it is
not transient. -/
theorem Trips.keeps (trips : Trips options c event g moves d) :
    ∃ call c' e, Call.Raises event.pr.issue c' call e d ∧ g.isTransient = e.isTransient ∧
      (g.isTransient = false → e = .failure g) := by
  have kept {e : CallError} {f : Failure} {name : String} (becomes : e.Becomes name f)
      (lasting : f.isTransient = false) : e = .failure f := by
    cases becomes with
    | rejected r => nomatch lasting
    | lost error => nomatch lasting
    | kept f => rfl
  cases trips with
  | reading acts raised becomes => exact ⟨_, _, _, raised, becomes.isTransient_eq, kept becomes⟩
  | acting acts wet reads breaks =>
    cases breaks with
    | intro split carried meets becomes stops =>
      obtain ⟨c', raised⟩ := meets.raises
      refine ⟨_, c', _, raised, stops.isTransient_eq.trans becomes.isTransient_eq, ?_⟩
      intro lasting
      cases stops with
      | transient again => nomatch lasting
      | passed other => exact kept becomes other

/-- Errors keep their class on their way through a call, a list of actions, an event and a delivery,
whatever the client and its replies are.

A call fails exactly with what the error becomes that is raised in it, a label that was not attached
aside. A list of actions fails exactly where one of them meets an error: a transient failure is told
with the action and those that were carried out before it, and counted; others pass. So it is with
an event, which fails with the class of the error that is raised. A delivery that fails is answered
with 502 when its failure is transient; others escape, but that malformed deliveries are dropped. It
is not answered otherwise than with 200 unless it fails. -/
theorem errors_keep_class :
    (∀ (issue : IssueRef) (call : Call) (c d : Client) (f : Failure) (moves : List Counter),
      (call.work issue).Ends c ⟨.error f, d, moves⟩ ↔
        ∃ e, call.Raises issue (called c) e d ∧ ¬ call.Absent e ∧
          e.Becomes (call.name issue) f ∧ moves = [call.move issue]) ∧
      (∀ (issue : IssueRef) (label : String) (c d : Client) (e : CallError),
        (Call.removeLabel label).Raises issue (called c) e d → (Call.removeLabel label).Absent e →
        (Remote.removeLabel issue label).Ends c
          ⟨.ok false, d, [(Call.removeLabel label).move issue]⟩) ∧
      (∀ (pr : PullRequestRef) (dryRun : Bool) (actions : List Action) (c d : Client)
          (g : Failure) (moves : List Counter),
        (Execution.apply ops pr dryRun actions).Ends c ⟨.error g, d, moves⟩ ↔
          dryRun = false ∧ Breaks pr c [] actions g moves d) ∧
      (∀ (options : Options) (event : Event) (c d : Client) (g : Failure) (moves : List Counter),
        ((Pipeline.handleEvent ops options event).Ends c ⟨.error g, d, moves⟩ ↔
          Trips options c event g moves d) ∧
        (Trips options c event g moves d → ∃ call c' e, Call.Raises event.pr.issue c' call e d ∧
          g.isTransient = e.isTransient ∧ (g.isTransient = false → e = .failure g))) ∧
      ∀ (settings : Settings) (delivery : Delivery) (c d : Client),
        let deliver := Pipeline.deliver ops settings Installation.connect delivery
        (∀ f during answer counted, FailsWith settings c delivery f during d →
          AnswersTo f answer counted →
          deliver.Ends c ⟨answer, d, .webhook delivery.name :: (during ++ counted)⟩) ∧
        ∀ answer moves, answer ≠ .ok .ok → deliver.Ends c ⟨answer, d, moves⟩ →
          ∃ f during counted, FailsWith settings c delivery f during d ∧
            AnswersTo f answer counted ∧ moves = .webhook delivery.name :: (during ++ counted) := by
  refine ⟨fun issue call c d f moves => Call.fails_iff, ?_, ?_, ?_, ?_⟩
  · intro issue label c d e raised absent
    exact Call.absent_ends raised absent
  · intro pr dryRun actions c d g moves
    exact apply_fails_iff dryRun
  · intro options event c d g moves
    exact ⟨handleEvent_fails_iff, fun trips => trips.keeps⟩
  · intro settings delivery c d
    exact ⟨fun f during answer counted => deliver_fails,
      fun answer moves => fails_of_deliver⟩

/-- A client that finds the marker, and finds it gone when it is to be taken off. -/
def exampleLate (last : Reply) : Client where
  replies := [exampleReply 200 (.arr [.obj [("name", .str "approved")]]),
    exampleReply 404 (.obj [("message", .str "Not Found")]), last]
  requests := []
  authorization := none
  pages := none
  tokens := [("1", .str "t")]
  callCount := 0

/-- A push whose comment is not answered in time is to be sent again, and where the connection
breaks below that, the error escapes. Both times the label that was not attached is no failure. -/
theorem late_push_errors :
    let push := examplePrivatePush "o/a"
    let slow := exampleLate (.broken .timeout "slow")
    let reset := exampleLate (.failed (.system "reset"))
    let read := ((ops.readLabels exampleRef).on ⟨slow, .empty⟩).2.platform
    let post := .postComment "@slab-ci cpu_fast_test" true
    (∃ d, (Remote.removeLabel exampleRef.issue "approved").Ends read
        ⟨.ok false, d, [.apiCall .labels]⟩) ∧
      (∃ moves d, Breaks exampleRef read [] [.removeLabel "approved", post]
        (.actionFailed "POST u/issues/7/comments failed: TimeoutError('slow')" post
          [.removeLabel "approved"]) moves d) ∧
      (∃ f during counted d, FailsWith exampleListed slow push f during d ∧
        AnswersTo f (.ok .badGateway) counted) ∧
      ∃ during d, FailsWith exampleListed reset push (.system "reset") during d := by
  intro push slow reset read post
  obtain ⟨-, removes, applies, -, delivers⟩ := errors_keep_class
  have delivered (c : Client) : (Pipeline.deliver ops exampleListed Installation.connect
      push).Ends c _ :=
    (upholds_settles.ops.deliver exampleListed upholds_settles.connect push : Work.Settles _).ends c
  refine ⟨?_, ?_, ?_, ?_⟩
  · have led : target [("name".toList, "approved".toList)] (labelReference exampleRef.issue) =
        .ok "https://api.github.com/u/issues/7/labels/approved" :=
      ok_of_toOption (by decide +kernel)
    have refused : ((called read).send
        (deletion "https://api.github.com/u/issues/7/labels/approved" read.authorization)).1 =
          .error (.rejected ⟨.badRequest, 404, .str "Not Found"⟩) := by decide +kernel
    have raised : (Call.removeLabel "approved").Raises exampleRef.issue (called read)
        (.rejected ⟨.badRequest, 404, .str "Not Found"⟩) _ :=
      .removeLabel (.unanswered led (Prod.ext refused rfl))
    have ends := removes _ _ _ _ _ raised (.notAttached rfl rfl)
    exact ⟨_, ends⟩
  · have applied := (upholds_settles.ops.apply exampleRef false
      [.removeLabel "approved", post] : Work.Settles _).ends read
    have fails : ((Execution.apply ops exampleRef false [.removeLabel "approved", post]).on
        ⟨read, .empty⟩).1 = .error (.actionFailed
          "POST u/issues/7/comments failed: TimeoutError('slow')" post
            [.removeLabel "approved"]) := by decide +kernel
    rw [fails] at applied
    exact ⟨_, _, ((applies _ _ _ _ _ _ _).1 applied).2⟩
  · have again : ((Pipeline.deliver ops exampleListed Installation.connect push).on
        ⟨slow, .empty⟩).1 = .ok .badGateway := by decide +kernel
    have ends := delivered slow
    rw [again] at ends
    obtain ⟨f, during, counted, fails, answers, -⟩ :=
      (delivers exampleListed push slow _).2 (.ok .badGateway) _ (by decide) ends
    exact ⟨f, during, counted, _, fails, answers⟩
  · have escapes : ((Pipeline.deliver ops exampleListed Installation.connect push).on
        ⟨reset, .empty⟩).1 = .error (.system "reset") := by decide +kernel
    have ends := delivered reset
    rw [escapes] at ends
    obtain ⟨f, during, counted, fails, answers, -⟩ :=
      (delivers exampleListed push reset _).2 (.error (.system "reset")) _ nofun ends
    cases answers
    exact ⟨during, _, fails⟩

end Remote

end SuiteTrigger
