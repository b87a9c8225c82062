import SuiteTrigger.Pipeline.Delivery
import SuiteTrigger.Proofs.Attempts

/-!
# Work that agrees

Two pieces of work agree along a relation of platforms when from related platforms they come to the
same outcome and to related platforms, whatever they count and log (`Work.Agrees`). There is one
rule for each way to make work out of smaller work. Where the operations on an issue agree with
themselves (`Platform.Steady`), so do the stages of the pipeline, up to the delivery
(`handleEvent_agrees`, `dispatch_agrees`, `deliver_agrees`).
-/

namespace SuiteTrigger

variable {σ α β : Type} {R : σ → σ → Prop}

namespace Work

/-- From platforms that `R` relates, both pieces of work have the same outcome and leave platforms
that `R` relates. -/
def Agrees (R : σ → σ → Prop) (first second : Work σ α) : Prop :=
  ∀ s s', R s s' → ∃ outcome q q' moves moves',
    first.Ends s ⟨outcome, q, moves⟩ ∧ second.Ends s' ⟨outcome, q', moves'⟩ ∧ R q q'

theorem agrees_ofExcept (result : Except Failure α) :
    (ofExcept result : Work σ α).Agrees R (ofExcept result) :=
  fun s s' related =>
    ⟨_, _, _, _, _, ends_ofExcept s result, ends_ofExcept s' result, related⟩

theorem agrees_pure (value : α) : (pure value : Work σ α).Agrees R (pure value) :=
  agrees_ofExcept (.ok value)

theorem agrees_fail (failure : Failure) : (fail failure : Work σ α).Agrees R (fail failure) :=
  agrees_ofExcept (.error failure)

theorem agrees_log (level level' : Level) (text text' : String) :
    (log level text : Work σ Unit).Agrees R (log level' text') :=
  fun s s' related =>
    ⟨_, _, _, _, _, ends_log s level text, ends_log s' level' text', related⟩

theorem agrees_count (c c' : Counter) : (count c : Work σ Unit).Agrees R (count c') :=
  fun s s' related => ⟨_, _, _, _, _, ends_count s c, ends_count s' c', related⟩

theorem agrees_change {step step' : σ → Except Failure α × σ}
    (steps : ∀ s s', R s s' → (step s).1 = (step' s').1 ∧ R (step s).2 (step' s').2) :
    (change step).Agrees R (change step') := by
  intro s s' related
  obtain ⟨outcome, after⟩ := steps s s' related
  have stepped : step' s' = ((step s).1, (step' s').2) := Prod.ext outcome.symm rfl
  exact ⟨_, _, _, _, _, ends_change rfl, ends_change stepped, after⟩

namespace Agrees

variable {first second : Work σ α} {next next' : α → Work σ β}

theorem bind (both : first.Agrees R second) (rest : ∀ value, (next value).Agrees R (next' value)) :
    (first >>= next).Agrees R (second >>= next') := by
  intro s s' related
  obtain ⟨outcome, q, q', moves, moves', ends, ends', between⟩ := both s s' related
  cases outcome with
  | error failure => exact ⟨_, _, _, _, _, ends.stop, ends'.stop, between⟩
  | ok value =>
    obtain ⟨outcome, r, r', more, more', later, later', after⟩ := rest value q q' between
    exact ⟨_, _, _, _, _, ends.bind later, ends'.bind later', after⟩

/-- What follows a check only has to agree on what the check lets through. -/
theorem bind_ofExcept (result : Except Failure α)
    (rest : ∀ value, result = .ok value → (next value).Agrees R (next' value)) :
    (ofExcept result >>= next).Agrees R (ofExcept result >>= next') := by
  intro s s' related
  cases read : result with
  | error failure =>
    exact ⟨_, _, _, _, _, (ends_fail s failure).stop, (ends_fail s' failure).stop, related⟩
  | ok value =>
    obtain ⟨outcome, q, q', moves, moves', ends, ends', after⟩ := rest value read s s' related
    exact ⟨_, _, _, _, _, (ends_ofExcept s (.ok value)).andThen ends,
      (ends_ofExcept s' (.ok value)).andThen ends', after⟩

/-- What is told from the platforms themselves may differ. -/
theorem bind_platform {next next' : σ → Work σ β} (rest : ∀ s s', (next s).Agrees R (next' s')) :
    (platform >>= next).Agrees R (platform >>= next') := by
  intro s s' related
  obtain ⟨outcome, q, q', moves, moves', ends, ends', after⟩ := rest s s' s s' related
  exact ⟨_, _, _, _, _, (ends_platform s).andThen ends, (ends_platform s').andThen ends', after⟩

theorem attempt (both : first.Agrees R second) : first.attempt.Agrees R second.attempt := by
  intro s s' related
  obtain ⟨outcome, q, q', moves, moves', ends, ends', after⟩ := both s s' related
  exact ⟨_, _, _, _, _, ends.attempt, ends'.attempt, after⟩

end Agrees

end Work

/-- Two runs that come to the same outcome and to platforms that `R` relates. -/
structure SameRun (R : σ → σ → Prop) (first second : Except Failure α × Scene σ) : Prop where
  outcome : first.1 = second.1
  platform : R first.2.platform second.2.platform

/-- Work that agrees runs alike, whatever was counted and logged before. -/
theorem Work.Agrees.sameRun {first second : Work σ α} {s s' : σ} (both : first.Agrees R second)
    (related : R s s') (j j' : Journal) : SameRun R (first.on ⟨s, j⟩) (second.on ⟨s', j'⟩) := by
  obtain ⟨outcome, q, q', moves, moves', ends, ends', after⟩ := both s s' related
  obtain ⟨entries, run⟩ := ends j
  obtain ⟨entries', run'⟩ := ends' j'
  rw [run, run']
  exact ⟨rfl, after⟩

/-- On an issue, an operation comes to the same from platforms that `R` relates. -/
structure Platform.Steady (R : σ → σ → Prop) (p : Platform σ) (issue : IssueRef) : Prop where
  labels : (p.labels issue).Agrees R (p.labels issue)
  addLabels : ∀ names, (p.addLabels issue names).Agrees R (p.addLabels issue names)
  removeLabel : ∀ name, (p.removeLabel issue name).Agrees R (p.removeLabel issue name)
  anyComment : ∀ wanted, (p.anyComment issue wanted).Agrees R (p.anyComment issue wanted)
  postComment : ∀ body, (p.postComment issue body).Agrees R (p.postComment issue body)

/-- What of an event decides what is done for it, besides the issue that it is on. -/
inductive Event.Matter where
  | push
  | review (outcome : ReviewOutcome)
  | ignored
  deriving DecidableEq

def Event.matter : Event → Matter
  | .codePush .. => .push
  | .reviewSubmitted _ outcome => .review outcome
  | .ignored .. => .ignored

/-- Events of the same matter ask for the same actions. -/
theorem TriggerConfig.actionsFor_eq {event event' : Event} (matter : event.matter = event'.matter)
    (config : TriggerConfig) (labels : LabelSet) :
    config.actionsFor labels event = config.actionsFor labels event' := by
  cases event with
  | codePush pr action =>
    cases event' with
    | codePush pr' action' => rfl
    | _ => nomatch matter
  | reviewSubmitted pr outcome =>
    cases event' with
    | reviewSubmitted pr' outcome' =>
      cases matter
      cases outcome <;> rfl
    | _ => nomatch matter
  | ignored pr kind action =>
    cases event' with
    | ignored pr' kind' action' => rfl
    | _ => nomatch matter

section Pipeline

variable {p : Platform σ} {pr pr' : PullRequestRef}

theorem readLabels_agrees (steady : p.Steady R pr.issue) (issue : pr.issue = pr'.issue) :
    (p.readLabels pr).Agrees R (p.readLabels pr') := by
  unfold Platform.readLabels
  rw [← issue]
  refine steady.labels.bind fun labels => ?_
  exact (Work.agrees_log _ _ _ _).bind fun _ => Work.agrees_pure _

theorem isRepeat_agrees (steady : p.Steady R pr.issue) (issue : pr.issue = pr'.issue)
    (body : String) (allowRepeats : Bool) :
    (Execution.isRepeat p pr body allowRepeats).Agrees R
      (Execution.isRepeat p pr' body allowRepeats) := by
  unfold Execution.isRepeat
  rw [← issue]
  cases allowRepeats with
  | true => exact Work.agrees_pure false
  | false => exact steady.anyComment _

/-- Carrying out an action depends on the issue and not on the other data of the pull request. -/
theorem applyOne_agrees (steady : p.Steady R pr.issue) (issue : pr.issue = pr'.issue)
    (a : Action) : (Execution.applyOne p pr a).Agrees R (Execution.applyOne p pr' a) := by
  cases a with
  | addLabel name =>
    unfold Execution.applyOne
    rw [← issue]
    refine (Work.agrees_log _ _ _ _).bind fun _ => ?_
    exact (steady.addLabels _).bind fun _ => Work.agrees_pure _
  | removeLabel name =>
    unfold Execution.applyOne
    rw [← issue]
    refine (Work.agrees_log _ _ _ _).bind fun _ => ?_
    exact (steady.removeLabel _).bind fun attached => Work.agrees_pure _
  | postComment body allowRepeats =>
    unfold Execution.applyOne
    refine (isRepeat_agrees steady issue body allowRepeats).bind fun repeated => ?_
    cases repeated with
    | true => exact (Work.agrees_log _ _ _ _).bind fun _ => Work.agrees_pure _
    | false =>
      unfold Execution.post
      rw [← issue]
      refine (steady.postComment _).bind fun comment => ?_
      exact (Work.agrees_log _ _ _ _).bind fun _ => Work.agrees_pure _

theorem step_agrees (steady : p.Steady R pr.issue) (issue : pr.issue = pr'.issue) (dryRun : Bool)
    (applied : List Action) (a : Action) :
    (Execution.step p pr dryRun applied a).Agrees R (Execution.step p pr' dryRun applied a) := by
  unfold Execution.step
  cases dryRun with
  | true => exact (Work.agrees_log _ _ _ _).bind fun _ => Work.agrees_count _ _
  | false =>
    refine (applyOne_agrees steady issue a).attempt.bind fun outcome => ?_
    cases outcome with
    | ok result => exact Work.agrees_count _ _
    | error failure =>
      cases transient : failure.isTransient with
      | true =>
        simp only [transient, if_true]
        refine (Work.agrees_count _ _).bind fun _ => ?_
        exact (Work.agrees_log _ _ _ _).bind fun _ => Work.agrees_fail _
      | false =>
        simp only [transient, Bool.false_eq_true, if_false]
        exact Work.agrees_fail _

theorem applyAfter_agrees (steady : p.Steady R pr.issue) (issue : pr.issue = pr'.issue)
    (dryRun : Bool) (applied actions : List Action) :
    (Execution.applyAfter p pr dryRun applied actions).Agrees R
      (Execution.applyAfter p pr' dryRun applied actions) := by
  induction actions generalizing applied with
  | nil => exact Work.agrees_pure applied
  | cons a actions ih =>
    exact (step_agrees steady issue dryRun applied a).bind fun _ => ih (applied ++ [a])

variable {event event' : Event}

theorem act_agrees (steady : p.Steady R event.pr.issue) (options : Options)
    (matter : event.matter = event'.matter) (issue : event.pr.issue = event'.pr.issue) :
    (Pipeline.act p options event).Agrees R (Pipeline.act p options event') := by
  unfold Pipeline.act
  refine (readLabels_agrees steady issue).bind fun labels => ?_
  rw [options.config.actionsFor_eq matter]
  refine (Work.agrees_log _ _ _ _).bind fun _ => ?_
  cases (options.config.actionsFor labels event').isEmpty with
  | true => exact (Work.agrees_log _ _ _ _).bind fun _ => Work.agrees_pure _
  | false =>
    refine (applyAfter_agrees steady issue options.dryRun [] _).bind fun applied => ?_
    refine .bind_platform fun s s' => ?_
    exact (Work.agrees_log _ _ _ _).bind fun _ => Work.agrees_pure applied

theorem handleEvent_agrees (steady : p.Steady R event.pr.issue) (options : Options)
    (matter : event.matter = event'.matter) (issue : event.pr.issue = event'.pr.issue) :
    (Pipeline.handleEvent p options event).Agrees R (Pipeline.handleEvent p options event') := by
  have acts := act_agrees steady options matter issue
  unfold Pipeline.handleEvent
  refine (Work.agrees_log _ _ _ _).bind fun _ => ?_
  cases event with
  | codePush pr action =>
    cases event' with
    | codePush pr' action' => exact acts
    | _ => nomatch matter
  | reviewSubmitted pr outcome =>
    cases event' with
    | reviewSubmitted pr' outcome' => exact acts
    | _ => nomatch matter
  | ignored pr kind action =>
    cases event' with
    | ignored pr' kind' action' =>
      refine (Work.agrees_log _ _ _ _).bind fun _ => ?_
      exact (Work.agrees_count _ _).bind fun _ => Work.agrees_pure _
    | _ => nomatch matter

variable {d : Delivery}

/-- A delivery is handled alike on platforms on which the operations on its issue are steady. -/
theorem handlePayload_agrees (steady : ∀ event, d.TellsOf event → p.Steady R event.pr.issue)
    (options : Options) :
    (Pipeline.handlePayload p options d.name d.data).Agrees R
      (Pipeline.handlePayload p options d.name d.data) := by
  unfold Pipeline.handlePayload
  refine .bind_ofExcept _ fun event tells => ?_
  exact handleEvent_agrees (steady event tells) options rfl rfl

theorem letsThrough_agrees (settings : Settings) (repository : Repository) :
    (Pipeline.letsThrough settings repository : Work σ Bool).Agrees R
      (Pipeline.letsThrough settings repository) := by
  unfold Pipeline.letsThrough
  cases settings.serves repository with
  | true => exact Work.agrees_pure true
  | false => exact (Work.agrees_log _ _ _ _).bind fun _ => Work.agrees_pure false

theorem onPullRequest_agrees {payload : Event.Payload} (isObject : d.data = .obj payload)
    (steady : ∀ event, d.TellsOf event → p.Steady R event.pr.issue) (settings : Settings)
    (options : Options) :
    (Pipeline.onPullRequest p settings options d.name payload).Agrees R
      (Pipeline.onPullRequest p settings options d.name payload) := by
  unfold Pipeline.onPullRequest
  refine (Work.agrees_log _ _ _ _).bind fun _ => ?_
  refine .bind_ofExcept _ fun event told => ?_
  have tells : d.TellsOf event := by rwa [← isObject] at told
  refine .bind_ofExcept _ fun repository _ => ?_
  refine (letsThrough_agrees settings repository).bind fun served => ?_
  cases served with
  | true =>
    refine (handleEvent_agrees (steady event tells) options rfl rfl).bind fun _ => ?_
    exact Work.agrees_pure ()
  | false => exact Work.agrees_count _ _

theorem dispatch_agrees (steady : ∀ event, d.TellsOf event → p.Steady R event.pr.issue)
    (settings : Settings) (options : Options) :
    (Pipeline.dispatch p settings options d.name d.data).Agrees R
      (Pipeline.dispatch p settings options d.name d.data) := by
  unfold Pipeline.dispatch
  cases EventKind.ofName? d.name with
  | none => exact Work.agrees_pure ()
  | some kind =>
    cases isObject : d.data with
    | obj payload => exact onPullRequest_agrees isObject steady settings options
    | _ => exact Work.agrees_fail _

theorem recover_agrees (name : String) (failure : Failure) :
    (Pipeline.recover name failure : Work σ DeliveryStatus).Agrees R
      (Pipeline.recover name failure) := by
  unfold Pipeline.recover
  cases failure.isMalformed with
  | true =>
    refine (Work.agrees_count _ _).bind fun _ => ?_
    exact (Work.agrees_log _ _ _ _).bind fun _ => Work.agrees_pure _
  | false =>
    cases failure.isTransient with
    | true =>
      refine (Work.agrees_count _ _).bind fun _ => ?_
      exact (Work.agrees_log _ _ _ _).bind fun _ => Work.agrees_pure _
    | false => exact Work.agrees_fail failure

theorem deliver_agrees (steady : ∀ event, d.TellsOf event → p.Steady R event.pr.issue)
    {connect : Json → Work σ Unit} (connects : ∀ id, (connect id).Agrees R (connect id))
    (settings : Settings) :
    (Pipeline.deliver p settings connect d).Agrees R (Pipeline.deliver p settings connect d) := by
  unfold Pipeline.deliver
  refine (Work.agrees_count _ _).bind fun _ => ?_
  cases d.isSupported with
  | false => exact (Work.agrees_count _ _).bind fun _ => Work.agrees_pure _
  | true =>
    cases d.installation? with
    | none =>
      refine (Work.agrees_count _ _).bind fun _ => ?_
      exact (Work.agrees_log _ _ _ _).bind fun _ => Work.agrees_pure _
    | some id =>
      refine (Work.agrees_log _ _ _ _).bind fun _ => ?_
      refine Work.Agrees.bind (Work.Agrees.attempt ?_) fun outcome => ?_
      · refine (connects id).bind fun _ => ?_
        refine (Work.agrees_log _ _ _ _).bind fun _ => ?_
        exact dispatch_agrees steady settings _
      · cases outcome with
        | ok value => exact Work.agrees_pure _
        | error failure => exact recover_agrees d.name failure

end Pipeline

end SuiteTrigger
