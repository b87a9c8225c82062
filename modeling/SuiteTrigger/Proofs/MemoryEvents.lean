import SuiteTrigger.Pipeline.Handling
import SuiteTrigger.Proofs.MemoryActions

namespace SuiteTrigger.Memory

open Work

/-- What an event that is not ignored comes to. -/
def actEnding (m : Memory) (options : Options) (event : Event) : Ending Memory (List Action) :=
  if .getLabels ∈ m.failing then
    ⟨.error Method.getLabels.failure, m.record [.getLabels], []⟩
  else
    let actions := options.config.actionsFor (m.labelsOf event.pr.number) event
    if options.dryRun then
      ⟨.ok actions, m.record [.getLabels], actions.map fun a => .action a.kind .dryRun⟩
    else listEnding event.pr.number [] actions (m.record [.getLabels])

/-- What a handled event comes to. -/
def eventEnding (m : Memory) (options : Options) (event : Event) : Ending Memory (List Action) :=
  match event with
  | .ignored _ kind _ => ⟨.ok [], m, [.skipped kind .action]⟩
  | event => actEnding m options event

theorem apply_ends (pr : PullRequestRef) (dryRun : Bool) (actions : List Action) (m : Memory) :
    (Execution.apply ops pr dryRun actions).Ends m
      (if dryRun then ⟨.ok actions, m, actions.map fun a => .action a.kind .dryRun⟩
        else listEnding pr.number [] actions m) := by
  rw [Execution.apply]
  cases dryRun with
  | true => exact applyAfter_dry ops pr [] actions m
  | false => exact applyAfter_ends pr [] actions m

theorem act_ends (options : Options) (event : Event) (m : Memory) :
    (Pipeline.act ops options event).Ends m (m.actEnding options event) := by
  rw [Pipeline.act, actEnding]
  by_cases unread : Method.getLabels ∈ m.failing
  · rw [if_pos unread]
    exact (readLabels_stops unread event.pr).stop
  · rw [if_neg unread]
    refine (readLabels_ends unread event.pr).andThen ?_
    refine (ends_log _ _ _).andThen ?_
    generalize options.config.actionsFor (m.labelsOf event.pr.number) event = actions
    have applied := apply_ends event.pr options.dryRun actions (m.record [.getLabels])
    cases actions with
    | nil =>
      rw [if_pos List.isEmpty_nil]
      refine (ends_log _ _ _).andThen ?_
      have nothing := ends_pure (m.record [.getLabels]) ([] : List Action)
      cases dry : options.dryRun with
      | true => exact nothing
      | false => exact nothing
    | cons a rest =>
      rw [if_neg (by simp)]
      refine applied.report fun value r => ?_
      exact (ends_platform r).andThen ((ends_log _ _ _).andThen (ends_pure _ _))

theorem handleEvent_ends (options : Options) (event : Event) (m : Memory) :
    (Pipeline.handleEvent ops options event).Ends m (m.eventEnding options event) := by
  unfold Pipeline.handleEvent
  refine (ends_log _ _ _).andThen ?_
  cases event with
  | codePush pr action => exact act_ends options _ m
  | reviewSubmitted pr outcome => exact act_ends options _ m
  | ignored pr kind action =>
    refine (ends_log _ _ _).andThen ?_
    exact (ends_count _ _).bind (ends_pure _ _)

theorem handlePayload_ends {name : String} {data : Json} {event : Event}
    (parsed : Event.ofDelivered name data = .ok event) (options : Options) (m : Memory) :
    (Pipeline.handlePayload ops options name data).Ends m (m.eventEnding options event) := by
  rw [Pipeline.handlePayload, parsed]
  exact (ends_ofExcept m (.ok event)).andThen (handleEvent_ends options event m)

theorem handlePayload_stops {name : String} {data : Json} {failure : Failure}
    (refused : Event.ofDelivered name data = .error failure) (options : Options) (m : Memory) :
    (Pipeline.handlePayload ops options name data).Ends m ⟨.error failure, m, []⟩ := by
  rw [Pipeline.handlePayload, refused]
  exact (ends_ofExcept m (.error failure)).stop

/-- The actions that an event asks for, with the labels as they are. -/
def decided (m : Memory) (config : TriggerConfig) (event : Event) : List Action :=
  config.actionsFor (m.labelsOf event.pr.number) event

theorem decided_congr {m m' : Memory} (same : m.contents = m'.contents) (config : TriggerConfig)
    (event : Event) : m.decided config event = m'.decided config event := by
  rw [decided, decided, labelsOf_eq same]

theorem decided_push (m : Memory) (config : TriggerConfig) (pr : PullRequestRef)
    (action : String) :
    m.decided config (.codePush pr action) =
      (if config.approvedLabel ∈ m.labelsOf pr.number then [.removeLabel config.approvedLabel]
        else []) ++ [.postComment config.fastTrigger true] := rfl

theorem decided_approval (m : Memory) (config : TriggerConfig) (pr : PullRequestRef) :
    m.decided config (.reviewSubmitted pr .approved) =
      if config.approvedLabel ∈ m.labelsOf pr.number then []
      else [.addLabel config.approvedLabel, .postComment config.fullTrigger true] := rfl

/-- An event performs all that it asks for, or fails before that: its labels are not read, or one of
its actions is stopped. -/
theorem eventEnding_cases (m : Memory) (config : TriggerConfig) (event : Event) :
    SucceedsAt (m.eventEnding ⟨config, false⟩ event) (m.decided config event)
        (m.performAll event.pr.number (m.decided config event)) ∨
      .getLabels ∈ m.failing ∧ FailsAt (m.eventEnding ⟨config, false⟩ event) m ∨
      .getLabels ∉ m.failing ∧ ∃ done,
        m.StopsAfter event.pr.number done (m.decided config event) ∧
        FailsAt (m.eventEnding ⟨config, false⟩ event) (m.performAll event.pr.number done) := by
  by_cases acts : m.eventEnding ⟨config, false⟩ event = m.actEnding ⟨config, false⟩ event
  · rw [acts, actEnding]
    by_cases unread : Method.getLabels ∈ m.failing
    · rw [if_pos unread]
      exact .inr (.inl ⟨unread, ⟨_, rfl, rfl⟩, rfl⟩)
    · rw [if_neg unread]
      rcases listEnding_cases (contents_record m [.getLabels]) (failing_record m [.getLabels])
        event.pr.number [] (m.decided config event) with ⟨-, succeeds⟩ | stops
      · exact .inl succeeds
      · exact .inr (.inr ⟨unread, stops⟩)
  · cases event with
    | codePush pr action => exact absurd rfl acts
    | reviewSubmitted pr outcome => exact absurd rfl acts
    | ignored pr kind action => exact .inl ⟨rfl, rfl⟩

/-- An event performs some first part of what it asks for. -/
theorem eventEnding_begins (m : Memory) (config : TriggerConfig) (event : Event) :
    ∃ done, done <+: m.decided config event ∧
      (m.eventEnding ⟨config, false⟩ event).platform.contents =
        (m.performAll event.pr.number done).contents := by
  rcases m.eventEnding_cases config event with
    succeeds | ⟨-, fails⟩ | ⟨-, done, ⟨a, rest, split, -, -⟩, fails⟩
  · exact ⟨_, List.prefix_rfl, succeeds.contents⟩
  · exact ⟨[], List.nil_prefix, fails.contents⟩
  · exact ⟨done, ⟨a :: rest, split.symm⟩, fails.contents⟩

/-- An event performs all that it asks for when no method fails. -/
theorem eventEnding_succeeds {m : Memory} (none : m.failing = []) (config : TriggerConfig)
    (event : Event) :
    SucceedsAt (m.eventEnding ⟨config, false⟩ event) (m.decided config event)
      (m.performAll event.pr.number (m.decided config event)) := by
  rcases m.eventEnding_cases config event with
    succeeds | ⟨unread, -⟩ | ⟨-, done, ⟨a, rest, -, -, blocked⟩, -⟩
  · exact succeeds
  · rw [none] at unread
    exact absurd unread List.not_mem_nil
  · have stillNone : (m.performAll event.pr.number done).failing = [] := by
      rw [failing_performAll, none]
    exact absurd blocked (not_blocks stillNone _ _)

end SuiteTrigger.Memory
