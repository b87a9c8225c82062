import SuiteTrigger.Pipeline.Handling
import SuiteTrigger.Proofs.MemoryCalls

namespace SuiteTrigger

variable {σ α β : Type} {good : σ → Prop}

namespace Work

/-- From platform `s` the work succeeds with one of the wanted values and leaves a good platform. -/
def Yields (good : σ → Prop) (work : Work σ α) (s : σ) (wanted : α → Prop) : Prop :=
  ∃ value q moves, work.Ends s ⟨.ok value, q, moves⟩ ∧ wanted value ∧ good q

theorem Ends.yields {work : Work σ α} {s q : σ} {value : α} {moves : List Counter}
    (ends : work.Ends s ⟨.ok value, q, moves⟩) (kept : good q) :
    work.Yields good s (· = value) :=
  ⟨value, q, moves, ends, rfl, kept⟩

namespace Yields

variable {work : Work σ α} {next : α → Work σ β} {s : σ} {wanted weaker : α → Prop}
  {wanted' : β → Prop}

theorem bind (first : work.Yields good s wanted)
    (rest : ∀ value q, wanted value → good q → (next value).Yields good q wanted') :
    (work >>= next).Yields good s wanted' := by
  obtain ⟨value, q, moves, ends, fits, kept⟩ := first
  obtain ⟨value', r, more, ends', fits', kept'⟩ := rest value q fits kept
  exact ⟨value', r, _, ends.bind ends', fits', kept'⟩

theorem weaken (yields : work.Yields good s wanted) (weak : ∀ value, wanted value → weaker value) :
    work.Yields good s weaker := by
  obtain ⟨value, q, moves, ends, fits, kept⟩ := yields
  exact ⟨value, q, moves, ends, weak value fits, kept⟩

/-- A step that leaves the platform as it is comes before other work. -/
theorem after {value : α} {moves : List Counter} (first : work.Ends s ⟨.ok value, s, moves⟩)
    (rest : (next value).Yields good s wanted') : (work >>= next).Yields good s wanted' := by
  obtain ⟨value', q, more, ends, fits, kept⟩ := rest
  exact ⟨value', q, _, first.bind ends, fits, kept⟩

theorem outcome {value : α} (yields : work.Yields good s (· = value)) (j : Journal) :
    (work.on ⟨s, j⟩).1 = .ok value := by
  obtain ⟨_, q, moves, ends, rfl, -⟩ := yields
  obtain ⟨entries, run⟩ := ends j
  rw [run]

end Yields

end Work

/-- From every good state, each operation that carries out an action on the issue succeeds and
leaves a good one. -/
structure Platform.Obliging (good : σ → Prop) (p : Platform σ) (issue : IssueRef) : Prop where
  addLabels : ∀ names s, good s → (p.addLabels issue names).Yields good s fun _ => True
  removeLabel : ∀ name s, good s → (p.removeLabel issue name).Yields good s fun _ => True
  anyComment : ∀ wanted s, good s → (p.anyComment issue wanted).Yields good s fun _ => True
  postComment : ∀ body s, good s → (p.postComment issue body).Yields good s fun _ => True

/-- State `s` is good, and the labels that are read there on the issue make up a set. -/
structure Platform.Shows (good : σ → Prop) (p : Platform σ) (issue : IssueRef) (s : σ)
    (labels : LabelSet) : Prop where
  state : good s
  labels : (p.labels issue).Yields good s fun found => LabelSet.ofList (found.map (·.name)) = labels

section Execution

open Work

variable {p : Platform σ} {pr : PullRequestRef} {s : σ}

theorem isRepeat_yields (obliging : p.Obliging good pr.issue) (state : good s) (body : String)
    (allowRepeats : Bool) :
    (Execution.isRepeat p pr body allowRepeats).Yields good s fun _ => True := by
  unfold Execution.isRepeat
  cases allowRepeats with
  | true => exact ((ends_pure s false).yields state).weaken fun _ _ => trivial
  | false => exact obliging.anyComment _ s state

theorem applyOne_yields (obliging : p.Obliging good pr.issue) (state : good s) (a : Action) :
    (Execution.applyOne p pr a).Yields good s fun _ => True := by
  cases a with
  | addLabel name =>
    refine .after (ends_log s _ _) ?_
    refine (obliging.addLabels [name] s state).bind fun _ q _ kept => ?_
    exact ((ends_pure q _).yields kept).weaken fun _ _ => trivial
  | removeLabel name =>
    refine .after (ends_log s _ _) ?_
    refine (obliging.removeLabel name s state).bind fun attached q _ kept => ?_
    exact ((ends_pure q _).yields kept).weaken fun _ _ => trivial
  | postComment body allowRepeats =>
    refine (isRepeat_yields obliging state body allowRepeats).bind fun repeated q _ kept => ?_
    cases repeated with
    | true =>
      refine .after (ends_log q _ _) ?_
      exact ((ends_pure q _).yields kept).weaken fun _ _ => trivial
    | false =>
      refine (obliging.postComment body q kept).bind fun comment r _ after => ?_
      refine .after (ends_log r _ _) ?_
      exact ((ends_pure r _).yields after).weaken fun _ _ => trivial

theorem step_yields (obliging : p.Obliging good pr.issue) (state : good s) (dryRun : Bool)
    (applied : List Action) (a : Action) :
    (Execution.step p pr dryRun applied a).Yields good s fun _ => True := by
  unfold Execution.step
  cases dryRun with
  | true =>
    refine .after (ends_log s _ _) ?_
    exact ((ends_count s _).yields state).weaken fun _ _ => trivial
  | false =>
    obtain ⟨result, q, moves, ends, -, kept⟩ := applyOne_yields obliging state a
    exact ⟨(), q, _, ends.attempt.bind (ends_count q _), trivial, kept⟩

theorem applyAfter_yields (obliging : p.Obliging good pr.issue) (state : good s) (dryRun : Bool)
    (applied actions : List Action) :
    (Execution.applyAfter p pr dryRun applied actions).Yields good s
      (· = applied ++ actions) := by
  -- Every action leaves a good state, so the actions after it start from one.
  induction actions generalizing applied s with
  | nil => exact (ends_pure s applied).yields state |>.weaken fun _ same => by simp [same]
  | cons a actions ih =>
    refine (step_yields obliging state dryRun applied a).bind fun _ q _ kept => ?_
    exact (ih kept (applied ++ [a])).weaken fun _ same => by simp [same]

end Execution

section Handling

open Work

variable {p : Platform σ} {event : Event} {s : σ} {labels : LabelSet}

theorem act_yields (obliging : p.Obliging good event.pr.issue)
    (shows : p.Shows good event.pr.issue s labels) (options : Options) :
    (Pipeline.act p options event).Yields good s
      (· = options.config.actionsFor labels event) := by
  have read : (p.readLabels event.pr).Yields good s (· = labels) := by
    unfold Platform.readLabels
    refine shows.labels.bind fun found q same kept => ?_
    refine .after (ends_log q _ _) ?_
    exact ((ends_pure q _).yields kept).weaken fun _ told => told.trans same
  unfold Pipeline.act
  refine read.bind fun _ q same kept => ?_
  rw [same]
  refine .after (ends_log q _ _) ?_
  cases options.config.actionsFor labels event with
  | nil => exact .after (ends_log q _ _) ((ends_pure q []).yields kept)
  | cons a actions =>
    refine (applyAfter_yields obliging kept options.dryRun [] _).bind fun applied r same after => ?_
    rw [same]
    refine .after (ends_platform r) ?_
    exact .after (ends_log r _ _) ((ends_pure r _).yields after)

theorem handleEvent_yields (obliging : p.Obliging good event.pr.issue)
    (shows : p.Shows good event.pr.issue s labels) (options : Options) :
    (Pipeline.handleEvent p options event).Yields good s
      (· = options.config.actionsFor labels event) := by
  unfold Pipeline.handleEvent
  refine .after (ends_log s _ _) ?_
  cases event with
  | codePush pr action => exact act_yields obliging shows options
  | reviewSubmitted pr outcome => exact act_yields obliging shows options
  | ignored pr kind action =>
    refine .after (ends_log s _ _) ?_
    exact .after (ends_count s _) ((ends_pure s []).yields shows.state)

/-- Where nothing fails, a payload that tells of an event leads to what the event asks for. -/
theorem handlePayload_yields {name : String} {data : Json}
    (told : Event.ofDelivered name data = .ok event) (obliging : p.Obliging good event.pr.issue)
    (shows : p.Shows good event.pr.issue s labels) (options : Options) :
    (Pipeline.handlePayload p options name data).Yields good s
      (· = options.config.actionsFor labels event) := by
  rw [Pipeline.handlePayload, told]
  exact .after (ends_ofExcept s (.ok event)) (handleEvent_yields obliging shows options)

end Handling

namespace Memory

theorem call_yields (method : Method) {effect : Memory → α × Memory}
    (keeps : ∀ m, (effect m).2.failing = m.failing) (m : Memory) (sound : m.failing = []) :
    (call method effect).Yields (·.failing = []) m fun _ => True := by
  have works : method ∉ m.failing := by
    rw [sound]
    exact List.not_mem_nil
  exact ⟨_, _, _, call_ends works effect, trivial, (keeps _).trans sound⟩

theorem obliging (issue : IssueRef) : ops.Obliging (·.failing = []) issue where
  addLabels names := by
    rw [ops_addLabels]
    exact call_yields _ fun _ => rfl
  removeLabel name := by
    rw [ops_removeLabel]
    exact call_yields _ fun _ => rfl
  anyComment wanted := by
    rw [ops_anyComment]
    exact call_yields _ fun _ => rfl
  postComment body := by
    rw [ops_postComment]
    exact call_yields _ fun _ => rfl

theorem shows {m : Memory} (sound : m.failing = []) (issue : IssueRef) :
    ops.Shows (·.failing = []) issue m (m.labelsOf issue.number) where
  state := sound
  labels := by
    have works : .getLabels ∉ m.failing := by
      rw [sound]
      exact List.not_mem_nil
    rw [ops_labels]
    exact ⟨_, _, _, call_ends works _, ofList_labels _, sound⟩

end Memory

end SuiteTrigger
