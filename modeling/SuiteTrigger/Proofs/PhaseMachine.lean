import SuiteTrigger.Proofs.Attempts

/-!
# The phase machine

A pull request is unapproved or approved: its marker label says which. The machine of the two phases
is run on the events and label edits of one pull request (`Track.run`). What deliveries and edits on
a platform in memory do to each pull request, and the actions they give, are what its machine does
(`step_turn`, `step_other`), however those of different pull requests are mixed.
-/

namespace SuiteTrigger

inductive Phase where
  | unapproved
  | approved
  deriving DecidableEq

/-- What is known of a pull request: its phase, and the comments on it. -/
structure Track where
  phase : Phase
  comments : List String
  deriving DecidableEq

/-- What happens to a pull request. -/
inductive Stimulus where
  | push
  | review (outcome : ReviewOutcome)
  | ignored
  | edit (labels : LabelSet)

/-- The phase that a set of labels shows. -/
def Phase.ofLabels (config : TriggerConfig) (labels : LabelSet) : Phase :=
  if config.approvedLabel ∈ labels then .approved else .unapproved

namespace Track

/-- One step of the machine, with the actions that it asks for. -/
def step (config : TriggerConfig) (t : Track) : Stimulus → Track × List Action
  | .push =>
    match t.phase with
    | .unapproved =>
      (⟨.unapproved, t.comments ++ [config.fastTrigger]⟩, [.postComment config.fastTrigger true])
    | .approved =>
      (⟨.unapproved, t.comments ++ [config.fastTrigger]⟩,
        [.removeLabel config.approvedLabel, .postComment config.fastTrigger true])
  | .review .approved =>
    match t.phase with
    | .unapproved =>
      (⟨.approved, t.comments ++ [config.fullTrigger]⟩,
        [.addLabel config.approvedLabel, .postComment config.fullTrigger true])
    | .approved => (t, [])
  | .review _ => (t, [])
  | .ignored => (t, [])
  | .edit labels => (⟨.ofLabels config labels, t.comments⟩, [])

/-- The machine on one stimulus after another, with what each step asks for. -/
def run (config : TriggerConfig) (t : Track) : List Stimulus → Track × List (List Action)
  | [] => (t, [])
  | stimulus :: stimuli =>
    let (next, actions) := t.step config stimulus
    let (last, rest) := run config next stimuli
    (last, actions :: rest)

/-- The pull request of a number as it stands on a platform. -/
def ofMemory (config : TriggerConfig) (m : Memory) (n : Int) : Track :=
  ⟨.ofLabels config (m.labelsOf n), m.commentsOf n⟩

end Track

/-- A turn of a run: a delivery that is handled, or a set of labels that is put on a pull request
from outside. -/
inductive Turn where
  | handled (delivery : Delivery)
  | edited (number : Int) (labels : LabelSet)

/-- What an event is to the pull request that it is about. -/
def Event.stimulus : Event → Stimulus
  | .codePush .. => .push
  | .reviewSubmitted _ outcome => .review outcome
  | .ignored .. => .ignored

namespace Turn

/-- What a turn gives, with no method failing, and the platform that it leaves. -/
def take (config : TriggerConfig) (m : Memory) : Turn → Except Failure (List Action) × Memory
  | .handled delivery => Attempt.run config ⟨[], delivery⟩ m
  | .edited n labels => (.ok [], m.setLabels n labels)

/-- What a turn is to the pull request of a number; nothing when it is about another one, or about
none because its delivery is malformed. -/
def stimulus? (n : Int) : Turn → Option Stimulus
  | .handled delivery =>
    match Event.ofDelivered delivery.name delivery.data with
    | .ok event => if event.pr.number = n then some event.stimulus else none
    | .error _ => none
  | .edited number labels => if number = n then some (.edit labels) else none

def finish (config : TriggerConfig) (m : Memory) : List Turn → Memory
  | [] => m
  | turn :: turns => finish config (turn.take config m).2 turns

/-- What the turns about the pull request of a number give. -/
def outcomes (config : TriggerConfig) (n : Int) (m : Memory) :
    List Turn → List (Except Failure (List Action))
  | [] => []
  | turn :: turns =>
    let rest := outcomes config n (turn.take config m).2 turns
    if (turn.stimulus? n).isSome then (turn.take config m).1 :: rest else rest

end Turn

namespace Track

variable {config : TriggerConfig} {n : Int} {m : Memory}

theorem ofMemory_eq {m m' : Memory} (labels : m.labelsOf n = m'.labelsOf n)
    (comments : m.commentsOf n = m'.commentsOf n) : ofMemory config m n = ofMemory config m' n := by
  rw [ofMemory, ofMemory, labels, comments]

theorem ofLabels_of_mem {labels : LabelSet} (marked : config.approvedLabel ∈ labels) :
    Phase.ofLabels config labels = .approved := if_pos marked

theorem ofLabels_of_not_mem {labels : LabelSet} (unmarked : config.approvedLabel ∉ labels) :
    Phase.ofLabels config labels = .unapproved := if_neg unmarked

theorem step_push (config : TriggerConfig) (m : Memory) (pr : PullRequestRef) (action : String) :
    (ofMemory config m pr.number).step config .push =
      (ofMemory config
          (m.performAll pr.number (m.decided config (.codePush pr action))) pr.number,
        m.decided config (.codePush pr action)) := by
  by_cases marked : config.approvedLabel ∈ m.labelsOf pr.number
  · have decided : m.decided config (.codePush pr action) =
        [.removeLabel config.approvedLabel, .postComment config.fastTrigger true] := by
      rw [Memory.decided_push, if_pos marked]
      rfl
    have cleared : config.approvedLabel ∉ (m.labelsOf pr.number).erase config.approvedLabel := by
      simp
    rw [decided]
    simp [ofMemory, step, ofLabels_of_mem marked, ofLabels_of_not_mem cleared]
  · have decided : m.decided config (.codePush pr action) =
        [.postComment config.fastTrigger true] := by
      rw [Memory.decided_push, if_neg marked]
      rfl
    rw [decided]
    simp [ofMemory, step, ofLabels_of_not_mem marked]

theorem step_review (config : TriggerConfig) (m : Memory) (pr : PullRequestRef)
    (outcome : ReviewOutcome) :
    (ofMemory config m pr.number).step config (.review outcome) =
      (ofMemory config
          (m.performAll pr.number (m.decided config (.reviewSubmitted pr outcome))) pr.number,
        m.decided config (.reviewSubmitted pr outcome)) := by
  cases outcome with
  | changesRequested => rfl
  | commented => rfl
  | approved =>
    by_cases marked : config.approvedLabel ∈ m.labelsOf pr.number
    · have decided : m.decided config (.reviewSubmitted pr .approved) = [] := if_pos marked
      rw [decided]
      simp [ofMemory, step, ofLabels_of_mem marked]
    · have decided : m.decided config (.reviewSubmitted pr .approved) =
          [.addLabel config.approvedLabel, .postComment config.fullTrigger true] := if_neg marked
      have set : config.approvedLabel ∈ (m.labelsOf pr.number).insert config.approvedLabel := by
        simp
      rw [decided]
      simp [ofMemory, step, ofLabels_of_not_mem marked, ofLabels_of_mem set]

/-- What an event does to its pull request, and asks for, is what the machine does. -/
theorem step_event (config : TriggerConfig) (m : Memory) (event : Event) :
    (ofMemory config m event.pr.number).step config event.stimulus =
      (ofMemory config (m.performAll event.pr.number (m.decided config event)) event.pr.number,
        m.decided config event) := by
  cases event with
  | codePush pr action => exact step_push config m pr action
  | reviewSubmitted pr outcome => exact step_review config m pr outcome
  | ignored pr kind action => rfl

/-- A turn about a pull request takes it where the machine goes, and gives what the machine asks
for. -/
theorem step_turn (config : TriggerConfig) {turn : Turn} {stimulus : Stimulus}
    (about : turn.stimulus? n = some stimulus) (m : Memory) :
    ofMemory config (turn.take config m).2 n = ((ofMemory config m n).step config stimulus).1 ∧
      (turn.take config m).1 = .ok ((ofMemory config m n).step config stimulus).2 := by
  cases turn with
  | handled delivery =>
    rw [Turn.stimulus?] at about
    rcases parsed : Event.ofDelivered delivery.name delivery.data with failure | event
    · rw [parsed] at about
      nomatch about
    rw [parsed] at about
    obtain ⟨rfl, same⟩ := Option.ite_none_right_eq_some.1 about
    cases Option.some.inj same
    obtain ⟨outcome, contents⟩ :=
      Attempt.run_succeeds (a := ⟨[], delivery⟩) config rfl parsed m
    rw [step_event]
    exact ⟨ofMemory_eq (Memory.labelsOf_eq contents _) (Memory.commentsOf_eq contents _), outcome⟩
  | edited number labels =>
    obtain ⟨rfl, same⟩ := Option.ite_none_right_eq_some.1 about
    cases Option.some.inj same
    refine ⟨?_, rfl⟩
    simp [Turn.take, ofMemory, step]

/-- A turn that is not about a pull request leaves it as it is. -/
theorem step_other {turn : Turn} (other : turn.stimulus? n = none) (m : Memory) :
    ofMemory config (turn.take config m).2 n = ofMemory config m n := by
  cases turn with
  | handled delivery =>
    rw [Turn.stimulus?] at other
    rcases parsed : Event.ofDelivered delivery.name delivery.data with failure | event
    · rw [Turn.take, Attempt.run_refused parsed]
      rfl
    rw [parsed] at other
    have elsewhere : n ≠ event.pr.number := by
      intro same
      rw [same] at other
      simp at other
    obtain ⟨-, contents⟩ := Attempt.run_succeeds (a := ⟨[], delivery⟩) config rfl parsed m
    refine ofMemory_eq ?_ ?_
    · exact (Memory.labelsOf_eq contents n).trans (Memory.labelsOf_performAll_other elsewhere _ _)
    · exact (Memory.commentsOf_eq contents n).trans
        (Memory.commentsOf_performAll_other elsewhere _ _)
  | edited number labels =>
    have elsewhere : n ≠ number := by
      intro same
      rw [same] at other
      simp [Turn.stimulus?] at other
    simp [Turn.take, ofMemory, elsewhere]

end Track

/-- Whatever turns are taken from whatever platform: each pull request ends in the phase and with
the comments to which the machine goes on its own stimuli, and its turns give the actions that the
machine asks for. -/
theorem refines_phases (config : TriggerConfig) (m : Memory) (turns : List Turn) (n : Int) :
    (Track.ofMemory config (Turn.finish config m turns) n, Turn.outcomes config n m turns) =
      (((Track.ofMemory config m n).run config (turns.filterMap (·.stimulus? n))).1,
        ((Track.ofMemory config m n).run config (turns.filterMap (·.stimulus? n))).2.map .ok) := by
  induction turns generalizing m with
  | nil => rfl
  | cons turn turns ih =>
    have later := ih (turn.take config m).2
    rw [Prod.mk.injEq] at later ⊢
    obtain ⟨track, outcomes⟩ := later
    rw [Turn.finish, Turn.outcomes]
    rcases about : turn.stimulus? n with _ | stimulus
    · rw [List.filterMap_cons_none about]
      rw [Track.step_other about] at track outcomes
      exact ⟨track, outcomes⟩
    · obtain ⟨next, outcome⟩ := Track.step_turn config about m
      rw [List.filterMap_cons_some about]
      rw [next] at track outcomes
      refine ⟨track, ?_⟩
      rw [if_pos Option.isSome_some, outcome, outcomes]
      rfl

end SuiteTrigger
