import SuiteTrigger.Proofs.Attempts

/-!
# Re-arming of the full suite

The marker label guards the full suite: a step that posts the full trigger finds the marker absent
and leaves it present (`posts_full`), and only a push takes it off (`keeps_marker`). So between two
full triggers on a pull request lies a push that re-armed it, whatever fails on the way.
-/

namespace SuiteTrigger

/-- An attempt with the platform before it, what it gives, and the platform after it. -/
structure Step where
  attempt : Attempt
  before : Memory
  outcome : Except Failure (List Action)
  after : Memory

namespace Step

/-- The step that an attempt makes from a platform. -/
def ofAttempt (config : TriggerConfig) (m : Memory) (a : Attempt) : Step :=
  ⟨a, m, (a.run config m).1, (a.run config m).2⟩

/-- An approval of a pull request adds the full trigger to its comments. -/
def PostsFull (config : TriggerConfig) (n : Int) (step : Step) : Prop :=
  ∃ pr, step.attempt.delivery.TellsOf (.reviewSubmitted pr .approved) ∧ pr.number = n ∧
    ∃ added, step.after.commentsOf n = step.before.commentsOf n ++ added ∧
      config.fullTrigger ∈ added

/-- A push to a pull request takes the marker label off. -/
def Rearms (config : TriggerConfig) (n : Int) (step : Step) : Prop :=
  ∃ pr action, step.attempt.delivery.TellsOf (.codePush pr action) ∧ pr.number = n ∧
    config.approvedLabel ∈ step.before.labelsOf n ∧ config.approvedLabel ∉ step.after.labelsOf n

end Step

/-- The steps that attempts make one after another. -/
def history (config : TriggerConfig) (m : Memory) : List Attempt → List Step
  | [] => []
  | a :: attempts =>
    .ofAttempt config m a :: history config (a.run config m).2 attempts

namespace Step

variable {config : TriggerConfig} {n : Int} {m : Memory} {a : Attempt}

/-- A step posts the full trigger once, over an absent marker that it sets. -/
theorem posts_full (posts : (ofAttempt config m a).PostsFull config n) :
    config.approvedLabel ∉ m.labelsOf n ∧
      config.approvedLabel ∈ (a.run config m).2.labelsOf n ∧
      (a.run config m).2.commentsOf n = m.commentsOf n ++ [config.fullTrigger] := by
  obtain ⟨pr, tells, rfl, added, grown, full⟩ := posts
  have grows : (a.run config m).2.commentsOf pr.number ≠ m.commentsOf pr.number := by
    intro same
    have nothing : m.commentsOf pr.number ++ added = m.commentsOf pr.number :=
      grown.symm.trans same
    rw [List.append_right_eq_self.1 nothing] at full
    exact List.not_mem_nil full
  obtain ⟨done, first, contents⟩ := Attempt.run_begins (a := a) config tells m
  have labels : (a.run config m).2.labelsOf pr.number =
      (m.performAll pr.number done).labelsOf pr.number := Memory.labelsOf_eq contents pr.number
  have comments : (a.run config m).2.commentsOf pr.number =
      (m.performAll pr.number done).commentsOf pr.number := Memory.commentsOf_eq contents pr.number
  rw [Memory.decided_approval] at first
  -- The comments grow only when both actions of the approval are done.
  by_cases marked : config.approvedLabel ∈ m.labelsOf pr.number
  · rw [if_pos marked, List.prefix_nil] at first
    rw [first] at comments
    exact absurd comments grows
  · rw [if_neg marked] at first
    rcases List.prefix_cons_iff.1 first with rfl | ⟨done, rfl, second⟩
    · exact absurd comments grows
    rcases List.prefix_cons_iff.1 second with rfl | ⟨done, rfl, last⟩
    · exact absurd comments grows
    rw [List.prefix_nil.1 last] at labels comments
    refine ⟨marked, ?_, ?_⟩
    · rw [labels]
      simp
    · rw [comments]
      simp

theorem keeps_marker (a : Attempt) (marked : config.approvedLabel ∈ m.labelsOf n) :
    config.approvedLabel ∈ (a.run config m).2.labelsOf n ∨
      (ofAttempt config m a).Rearms config n := by
  rcases parsed : Event.ofDelivered a.delivery.name a.delivery.data with failure | event
  · rw [Attempt.run_refused parsed]
    exact .inl marked
  obtain ⟨done, first, contents⟩ := Attempt.run_begins config parsed m
  have labels := Memory.labelsOf_eq contents n
  by_cases same : event.pr.number = n
  case neg =>
    have other : n ≠ event.pr.number := fun equal => same equal.symm
    rw [labels, Memory.labelsOf_performAll_other other]
    exact .inl marked
  have idle (nothing : m.decided config event = []) :
      config.approvedLabel ∈ (a.run config m).2.labelsOf n := by
    rw [nothing, List.prefix_nil] at first
    rw [labels, first]
    exact marked
  cases event with
  | codePush pr action =>
    by_cases kept : config.approvedLabel ∈ (a.run config m).2.labelsOf n
    · exact .inl kept
    · exact .inr ⟨pr, action, parsed, same, marked, kept⟩
  | reviewSubmitted pr outcome =>
    refine .inl (idle ?_)
    cases outcome with
    | approved => rw [Memory.decided_approval, if_pos (same ▸ marked)]
    | changesRequested => rfl
    | commented => rfl
  | ignored pr kind action => exact .inl (idle rfl)

end Step

section Runs

variable {config : TriggerConfig} {n : Int}

theorem history_split {m : Memory} {attempts : List Attempt} {pre rest : List Step} {x : Step}
    (split : history config m attempts = pre ++ x :: rest) :
    ∃ a later, x = .ofAttempt config x.before a ∧ rest = history config x.after later := by
  induction attempts generalizing m pre with
  | nil =>
    obtain ⟨-, impossible⟩ := List.append_eq_nil_iff.1 split.symm
    nomatch impossible
  | cons a attempts ih =>
    cases pre with
    | nil =>
      obtain ⟨rfl, rfl⟩ := List.cons.inj split
      exact ⟨a, attempts, rfl, rfl⟩
    | cons z pre => exact ih (List.cons.inj split).2

/-- From a marked pull request on, a push re-arms the full suite before the first full trigger. -/
theorem rearmed_before_posting {m : Memory} (marked : config.approvedLabel ∈ m.labelsOf n)
    {attempts : List Attempt} {pre post : List Step} {y : Step}
    (split : history config m attempts = pre ++ y :: post) (posts : y.PostsFull config n) :
    ∃ z ∈ pre, z.Rearms config n := by
  induction attempts generalizing m pre with
  | nil =>
    obtain ⟨-, impossible⟩ := List.append_eq_nil_iff.1 split.symm
    nomatch impossible
  | cons a attempts ih =>
    cases pre with
    | nil =>
      obtain ⟨rfl, -⟩ := List.cons.inj split
      exact absurd marked (Step.posts_full posts).1
    | cons z pre =>
      obtain ⟨rfl, later⟩ := List.cons.inj split
      rcases Step.keeps_marker a marked with kept | rearms
      · obtain ⟨z, inside, rearms⟩ := ih kept later
        exact ⟨z, List.mem_cons_of_mem _ inside, rearms⟩
      · exact ⟨_, List.mem_cons_self, rearms⟩

/-- A step posts the full trigger at most once; between two steps that post it, and before the first
on a pull request that is marked from the start, a push took the marker off. -/
theorem full_triggers_rearmed (config : TriggerConfig) (n : Int) (m : Memory)
    (attempts : List Attempt) :
    (∀ x ∈ history config m attempts, x.PostsFull config n →
      x.after.commentsOf n = x.before.commentsOf n ++ [config.fullTrigger]) ∧
    (∀ pre x mid y post, history config m attempts = pre ++ x :: (mid ++ y :: post) →
      x.PostsFull config n → y.PostsFull config n → ∃ z ∈ mid, z.Rearms config n) ∧
    (config.approvedLabel ∈ m.labelsOf n →
      ∀ pre y post, history config m attempts = pre ++ y :: post →
        y.PostsFull config n → ∃ z ∈ pre, z.Rearms config n) := by
  refine ⟨?_, ?_, ?_⟩
  · intro x inside posts
    obtain ⟨pre, rest, split⟩ := List.append_of_mem inside
    obtain ⟨a, -, made, -⟩ := history_split split
    rw [made] at posts ⊢
    exact (Step.posts_full posts).2.2
  · intro pre x mid y post split first second
    -- The first post leaves the marker, and what follows is a history from there.
    obtain ⟨a, later, made, rest⟩ := history_split split
    rw [made] at first
    have marked : config.approvedLabel ∈ x.after.labelsOf n := by
      rw [made]
      exact (Step.posts_full first).2.1
    exact rearmed_before_posting marked rest.symm second
  · intro marked pre y post split posts
    exact rearmed_before_posting marked split posts

/-- A push takes the marker off and lets the second approval post, though its own comment fails. -/
theorem failed_push_rearms :
    ∃ x y z, history exampleConfig .empty
        [⟨[], exampleApproval⟩, ⟨[.postComment], examplePush⟩, ⟨[], exampleApproval⟩] = [x, y, z] ∧
      x.PostsFull exampleConfig 7 ∧ z.PostsFull exampleConfig 7 ∧ y.Rearms exampleConfig 7 := by
  have first : (Step.ofAttempt exampleConfig .empty ⟨[], exampleApproval⟩).PostsFull
      exampleConfig 7 :=
    ⟨exampleRef, exampleApproval_tells, rfl, [exampleConfig.fullTrigger], by decide +kernel,
      List.mem_singleton_self _⟩
  have last : (Step.ofAttempt exampleConfig
      (Attempt.run exampleConfig ⟨[.postComment], examplePush⟩
        (Attempt.run exampleConfig ⟨[], exampleApproval⟩ .empty).2).2
      ⟨[], exampleApproval⟩).PostsFull exampleConfig 7 :=
    ⟨exampleRef, exampleApproval_tells, rfl, [exampleConfig.fullTrigger], by decide +kernel,
      List.mem_singleton_self _⟩
  obtain ⟨y, between, rearms⟩ :=
    (full_triggers_rearmed exampleConfig 7 .empty
      [⟨[], exampleApproval⟩, ⟨[.postComment], examplePush⟩, ⟨[], exampleApproval⟩]).2.1
      [] _ [_] _ [] rfl first last
  rw [List.mem_singleton] at between
  exact ⟨_, y, _, by rw [between]; rfl, first, last, rearms⟩

end Runs

end SuiteTrigger
