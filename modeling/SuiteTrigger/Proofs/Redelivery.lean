import SuiteTrigger.Proofs.Attempts

/-!
# Redelivery

A delivery that fails transiently is sent again. A push resumes: after some first part of its
actions it asks for the rest, so that redelivery makes up for any failures (`push_resumes`,
`redelivered_of_resumes`). An approval does not: it sets the marker before it posts, and once the
marker is set it asks for nothing. When an attempt fails in between, redelivery leaves the marker
and never posts (`redeliver_approval`, `decided_withMarker`).
-/

namespace SuiteTrigger

variable {config : TriggerConfig} {d : Delivery} {event : Event}

/-- The platform after attempts at a delivery, each with its own failing methods. -/
def redeliver (config : TriggerConfig) (d : Delivery) (m : Memory) (attempts : List (List Method)) :
    Memory :=
  attempts.foldl (fun m failing => (Attempt.run config ⟨failing, d⟩ m).2) m

def AllFail (config : TriggerConfig) (d : Delivery) : Memory → List (List Method) → Prop
  | _, [] => True
  | m, failing :: attempts =>
    Attempt.Fails config ⟨failing, d⟩ m ∧
      AllFail config d (Attempt.run config ⟨failing, d⟩ m).2 attempts

instance AllFail.decidable (config : TriggerConfig) (d : Delivery) (m : Memory) :
    (attempts : List (List Method)) → Decidable (AllFail config d m attempts)
  | [] => .isTrue trivial
  | failing :: attempts =>
    have := AllFail.decidable config d (Attempt.run config ⟨failing, d⟩ m).2 attempts
    inferInstanceAs (Decidable (_ ∧ _))

/-- The platform after a delivery during which no method fails. -/
def delivered (config : TriggerConfig) (d : Delivery) (m : Memory) : Memory :=
  (Attempt.run config ⟨[], d⟩ m).2

theorem delivered_contents (config : TriggerConfig) (tells : d.TellsOf event) (m : Memory) :
    (delivered config d m).contents =
      (m.performAll event.pr.number (m.decided config event)).contents :=
  (Attempt.run_succeeds (a := ⟨[], d⟩) config rfl tells m).2

/-- After some first part of the actions that an event asks for, it asks for the rest. -/
def Resumes (config : TriggerConfig) (event : Event) (m : Memory) : Prop :=
  ∀ done b rest, m.decided config event = done ++ b :: rest →
    (m.performAll event.pr.number done).decided config event = b :: rest

/-- On platform `q`, some first part is done of what an event asked for on platform `m`, and it asks
for the rest. -/
def PartWay (config : TriggerConfig) (event : Event) (m q : Memory) : Prop :=
  ∃ done rest, m.decided config event = done ++ rest ∧
    q.contents = (m.performAll event.pr.number done).contents ∧ q.decided config event = rest

namespace PartWay

variable {m q : Memory}

theorem start (m : Memory) : PartWay config event m m := ⟨[], _, rfl, rfl, rfl⟩

/-- An attempt that fails leaves a resuming event on its way. -/
theorem step (resumes : Resumes config event m) (tells : d.TellsOf event)
    (way : PartWay config event m q) {failing : List Method}
    (fails : Attempt.Fails config ⟨failing, d⟩ q) :
    PartWay config event m (Attempt.run config ⟨failing, d⟩ q).2 := by
  obtain ⟨done, rest, asked, same, asks⟩ := way
  rcases Attempt.fails_cases (a := ⟨failing, d⟩) tells fails with
    ⟨-, kept⟩ | ⟨-, more, ⟨b, later, split, -, -⟩, reached⟩
  · exact ⟨done, rest, asked, kept.trans same, (Memory.decided_congr kept config event).trans asks⟩
  -- What this attempt did goes on where the earlier ones stopped.
  · have parts : m.decided config event = (done ++ more) ++ b :: later := by
      rw [asked, ← asks, split, List.append_assoc]
    have contents : (Attempt.run config ⟨failing, d⟩ q).2.contents =
        (m.performAll event.pr.number (done ++ more)).contents := by
      rw [reached, Memory.performAll_append]
      exact Memory.contents_performAll same _ _
    refine ⟨done ++ more, b :: later, parts, contents, ?_⟩
    rw [Memory.decided_congr contents]
    exact resumes _ _ _ parts

theorem after_attempts (resumes : Resumes config event m) (tells : d.TellsOf event)
    (way : PartWay config event m q) {attempts : List (List Method)}
    (fail : AllFail config d q attempts) :
    PartWay config event m (redeliver config d q attempts) := by
  induction attempts generalizing q with
  | nil => exact way
  | cons failing attempts ih =>
    obtain ⟨first, others⟩ := fail
    exact ih (step resumes tells way first) others

/-- A delivery on its way comes to what it comes to from the start. -/
theorem after_delivery (tells : d.TellsOf event) (way : PartWay config event m q) :
    (delivered config d q).contents = (delivered config d m).contents := by
  obtain ⟨done, rest, asked, same, asks⟩ := way
  rw [delivered_contents config tells, delivered_contents config tells, asks, asked,
    Memory.performAll_append]
  exact Memory.contents_performAll same _ _

end PartWay

/-- Redelivery makes up for the failures of an event that resumes. -/
theorem redelivered_of_resumes {m : Memory} (resumes : Resumes config event m)
    (tells : d.TellsOf event) {attempts : List (List Method)} (fail : AllFail config d m attempts) :
    (delivered config d (redeliver config d m attempts)).contents =
      (delivered config d m).contents :=
  ((PartWay.start m).after_attempts resumes tells fail).after_delivery tells

theorem push_resumes (config : TriggerConfig) (pr : PullRequestRef) (action : String)
    (m : Memory) : Resumes config (.codePush pr action) m := by
  intro done b rest split
  cases done with
  | nil => exact split
  | cons first done =>
    rw [Memory.decided_push] at split
    by_cases marked : config.approvedLabel ∈ m.labelsOf pr.number
    · rw [if_pos marked] at split
      obtain ⟨rfl, left⟩ := List.cons.inj split
      rcases List.append_eq_singleton_iff.1 left.symm with ⟨rfl, same⟩ | ⟨-, impossible⟩
      · rw [Memory.decided_push, if_neg (by simp [Event.pr]), same]
        rfl
      · nomatch impossible
    · rw [if_neg marked] at split
      obtain ⟨-, impossible⟩ := List.cons.inj split
      simp at impossible

theorem delivered_push (config : TriggerConfig) {pr : PullRequestRef} {action : String}
    (tells : d.TellsOf (.codePush pr action)) (m : Memory) :
    (delivered config d m).labelsOf pr.number =
        (m.labelsOf pr.number).erase config.approvedLabel ∧
      (delivered config d m).commentsOf pr.number =
        m.commentsOf pr.number ++ [config.fastTrigger] := by
  have contents := delivered_contents config tells m
  rw [Memory.labelsOf_eq contents, Memory.commentsOf_eq contents, Memory.decided_push]
  by_cases marked : config.approvedLabel ∈ m.labelsOf pr.number
  · rw [if_pos marked]
    simp [Event.pr]
  · rw [if_neg marked, LabelSet.erase_of_not_mem marked]
    simp [Event.pr]

theorem delivered_other (tells : d.TellsOf event) (m : Memory) {k : Int}
    (other : k ≠ event.pr.number) :
    (delivered config d m).labelsOf k = m.labelsOf k ∧
      (delivered config d m).commentsOf k = m.commentsOf k := by
  have contents := delivered_contents config tells m
  constructor
  · rw [Memory.labelsOf_eq contents]
    exact Memory.labelsOf_performAll_other other m _
  · rw [Memory.commentsOf_eq contents]
    exact Memory.commentsOf_performAll_other other m _

/-- However often and wherever attempts at a push fail, a delivery after them leaves what a single
one would have left: its pull request without the marker and with one more fast trigger, and all
others as they were. -/
theorem push_redelivered (config : TriggerConfig) (m : Memory) (d : Delivery)
    (pr : PullRequestRef) (action : String) (tells : d.TellsOf (.codePush pr action))
    (attempts : List (List Method)) (fail : AllFail config d m attempts) :
    (delivered config d (redeliver config d m attempts)).contents =
        (delivered config d m).contents ∧
      (delivered config d (redeliver config d m attempts)).labelsOf pr.number =
        (m.labelsOf pr.number).erase config.approvedLabel ∧
      (delivered config d (redeliver config d m attempts)).commentsOf pr.number =
        m.commentsOf pr.number ++ [config.fastTrigger] ∧
      ∀ k ≠ pr.number,
        (delivered config d (redeliver config d m attempts)).labelsOf k = m.labelsOf k ∧
        (delivered config d (redeliver config d m attempts)).commentsOf k = m.commentsOf k := by
  have same := redelivered_of_resumes (push_resumes config pr action m) tells fail
  obtain ⟨labels, comments⟩ := delivered_push config tells m
  refine ⟨same, ?_, ?_, ?_⟩
  · rw [Memory.labelsOf_eq same, labels]
  · rw [Memory.commentsOf_eq same, comments]
  · intro k other
    rw [Memory.labelsOf_eq same, Memory.commentsOf_eq same]
    exact delivered_other tells m other

/-- Attempts that stop at the labels, at the removal and at the comment, in turn. -/
theorem push_redelivered_thrice :
    let m : Memory := ⟨[(7, .ofList ["approved", "bug"])], [], [], []⟩
    let attempts : List (List Method) := [[.getLabels], [.removeLabel], [.postComment]]
    AllFail exampleConfig examplePush m attempts ∧
      (delivered exampleConfig examplePush
        (redeliver exampleConfig examplePush m attempts)).commentsOf 7 =
          [exampleConfig.fastTrigger] := by
  intro m attempts
  have fail : AllFail exampleConfig examplePush ⟨[(7, .ofList ["approved", "bug"])], [], [], []⟩
      [[.getLabels], [.removeLabel], [.postComment]] := by decide +kernel
  exact ⟨fail, (push_redelivered exampleConfig m examplePush exampleRef "synchronize"
    examplePush_tells attempts fail).2.2.1⟩

section Approvals

variable {pr : PullRequestRef} {m q : Memory} {failing : List Method}

/-- The platform with the marker set, as it is between the two actions of an approval. -/
def withMarker (config : TriggerConfig) (pr : PullRequestRef) (m : Memory) : Memory :=
  m.perform pr.number (.addLabel config.approvedLabel)

/-- An attempt fails before an approval has done anything: the labels are not read, or the marker
is not set. -/
def FailsEarly (failing : List Method) : Prop := .getLabels ∈ failing ∨ .addLabels ∈ failing

theorem decided_unmarked (unmarked : config.approvedLabel ∉ m.labelsOf pr.number)
    (same : q.contents = m.contents) :
    q.decided config (.reviewSubmitted pr .approved) =
      [.addLabel config.approvedLabel, .postComment config.fullTrigger true] := by
  rw [Memory.decided_congr same, Memory.decided_approval, if_neg unmarked]

theorem decided_withMarker (same : q.contents = (withMarker config pr m).contents) :
    q.decided config (.reviewSubmitted pr .approved) = [] := by
  rw [Memory.decided_congr same, Memory.decided_approval, if_pos (by simp [withMarker])]

/-- A failing attempt at an approval does nothing when it fails early; else it sets the marker and
does not post. -/
theorem approval_fails (unmarked : config.approvedLabel ∉ m.labelsOf pr.number)
    (tells : d.TellsOf (.reviewSubmitted pr .approved)) (same : q.contents = m.contents)
    (fails : Attempt.Fails config ⟨failing, d⟩ q) :
    FailsEarly failing ∧ (Attempt.run config ⟨failing, d⟩ q).2.contents = m.contents ∨
      ¬ FailsEarly failing ∧
        (Attempt.run config ⟨failing, d⟩ q).2.contents = (withMarker config pr m).contents := by
  rcases Attempt.fails_cases (a := ⟨failing, d⟩) tells fails with
    ⟨unread, kept⟩ | ⟨read, done, ⟨b, rest, split, allowed, blocked⟩, reached⟩
  · exact .inl ⟨.inl unread, kept.trans same⟩
  rw [decided_unmarked unmarked same] at split
  cases done with
  | nil =>
    obtain ⟨rfl, -⟩ := List.cons.inj split
    obtain ⟨method, called, set⟩ := blocked
    rw [List.mem_singleton.1 called] at set
    exact .inl ⟨.inr set, reached.trans same⟩
  | cons first done =>
    obtain ⟨rfl, left⟩ := List.cons.inj split
    rcases List.append_eq_singleton_iff.1 left.symm with ⟨rfl, -⟩ | ⟨-, impossible⟩
    -- The marker is set and the comment fails: what is done of the approval stays done.
    · have free : ¬ FailsEarly failing := by
        rintro (unread | unset)
        · exact read unread
        · exact allowed.1 ⟨.addLabels, List.mem_singleton_self _, unset⟩
      exact .inr ⟨free, reached.trans (Memory.contents_performAll same _ _)⟩
    · nomatch impossible

/-- Once the marker is set, failing attempts at an approval do nothing. -/
theorem approval_fails_withMarker (tells : d.TellsOf (.reviewSubmitted pr .approved))
    (same : q.contents = (withMarker config pr m).contents)
    (fails : Attempt.Fails config ⟨failing, d⟩ q) :
    (Attempt.run config ⟨failing, d⟩ q).2.contents = (withMarker config pr m).contents := by
  rcases Attempt.fails_cases (a := ⟨failing, d⟩) tells fails with
    ⟨-, kept⟩ | ⟨-, done, ⟨b, rest, split, -, -⟩, -⟩
  · exact kept.trans same
  · rw [decided_withMarker same] at split
    simp at split

theorem redeliver_withMarker (tells : d.TellsOf (.reviewSubmitted pr .approved))
    (same : q.contents = (withMarker config pr m).contents) {attempts : List (List Method)}
    (fail : AllFail config d q attempts) :
    (redeliver config d q attempts).contents = (withMarker config pr m).contents := by
  induction attempts generalizing q with
  | nil => exact same
  | cons failing attempts ih => exact ih (approval_fails_withMarker tells same fail.1) fail.2

/-- Failing attempts at an approval leave the platform as it was when all of them fail early, and
else with the marker set. -/
theorem redeliver_approval (unmarked : config.approvedLabel ∉ m.labelsOf pr.number)
    (tells : d.TellsOf (.reviewSubmitted pr .approved)) (same : q.contents = m.contents)
    {attempts : List (List Method)} (fail : AllFail config d q attempts) :
    (∀ failing ∈ attempts, FailsEarly failing) ∧
        (redeliver config d q attempts).contents = m.contents ∨
      ¬ (∀ failing ∈ attempts, FailsEarly failing) ∧
        (redeliver config d q attempts).contents = (withMarker config pr m).contents := by
  induction attempts generalizing q with
  | nil => exact .inl ⟨fun _ inside => absurd inside List.not_mem_nil, same⟩
  | cons failing attempts ih =>
    obtain ⟨first, others⟩ := fail
    rcases approval_fails unmarked tells same first with ⟨early, kept⟩ | ⟨late, reached⟩
    · rcases ih kept others with ⟨allEarly, kept⟩ | ⟨someLate, reached⟩
      · exact .inl ⟨List.forall_mem_cons.2 ⟨early, allEarly⟩, kept⟩
      · exact .inr ⟨fun all => someLate (List.forall_mem_cons.1 all).2, reached⟩
    · exact .inr ⟨fun all => late (List.forall_mem_cons.1 all).1,
        redeliver_withMarker tells reached others⟩

theorem delivered_approval (unmarked : config.approvedLabel ∉ m.labelsOf pr.number)
    (tells : d.TellsOf (.reviewSubmitted pr .approved)) :
    (delivered config d m).labelsOf pr.number =
        (m.labelsOf pr.number).insert config.approvedLabel ∧
      (delivered config d m).commentsOf pr.number =
        m.commentsOf pr.number ++ [config.fullTrigger] := by
  have contents := delivered_contents config tells m
  rw [decided_unmarked unmarked rfl] at contents
  rw [Memory.labelsOf_eq contents, Memory.commentsOf_eq contents]
  simp [Event.pr]

end Approvals

/-- A delivery of an approval after failing attempts leaves what a single delivery would have left,
the marker and one full trigger, exactly when every attempt failed early. When one failed between
the marker and the trigger, the delivery succeeds without doing anything: the marker is set, and no
trigger was posted. -/
theorem approval_redelivered (config : TriggerConfig) (m : Memory) (d : Delivery)
    (pr : PullRequestRef) (tells : d.TellsOf (.reviewSubmitted pr .approved))
    (unmarked : config.approvedLabel ∉ m.labelsOf pr.number)
    (attempts : List (List Method)) (fail : AllFail config d m attempts) :
    ((delivered config d m).labelsOf pr.number =
        (m.labelsOf pr.number).insert config.approvedLabel ∧
      (delivered config d m).commentsOf pr.number =
        m.commentsOf pr.number ++ [config.fullTrigger]) ∧
    ((delivered config d (redeliver config d m attempts)).contents =
        (delivered config d m).contents ↔ ∀ failing ∈ attempts, FailsEarly failing) ∧
    (¬ (∀ failing ∈ attempts, FailsEarly failing) →
      (Attempt.run config ⟨[], d⟩ (redeliver config d m attempts)).1 = .ok [] ∧
      (delivered config d (redeliver config d m attempts)).labelsOf pr.number =
        (m.labelsOf pr.number).insert config.approvedLabel ∧
      (delivered config d (redeliver config d m attempts)).commentsOf pr.number =
        m.commentsOf pr.number) := by
  obtain ⟨labels, comments⟩ := delivered_approval unmarked tells
  refine ⟨⟨labels, comments⟩, ?_⟩
  rcases redeliver_approval unmarked tells rfl fail with ⟨allEarly, kept⟩ | ⟨someLate, reached⟩
  · refine ⟨iff_of_true ?_ allEarly, fun late => absurd allEarly late⟩
    rw [delivered_contents config tells, delivered_contents config tells, Memory.decided_congr kept]
    exact Memory.contents_performAll kept _ _
  · obtain ⟨outcome, final⟩ := Attempt.run_succeeds (a := ⟨[], d⟩) config rfl tells
      (redeliver config d m attempts)
    rw [decided_withMarker reached] at outcome final
    have contents : (delivered config d (redeliver config d m attempts)).contents =
        (withMarker config pr m).contents := final.trans reached
    have finalComments : (delivered config d (redeliver config d m attempts)).commentsOf pr.number =
        m.commentsOf pr.number := Memory.commentsOf_eq contents _
    refine ⟨iff_of_false ?_ someLate, fun _ => ⟨outcome, ?_, finalComments⟩⟩
    · intro same
      have none := (Memory.commentsOf_eq same pr.number).symm.trans finalComments
      rw [comments] at none
      simp at none
    · rw [Memory.labelsOf_eq contents]
      simp [withMarker]

/-- An attempt that fails at the comment, on an empty platform. -/
theorem approval_redelivered_late :
    AllFail exampleConfig exampleApproval .empty [[.postComment]] ∧
      (delivered exampleConfig exampleApproval
        (redeliver exampleConfig exampleApproval .empty [[.postComment]])).commentsOf 7 = [] := by
  have fail : AllFail exampleConfig exampleApproval .empty [[.postComment]] := by decide +kernel
  obtain ⟨-, -, late⟩ := approval_redelivered exampleConfig .empty exampleApproval exampleRef
    exampleApproval_tells (LabelSet.not_mem_empty _) [[.postComment]] fail
  obtain ⟨-, -, comments⟩ := late (by simp [FailsEarly])
  exact ⟨fail, comments⟩

/-- Redelivery does not make up for every failure of an approval. -/
theorem approval_not_made_good :
    ¬ ∀ (config : TriggerConfig) (m : Memory) (d : Delivery) (pr : PullRequestRef),
      d.TellsOf (.reviewSubmitted pr .approved) → config.approvedLabel ∉ m.labelsOf pr.number →
      ∀ attempts, AllFail config d m attempts →
        (delivered config d (redeliver config d m attempts)).contents =
          (delivered config d m).contents := by
  intro always
  have same := always exampleConfig .empty exampleApproval exampleRef exampleApproval_tells
    (LabelSet.not_mem_empty _) [[.postComment]] (by decide +kernel)
  have comments := Memory.commentsOf_eq same 7
  exact absurd comments (by decide +kernel)

end SuiteTrigger
