import SuiteTrigger.Proofs.Attempts

/-!
# Deliveries at the same time

Deliveries that are handled at the same time are tasks that move in any order; one move makes one
call on the platform. A task that moves alone does what the handling of its event does
(`run_alone`). Approvals of one pull request do not keep each other from posting: every one that
reads the labels before the marker is first set posts the full trigger (`Approvals.run`).
-/

namespace SuiteTrigger

variable {σ : Type}

/-- Where the handling of an event stands. -/
inductive Task where
  | waiting (event : Event)
  | acting (pr : PullRequestRef) (applied rest : List Action)
  | ended (outcome : Except Failure (List Action))

namespace Task

/-- A task that has applied some actions of its decision. -/
def withRest (pr : PullRequestRef) (applied : List Action) : List Action → Task
  | [] => .ended (.ok applied)
  | rest => .acting pr applied rest

/-- One move of a task: it reads the labels and decides, or carries out its next action. -/
def advance (p : Platform σ) (config : TriggerConfig) : Task → Work σ Task
  | .waiting (.ignored _ kind _) => do
    Work.count (.skipped kind .action)
    return .ended (.ok [])
  | .waiting event => do
    let labels ← p.readLabels event.pr
    return withRest event.pr [] (config.actionsFor labels event)
  | .acting _ applied [] => return .ended (.ok applied)
  | .acting pr applied (action :: rest) => do
    Execution.step p pr false applied action
    return withRest pr (applied ++ [action]) rest
  | .ended outcome => return .ended outcome

/-- The task after a move that may have failed. -/
def ofOutcome : Except Failure Task → Task
  | .ok task => task
  | .error failure => .ended (.error failure)

def hasEnded : Task → Bool
  | .ended _ => true
  | _ => false

def isWaiting : Task → Bool
  | .waiting _ => true
  | _ => false

def isActing : Task → Bool
  | .acting .. => true
  | _ => false

/-- Whether a task is before the end and has applied nothing. -/
def isEarly : Task → Bool
  | .waiting _ => true
  | .acting _ [] _ => true
  | _ => false

end Task

/-- Tasks on one platform. -/
structure System where
  tasks : List Task
  platform : Memory

namespace System

open Work

def move (config : TriggerConfig) (s : System) (k : Nat) : System :=
  match s.tasks[k]? with
  | none => s
  | some task =>
    let (outcome, scene) := (task.advance Memory.ops config).on ⟨s.platform, .empty⟩
    ⟨s.tasks.set k (.ofOutcome outcome), scene.platform⟩

def run (config : TriggerConfig) (s : System) (schedule : List Nat) : System :=
  schedule.foldl (move config) s

variable {config : TriggerConfig} {s : System} {k : Nat} {task : Task}

theorem move_none (nobody : s.tasks[k]? = none) : s.move config k = s := by
  rw [move, nobody]

theorem move_some (there : s.tasks[k]? = some task) {e : Ending Memory Task}
    (ends : (task.advance Memory.ops config).Ends s.platform e) :
    s.move config k = ⟨s.tasks.set k (.ofOutcome e.outcome), e.platform⟩ := by
  obtain ⟨outcome, platform, -⟩ := ends.on_eq
  rw [move, there, ← outcome, ← platform]

theorem acting_ends (config : TriggerConfig) {m : Memory} {pr : PullRequestRef} {a : Action}
    (applied rest : List Action) (works : ¬ m.Blocks pr.number a) :
    ((Task.acting pr applied (a :: rest)).advance Memory.ops config).Ends m
      ⟨.ok (.withRest pr (applied ++ [a]) rest),
        (m.perform pr.number a).record (m.methodsFor pr.number a),
        [.action a.kind (if m.isIdle pr.number a then .noop else .applied)]⟩ :=
  (Memory.step_ends applied works).bind (ends_pure _ _)

/-- The move of a task that handles an event that is not ignored. -/
theorem waiting_eq {event : Event} (acts : ∀ pr kind action, event ≠ .ignored pr kind action) :
    (Task.waiting event).advance Memory.ops config = do
      let labels ← Memory.ops.readLabels event.pr
      return Task.withRest event.pr [] (config.actionsFor labels event) := by
  cases event with
  | codePush pr action => rfl
  | reviewSubmitted pr outcome => rfl
  | ignored pr kind action => exact absurd rfl (acts pr kind action)

/-- The move of a task that reads labels and decides on them. -/
theorem waiting_ends (config : TriggerConfig) {m : Memory} (works : Method.getLabels ∉ m.failing)
    (event : Event) (acts : ∀ pr kind action, event ≠ .ignored pr kind action) :
    ((Task.waiting event).advance Memory.ops config).Ends m
      ⟨.ok (.withRest event.pr [] (m.decided config event)), m.record [.getLabels], []⟩ := by
  rw [waiting_eq acts]
  exact (Memory.readLabels_ends works event.pr).andThen (ends_pure _ _)

theorem move_ended {outcome : Except Failure (List Action)}
    (there : s.tasks[k]? = some (.ended outcome)) : s.move config k = s := by
  have same : s.tasks.set k (.ended outcome) = s.tasks := by
    obtain ⟨inside, here⟩ := List.getElem?_eq_some_iff.1 there
    rw [← here, List.set_getElem_self inside]
  rw [move_some there (ends_pure s.platform (Task.ended outcome))]
  exact congrArg (System.mk · s.platform) same

theorem length_run (config : TriggerConfig) (s : System) (schedule : List Nat) :
    (s.run config schedule).tasks.length = s.tasks.length := by
  induction schedule generalizing s with
  | nil => rfl
  | cons k schedule ih =>
    refine (ih (s.move config k)).trans ?_
    unfold move
    split
    · rfl
    · exact List.length_set

theorem move_alone {m : Memory} {e : Ending Memory Task}
    (ends : (task.advance Memory.ops config).Ends m e) :
    move config ⟨[task], m⟩ 0 = ⟨[.ofOutcome e.outcome], e.platform⟩ :=
  move_some (s := ⟨[task], m⟩) rfl ends

/-- A task with actions to carry out does what the list of actions comes to. -/
theorem run_acting (config : TriggerConfig) (pr : PullRequestRef) (applied rest : List Action)
    (m : Memory) :
    ∃ moves, run config ⟨[.withRest pr applied rest], m⟩ (List.replicate moves 0) =
      ⟨[.ended (Memory.listEnding pr.number applied rest m).outcome],
        (Memory.listEnding pr.number applied rest m).platform⟩ := by
  induction rest generalizing applied m with
  | nil => exact ⟨0, rfl⟩
  | cons a rest ih =>
    by_cases blocked : m.Blocks pr.number a
    · obtain ⟨method, stopped⟩ := Memory.actionEnding_blocked blocked
      have stops : ((Task.acting pr applied (a :: rest)).advance Memory.ops config).Ends m _ :=
        (Memory.step_stops applied stopped).stop
      refine ⟨1, (move_alone stops).trans ?_⟩
      rw [Memory.listEnding, stopped]
      rfl
    · have moved := move_alone (acting_ends config applied rest blocked)
      obtain ⟨moves, later⟩ := ih (applied ++ [a])
        ((m.perform pr.number a).record (m.methodsFor pr.number a))
      refine ⟨moves + 1, ?_⟩
      rw [Memory.listEnding_works blocked, List.replicate_succ, run, List.foldl_cons]
      exact (congrArg (fun s => run config s (List.replicate moves 0)) moved).trans later

/-- A task whose event is not ignored does what the event comes to. -/
theorem run_waiting (config : TriggerConfig) {event : Event}
    (acts : ∀ pr kind action, event ≠ .ignored pr kind action) (m : Memory) :
    ∃ moves, run config ⟨[.waiting event], m⟩ (List.replicate moves 0) =
      ⟨[.ended (m.actEnding ⟨config, false⟩ event).outcome],
        (m.actEnding ⟨config, false⟩ event).platform⟩ := by
  rw [Memory.actEnding]
  by_cases unread : Method.getLabels ∈ m.failing
  · have stops : ((Task.waiting event).advance Memory.ops config).Ends m
        ⟨.error Method.getLabels.failure, m.record [.getLabels], []⟩ := by
      rw [waiting_eq acts]
      exact (Memory.readLabels_stops unread event.pr).stop
    rw [if_pos unread]
    exact ⟨1, move_alone stops⟩
  · obtain ⟨moves, later⟩ := run_acting config event.pr [] (m.decided config event)
      (m.record [.getLabels])
    rw [if_neg unread]
    refine ⟨moves + 1, ?_⟩
    rw [List.replicate_succ, run, List.foldl_cons,
      move_alone (waiting_ends config unread event acts)]
    exact later

/-- A task that moves alone does what the handling of its event does. -/
theorem run_alone (config : TriggerConfig) (event : Event) (m : Memory) :
    ∃ moves, run config ⟨[.waiting event], m⟩ (List.replicate moves 0) =
      ⟨[.ended ((Pipeline.handleEvent Memory.ops ⟨config, false⟩ event).on ⟨m, .empty⟩).1],
        ((Pipeline.handleEvent Memory.ops ⟨config, false⟩ event).on ⟨m, .empty⟩).2.platform⟩ := by
  obtain ⟨outcome, platform, -⟩ := (Memory.handleEvent_ends ⟨config, false⟩ event m).on_eq
  rw [outcome, platform]
  cases event with
  | codePush pr action => exact run_waiting config (by simp) m
  | reviewSubmitted pr outcome => exact run_waiting config (by simp) m
  | ignored pr kind action =>
    have skips : ((Task.waiting (.ignored pr kind action)).advance Memory.ops config).Ends m
        ⟨.ok (.ended (.ok [])), m, [.skipped kind .action]⟩ :=
      (ends_count m _).bind (ends_pure _ _)
    exact ⟨1, move_alone skips⟩

end System

/-! ## Approvals of one pull request -/

/-- How often labels were read before some were first added, by the calls that were made. -/
def earlyReads (calls : List Method) : Nat :=
  (calls.takeWhile (· ≠ .addLabels)).count .getLabels

theorem earlyReads_of_mem {calls : List Method} (added : .addLabels ∈ calls) (method : Method) :
    earlyReads (calls ++ [method]) = earlyReads calls := by
  induction calls with
  | nil => exact absurd added List.not_mem_nil
  | cons first calls ih =>
    by_cases adds : first = .addLabels
    · simp [earlyReads, adds]
    · have later : .addLabels ∈ calls := (List.mem_cons.1 added).resolve_left (Ne.symm adds)
      have same := ih later
      simp only [earlyReads, List.cons_append] at same ⊢
      rw [List.takeWhile_cons_of_pos (by simpa using adds),
        List.takeWhile_cons_of_pos (by simpa using adds), List.count_cons, List.count_cons, same]

theorem earlyReads_of_not_mem {calls : List Method} (none : .addLabels ∉ calls)
    (method : Method) :
    earlyReads (calls ++ [method]) =
      earlyReads calls + if method = .getLabels then 1 else 0 := by
  have all : ∀ x ∈ calls, decide (x ≠ Method.addLabels) = true := by
    intro x inside
    rw [decide_eq_true_eq]
    rintro rfl
    exact none inside
  have whole := @List.takeWhile_append_of_pos _ _ calls [] all
  rw [List.append_nil, List.takeWhile_nil, List.append_nil] at whole
  rw [earlyReads, earlyReads, List.takeWhile_append_of_pos all, whole, List.count_append]
  cases method <;> rfl

theorem earlyReads_of_ne (calls : List Method) (method : Method) (other : method ≠ .getLabels) :
    earlyReads (calls ++ [method]) = earlyReads calls := by
  by_cases added : .addLabels ∈ calls
  · exact earlyReads_of_mem added method
  · rw [earlyReads_of_not_mem added, if_neg other, Nat.add_zero]

theorem countP_set_of_getElem? {α : Type} (q : α → Bool) {l : List α} {k : Nat} {a : α}
    (there : l[k]? = some a) (b : α) :
    (l.set k b).countP q + (if q a then 1 else 0) = l.countP q + if q b then 1 else 0 := by
  induction l generalizing k with
  | nil => simp at there
  | cons x l ih =>
    cases k with
    | zero =>
      obtain rfl : x = a := by simpa using there
      simp only [List.set_cons_zero, List.countP_cons]
      omega
    | succ k =>
      have rest := ih (k := k) (by simpa using there)
      simp only [List.set_cons_succ, List.countP_cons]
      omega

/-- The stages of a task that handles an approval of the pull request of a number. -/
inductive Task.Approves (config : TriggerConfig) (n : Int) : Task → Prop
  | reading {pr : PullRequestRef} (same : pr.number = n) :
    Approves config n (.waiting (.reviewSubmitted pr .approved))
  | adding {pr : PullRequestRef} (same : pr.number = n) :
    Approves config n (.acting pr []
      [.addLabel config.approvedLabel, .postComment config.fullTrigger true])
  | posting {pr : PullRequestRef} (same : pr.number = n) :
    Approves config n (.acting pr [.addLabel config.approvedLabel]
      [.postComment config.fullTrigger true])
  | done (outcome : Except Failure (List Action)) : Approves config n (.ended outcome)

/-- What holds while approvals of the pull request of a number are handled at the same time, from a
platform on and after some calls. Every full trigger, posted or to come, belongs to an early read.
-/
structure Approvals (config : TriggerConfig) (n : Int) (m : Memory) (calls : List Method)
    (s : System) : Prop where
  works : s.platform.failing = []
  called : s.platform.calls = m.calls ++ calls
  tasks : ∀ t ∈ s.tasks, t.Approves config n
  early : .addLabels ∉ calls → ∀ t ∈ s.tasks, t.isEarly = true
  labels : s.platform.labelsOf n =
    if .addLabels ∈ calls then (m.labelsOf n).insert config.approvedLabel else m.labelsOf n
  posts : ∃ posted,
    s.platform.commentsOf n = m.commentsOf n ++ List.replicate posted config.fullTrigger ∧
      posted + s.tasks.countP Task.isActing = earlyReads calls
  atLeast : .addLabels ∈ calls → 1 ≤ earlyReads calls
  atMost : earlyReads calls + s.tasks.countP Task.isWaiting ≤ s.tasks.length

namespace Approvals

open Work

variable {config : TriggerConfig} {m : Memory} {calls : List Method} {s : System} {k : Nat}
  {pr : PullRequestRef}

theorem forall_set {P : Task → Prop} {tasks : List Task} (all : ∀ t ∈ tasks, P t) (k : Nat)
    {next : Task} (holds : P next) : ∀ t ∈ tasks.set k next, P t := by
  intro t inside
  rcases List.mem_or_eq_of_mem_set inside with before | rfl
  · exact all t before
  · exact holds

/-- The start: tasks that have done nothing. -/
theorem start {refs : List PullRequestRef} {n : Int} (same : ∀ pr ∈ refs, pr.number = n)
    (works : m.failing = []) :
    Approvals config n m []
      ⟨refs.map fun pr => .waiting (.reviewSubmitted pr .approved), m⟩ where
  works := works
  called := (List.append_nil _).symm
  tasks := by
    intro t inside
    obtain ⟨pr, approved, rfl⟩ := List.mem_map.1 inside
    exact .reading (same pr approved)
  early _ := by
    intro t inside
    obtain ⟨pr, -, rfl⟩ := List.mem_map.1 inside
    rfl
  labels := rfl
  posts := by
    refine ⟨0, (List.append_nil _).symm, ?_⟩
    rw [List.countP_eq_zero.2 (by simp [Task.isActing])]
    rfl
  atLeast added := absurd added List.not_mem_nil
  atMost := by
    rw [show earlyReads [] = 0 from rfl, Nat.zero_add]
    exact List.countP_le_length

/-- A read before the marker is set: the task goes on to set it and to post. -/
theorem read_unmarked (inv : Approvals config pr.number m calls s)
    (unmarked : config.approvedLabel ∉ m.labelsOf pr.number)
    (there : s.tasks[k]? = some (.waiting (.reviewSubmitted pr .approved)))
    (unset : .addLabels ∉ calls) :
    Approvals config pr.number m (calls ++ [.getLabels]) (s.move config k) := by
  have labels : s.platform.labelsOf pr.number = m.labelsOf pr.number := by
    rw [inv.labels, if_neg unset]
  have ends := System.waiting_ends config (m := s.platform) (by simp [inv.works])
    (.reviewSubmitted pr .approved) (by simp)
  rw [Memory.decided_approval, labels, if_neg unmarked] at ends
  have moved : s.move config k = ⟨s.tasks.set k (.acting pr []
      [.addLabel config.approvedLabel, .postComment config.fullTrigger true]),
      s.platform.record [.getLabels]⟩ := System.move_some there ends
  rw [moved]
  obtain ⟨posted, comments, count⟩ := inv.posts
  have acting := countP_set_of_getElem? Task.isActing there (.acting pr []
    [.addLabel config.approvedLabel, .postComment config.fullTrigger true])
  have waiting := countP_set_of_getElem? Task.isWaiting there (.acting pr []
    [.addLabel config.approvedLabel, .postComment config.fullTrigger true])
  have reads := earlyReads_of_not_mem unset .getLabels
  have atMost := inv.atMost
  simp only [Task.isActing, Task.isWaiting, if_true, Bool.false_eq_true, if_false]
    at acting waiting reads
  exact {
    works := inv.works
    called := by simp [Memory.record, inv.called]
    tasks := forall_set inv.tasks k (.adding rfl)
    early := fun _ => forall_set (inv.early unset) k rfl
    labels := by simpa [unset] using labels
    posts := ⟨posted, comments, by simp only; omega⟩
    atLeast := fun added => absurd added (by simp [unset])
    atMost := by simp only [List.length_set]; omega }

/-- A read after the marker was set: the task has nothing to do. -/
theorem read_marked (inv : Approvals config pr.number m calls s)
    (there : s.tasks[k]? = some (.waiting (.reviewSubmitted pr .approved)))
    (marked : .addLabels ∈ calls) :
    Approvals config pr.number m (calls ++ [.getLabels]) (s.move config k) := by
  have labels : s.platform.labelsOf pr.number =
      (m.labelsOf pr.number).insert config.approvedLabel := by
    rw [inv.labels, if_pos marked]
  have ends := System.waiting_ends config (m := s.platform) (by simp [inv.works])
    (.reviewSubmitted pr .approved) (by simp)
  rw [Memory.decided_approval, labels, if_pos (by simp)] at ends
  have moved : s.move config k =
      ⟨s.tasks.set k (.ended (.ok [])), s.platform.record [.getLabels]⟩ :=
    System.move_some there ends
  rw [moved]
  obtain ⟨posted, comments, count⟩ := inv.posts
  have acting := countP_set_of_getElem? Task.isActing there (.ended (.ok []))
  have waiting := countP_set_of_getElem? Task.isWaiting there (.ended (.ok []))
  have reads := earlyReads_of_mem marked .getLabels
  have atMost := inv.atMost
  simp only [Task.isActing, Task.isWaiting, if_true, Bool.false_eq_true, if_false]
    at acting waiting
  exact {
    works := inv.works
    called := by simp [Memory.record, inv.called]
    tasks := forall_set inv.tasks k (.done _)
    early := fun unset => absurd (List.mem_append_left _ marked) unset
    labels := by simpa [marked] using labels
    posts := ⟨posted, comments, by simp only; omega⟩
    atLeast := fun _ => reads ▸ inv.atLeast marked
    atMost := by simp only [List.length_set]; omega }

theorem added (inv : Approvals config pr.number m calls s)
    (there : s.tasks[k]? = some (.acting pr []
      [.addLabel config.approvedLabel, .postComment config.fullTrigger true])) :
    Approvals config pr.number m (calls ++ [.addLabels]) (s.move config k) := by
  have moved : s.move config k = ⟨s.tasks.set k (.acting pr [.addLabel config.approvedLabel]
      [.postComment config.fullTrigger true]),
      (s.platform.perform pr.number (.addLabel config.approvedLabel)).record [.addLabels]⟩ :=
    System.move_some there (System.acting_ends config _ _ (Memory.not_blocks inv.works _ _))
  rw [moved]
  obtain ⟨posted, comments, count⟩ := inv.posts
  have acting := countP_set_of_getElem? Task.isActing there (.acting pr
    [.addLabel config.approvedLabel] [.postComment config.fullTrigger true])
  have waiting := countP_set_of_getElem? Task.isWaiting there (.acting pr
    [.addLabel config.approvedLabel] [.postComment config.fullTrigger true])
  have some : 0 < s.tasks.countP Task.isActing :=
    List.countP_pos_iff.2 ⟨_, List.mem_of_getElem? there, rfl⟩
  have reads := earlyReads_of_ne calls .addLabels (by decide)
  have atMost := inv.atMost
  simp only [Task.isActing, Task.isWaiting, if_true, Bool.false_eq_true, if_false]
    at acting waiting
  exact {
    works := by simpa using inv.works
    called := by simp [Memory.record, Memory.perform, Memory.setLabels, inv.called]
    tasks := forall_set inv.tasks k (.posting rfl)
    early := fun unset => absurd (List.mem_append_right _ (List.mem_singleton.2 rfl)) unset
    labels := by
      rw [if_pos (by simp), Memory.labelsOf_record, Memory.labelsOf_addLabel, inv.labels]
      split
      · exact LabelSet.ext fun x => by simp
      · rfl
    posts := ⟨posted, comments, by simp only; omega⟩
    atLeast := fun _ => by omega
    atMost := by simp only [List.length_set]; omega }

theorem posted (inv : Approvals config pr.number m calls s)
    (there : s.tasks[k]? = some (.acting pr [.addLabel config.approvedLabel]
      [.postComment config.fullTrigger true])) :
    Approvals config pr.number m (calls ++ [.postComment]) (s.move config k) := by
  have moved : s.move config k = ⟨s.tasks.set k (.ended (.ok
      [.addLabel config.approvedLabel, .postComment config.fullTrigger true])),
      (s.platform.perform pr.number (.postComment config.fullTrigger true)).record
        [.postComment]⟩ :=
    System.move_some there (System.acting_ends config _ _ (Memory.not_blocks inv.works _ _))
  rw [moved]
  have marked : .addLabels ∈ calls := by
    refine Decidable.byContradiction fun unset => ?_
    exact absurd (inv.early unset _ (List.mem_of_getElem? there)) (by simp [Task.isEarly])
  obtain ⟨posted, comments, count⟩ := inv.posts
  have acting := countP_set_of_getElem? Task.isActing there (.ended (.ok
    [.addLabel config.approvedLabel, .postComment config.fullTrigger true]))
  have waiting := countP_set_of_getElem? Task.isWaiting there (.ended (.ok
    [.addLabel config.approvedLabel, .postComment config.fullTrigger true]))
  have reads := earlyReads_of_ne calls .postComment (by decide)
  have atMost := inv.atMost
  simp only [Task.isActing, Task.isWaiting, if_true, Bool.false_eq_true, if_false]
    at acting waiting
  exact {
    works := by simpa using inv.works
    called := by simp [Memory.record, Memory.perform, Memory.setComments, inv.called]
    tasks := forall_set inv.tasks k (.done _)
    early := fun unset => absurd (List.mem_append_left _ marked) unset
    labels := by simpa [marked] using inv.labels
    posts := by
      refine ⟨posted + 1, ?_, by simp only; omega⟩
      rw [Memory.commentsOf_record, Memory.commentsOf_postRepeated, comments, List.append_assoc,
        List.replicate_succ']
    atLeast := fun _ => reads ▸ inv.atLeast marked
    atMost := by simp only [List.length_set]; omega }

theorem move {n : Int} (inv : Approvals config n m calls s)
    (unmarked : config.approvedLabel ∉ m.labelsOf n) (k : Nat) :
    ∃ more, more.length ≤ 1 ∧ Approvals config n m (calls ++ more) (s.move config k) := by
  cases there : s.tasks[k]? with
  | none =>
    rw [System.move_none there]
    exact ⟨[], Nat.zero_le 1, by rwa [List.append_nil]⟩
  | some task =>
    cases inv.tasks task (List.mem_of_getElem? there) with
    | reading same =>
      subst same
      by_cases marked : .addLabels ∈ calls
      · exact ⟨[_], Nat.le_refl 1, inv.read_marked there marked⟩
      · exact ⟨[_], Nat.le_refl 1, inv.read_unmarked unmarked there marked⟩
    | adding same =>
      subst same
      exact ⟨[_], Nat.le_refl 1, inv.added there⟩
    | posting same =>
      subst same
      exact ⟨[_], Nat.le_refl 1, inv.posted there⟩
    | done outcome =>
      have still : s.move config k = s := System.move_ended there
      rw [still]
      exact ⟨[], Nat.zero_le 1, by rwa [List.append_nil]⟩

theorem run {n : Int} (inv : Approvals config n m calls s)
    (unmarked : config.approvedLabel ∉ m.labelsOf n) (schedule : List Nat) :
    ∃ more, Approvals config n m (calls ++ more) (s.run config schedule) := by
  induction schedule generalizing calls s with
  | nil => exact ⟨[], by rwa [List.append_nil]⟩
  | cons k schedule ih =>
    obtain ⟨first, -, moved⟩ := inv.move unmarked k
    obtain ⟨rest, done⟩ := ih moved
    exact ⟨first ++ rest, by rwa [← List.append_assoc]⟩

/-- When all tasks have ended, there was one at least, and every one that read early has posted. -/
theorem all_ended {n : Int} (inv : Approvals config n m calls s) (some : s.tasks ≠ [])
    (ended : ∀ t ∈ s.tasks, t.hasEnded = true) :
    .addLabels ∈ calls ∧ s.tasks.countP Task.isActing = 0 := by
  constructor
  · refine Decidable.byContradiction fun unset => ?_
    obtain ⟨t, inside⟩ := List.exists_mem_of_ne_nil _ some
    have early := inv.early unset t inside
    have last := ended t inside
    cases t <;> simp [Task.isEarly, Task.hasEnded] at early last
  · refine List.countP_eq_zero.2 fun t inside acting => ?_
    have last := ended t inside
    cases t <;> simp [Task.isActing, Task.hasEnded] at acting last

end Approvals

/-- Approvals of one pull request that are handled at the same time, in any order of their calls:
the marker is there in the end, and there is one more full trigger for every approval that read the
labels before the marker was first set. -/
theorem approvals_interleaved (config : TriggerConfig) (m : Memory) (n : Int)
    (refs : List PullRequestRef) (some : refs ≠ []) (same : ∀ pr ∈ refs, pr.number = n)
    (works : m.failing = []) (unmarked : config.approvedLabel ∉ m.labelsOf n)
    (schedule : List Nat) (last : System)
    (runs : System.run config ⟨refs.map fun pr => .waiting (.reviewSubmitted pr .approved), m⟩
      schedule = last)
    (ended : ∀ t ∈ last.tasks, t.hasEnded = true) :
    ∃ calls, last.platform.calls = m.calls ++ calls ∧
      last.platform.labelsOf n = (m.labelsOf n).insert config.approvedLabel ∧
      last.platform.commentsOf n =
        m.commentsOf n ++ List.replicate (earlyReads calls) config.fullTrigger ∧
      1 ≤ earlyReads calls ∧ earlyReads calls ≤ refs.length := by
  obtain ⟨calls, inv⟩ := (Approvals.start same works).run unmarked schedule
  rw [runs, List.nil_append] at inv
  have length : last.tasks.length = refs.length := by
    rw [← runs, System.length_run, List.length_map]
  have someLast : last.tasks ≠ [] := by
    rw [← List.length_pos_iff, length]
    exact List.length_pos_iff.2 some
  obtain ⟨added, none⟩ := inv.all_ended someLast ended
  obtain ⟨posted, comments, count⟩ := inv.posts
  have all : posted = earlyReads calls := by omega
  have labels := inv.labels
  have atMost := inv.atMost
  rw [if_pos added] at labels
  exact ⟨calls, inv.called, labels, all ▸ comments, inv.atLeast added, by omega⟩

/-- Two approvals, both of which read the labels before one of them sets the marker. -/
def twoEarly : System :=
  System.run exampleConfig ⟨[exampleRef, exampleRef].map fun pr =>
    .waiting (.reviewSubmitted pr .approved), .empty⟩ [1, 0, 0, 0, 1, 1]

theorem approvals_both_early :
    ∃ calls, twoEarly.platform.calls = calls ∧
      exampleConfig.approvedLabel ∈ twoEarly.platform.labelsOf 7 ∧
      twoEarly.platform.commentsOf 7 =
        List.replicate (earlyReads calls) exampleConfig.fullTrigger := by
  obtain ⟨calls, called, labels, comments, -, -⟩ := approvals_interleaved exampleConfig
    .empty 7 [exampleRef, exampleRef] (by simp) (by simp [exampleRef]) rfl
    (LabelSet.not_mem_empty _) [1, 0, 0, 0, 1, 1] twoEarly rfl (by decide +kernel)
  exact ⟨calls, called, by simp [labels], comments⟩

/-- More than one full trigger is posted for approvals that are handled at the same time. -/
theorem approvals_post_twice :
    (∀ t ∈ twoEarly.tasks, t.hasEnded = true) ∧
      ¬ (twoEarly.platform.commentsOf 7).count exampleConfig.fullTrigger ≤ 1 := by
  decide +kernel

end SuiteTrigger
