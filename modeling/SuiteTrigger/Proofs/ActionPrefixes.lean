import SuiteTrigger.Proofs.MemoryEvents

namespace SuiteTrigger.Memory

/-- The methods that a list of actions calls when none of them fails. -/
def methodsForAll (m : Memory) (n : Int) : List Action → List Method
  | [] => []
  | a :: actions => m.methodsFor n a ++ (m.perform n a).methodsForAll n actions

/-- What the counter of actions tells of an action that is performed. -/
def tally (m : Memory) (n : Int) (a : Action) : Counter :=
  .action a.kind (if m.isIdle n a then .noop else .applied)

/-- What the counter of actions tells of a list of actions that is performed in order. -/
def tallies (m : Memory) (n : Int) : List Action → List Counter
  | [] => []
  | a :: actions => m.tally n a :: (m.perform n a).tallies n actions

theorem stands_record (m : Memory) (methods : List Method) (n : Int) (body : String) :
    (m.record methods).stands n body = m.stands n body := rfl

theorem perform_record (m : Memory) (methods : List Method) (n : Int) (a : Action) :
    (m.record methods).perform n a = (m.perform n a).record methods := by
  cases a with
  | addLabel name => rfl
  | removeLabel name => rfl
  | postComment body allowRepeats =>
    rw [perform, perform, stands_record]
    split <;> rfl

theorem methodsFor_record (m : Memory) (methods : List Method) (n : Int) (a : Action) :
    (m.record methods).methodsFor n a = m.methodsFor n a := by
  cases a <;> rfl

theorem tally_record (m : Memory) (methods : List Method) (n : Int) (a : Action) :
    (m.record methods).tally n a = m.tally n a := by
  cases a <;> rfl

theorem blocks_record (m : Memory) (methods : List Method) (n : Int) (a : Action) :
    (m.record methods).Blocks n a ↔ m.Blocks n a :=
  blocks_congr (contents_record m methods) rfl n a

theorem reached_record (m : Memory) (earlier methods : List Method) :
    (m.record earlier).reached methods = m.reached methods := by
  induction methods with
  | nil => rfl
  | cons method methods ih => rw [reached, reached, failing_record, ih]

theorem performAll_record (m : Memory) (methods : List Method) (n : Int) (actions : List Action) :
    (m.record methods).performAll n actions = (m.performAll n actions).record methods := by
  induction actions generalizing m with
  | nil => rfl
  | cons a actions ih => rw [performAll_cons, perform_record, ih, performAll_cons]

theorem methodsForAll_record (m : Memory) (methods : List Method) (n : Int)
    (actions : List Action) :
    (m.record methods).methodsForAll n actions = m.methodsForAll n actions := by
  induction actions generalizing m with
  | nil => rfl
  | cons a actions ih =>
    rw [methodsForAll, methodsForAll, methodsFor_record, perform_record, ih]

theorem tallies_record (m : Memory) (methods : List Method) (n : Int) (actions : List Action) :
    (m.record methods).tallies n actions = m.tallies n actions := by
  induction actions generalizing m with
  | nil => rfl
  | cons a actions ih => rw [tallies, tallies, tally_record, perform_record, ih]

theorem allows_record (m : Memory) (methods : List Method) (n : Int) (actions : List Action) :
    (m.record methods).Allows n actions ↔ m.Allows n actions := by
  induction actions generalizing m with
  | nil => exact Iff.rfl
  | cons a actions ih => rw [Allows, Allows, blocks_record, perform_record, ih]

/-- Actions that are not stopped are performed and counted, and the others come after them. -/
theorem listEnding_allowed {m : Memory} {n : Int} {done : List Action} (allowed : m.Allows n done)
    (applied rest : List Action) :
    listEnding n applied (done ++ rest) m =
      let e := listEnding n (applied ++ done) rest
        ((m.performAll n done).record (m.methodsForAll n done))
      ⟨e.outcome, e.platform, m.tallies n done ++ e.moves⟩ := by
  induction done generalizing m applied with
  | nil =>
    have same : m.record [] = m := by simp [record]
    simp [methodsForAll, tallies, same]
  | cons a done ih =>
    obtain ⟨free, later⟩ := allowed
    have allowedNext := (allows_record _ (m.methodsFor n a) n done).2 later
    rw [List.cons_append, listEnding_works free, ih allowedNext]
    simp only [performAll_record, record_record, methodsForAll_record, tallies_record,
      performAll_cons, methodsForAll, tallies, tally, List.append_assoc, List.cons_append,
      List.nil_append]

/-- A list of actions is not stopped, or it is stopped after some first part. -/
theorem allows_or_stops (m : Memory) (n : Int) (actions : List Action) :
    m.Allows n actions ∨ ∃ done, m.StopsAfter n done actions := by
  induction actions generalizing m with
  | nil => exact .inl trivial
  | cons a actions ih =>
    by_cases blocked : m.Blocks n a
    · exact .inr ⟨[], a, actions, rfl, trivial, blocked⟩
    · rcases ih (m.perform n a) with allowed | ⟨done, b, rest, split, allowed, stopped⟩
      · exact .inl ⟨blocked, allowed⟩
      · refine .inr ⟨a :: done, b, rest, ?_, ⟨blocked, allowed⟩, stopped⟩
        rw [split, List.cons_append]

/-- A stopped action fails with the first method it calls that is set to fail. -/
theorem obstacle_of_blocks {m : Memory} {n : Int} {a : Action} (blocked : m.Blocks n a) :
    ∃ method, m.obstacle? n a = some method := by
  obtain ⟨method, called, fails⟩ := blocked
  refine Option.isSome_iff_exists.1 (List.find?_isSome.2 ⟨method, called, ?_⟩)
  simpa using fails

/-- After some calls a list of actions ends at a stopped one. -/
theorem listEnding_obstacle {m : Memory} {n : Int} {a : Action} {method : Method}
    (obstacle : m.obstacle? n a = some method) (methods : List Method)
    (applied rest : List Action) :
    listEnding n applied (a :: rest) (m.record methods) =
      ⟨.error (.actionFailed method.failure.message a applied),
        m.record (methods ++ m.reached (m.methodsFor n a)), [.action a.kind .failed]⟩ := by
  have obstacleToo : (m.record methods).obstacle? n a = some method := by
    rw [obstacle?, methodsFor_record]
    exact obstacle
  rw [listEnding, actionEnding, obstacleToo, methodsFor_record, reached_record, record_record]

/-- A list of actions is carried out up to the first that calls a method that is set to fail.

The actions `done` before it are performed in order and each is counted once, and there is nothing
else that the platform keeps or the counters tell of the list but one more count of a failure. The
failure names the action and those in `done`. Without such an action all of the list is performed
and given back. -/
theorem applied_up_to_failure (m : Memory) (pr : PullRequestRef) (actions : List Action)
    (j : Journal) :
    let n := pr.number
    let run := (Execution.apply ops pr false actions).on ⟨m, j⟩
    ∃ done rest, actions = done ++ rest ∧ m.Allows n done ∧
      match rest with
      | [] =>
        run.1 = .ok actions ∧
        run.2.platform = (m.performAll n done).record (m.methodsForAll n done) ∧
        run.2.journal.moves = j.moves ++ m.tallies n done
      | a :: _ =>
        let q := m.performAll n done
        q.Blocks n a ∧ ∃ method, q.obstacle? n a = some method ∧
          run.1 = .error (.actionFailed method.failure.message a done) ∧
          run.2.platform = q.record (m.methodsForAll n done ++ q.reached (q.methodsFor n a)) ∧
          run.2.journal.moves = j.moves ++ m.tallies n done ++ [.action a.kind .failed] := by
  intro n run
  obtain ⟨outcome, platform, moves⟩ : run.1 = (listEnding n [] actions m).outcome ∧
      run.2.platform = (listEnding n [] actions m).platform ∧
      run.2.journal.moves = j.moves ++ (listEnding n [] actions m).moves :=
    (apply_ends pr false actions m).ran j
  rcases m.allows_or_stops n actions with allowed | ⟨done, a, rest, split, allowed, blocked⟩
  · have whole := listEnding_allowed allowed [] []
    rw [List.append_nil] at whole
    rw [whole] at outcome platform moves
    refine ⟨actions, [], (List.append_nil _).symm, allowed, outcome, platform, ?_⟩
    simpa [listEnding] using moves
  · have cut := listEnding_allowed allowed [] (a :: rest)
    obtain ⟨method, obstacle⟩ := obstacle_of_blocks blocked
    rw [← split, listEnding_obstacle obstacle] at cut
    rw [cut] at outcome platform moves
    refine ⟨done, a :: rest, split, allowed, blocked, method, obstacle, outcome, platform, ?_⟩
    rw [moves, List.append_assoc]

end SuiteTrigger.Memory
