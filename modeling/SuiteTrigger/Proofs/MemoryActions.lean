import SuiteTrigger.Pipeline.Execution
import SuiteTrigger.Proofs.MemoryCalls

namespace SuiteTrigger.Memory

open Work

/-- Whether a comment with the same text, blanks at its ends aside, is on an issue. -/
def stands (m : Memory) (n : Int) (body : String) : Bool :=
  (m.commentsOf n).any fun comment => Text.strip comment = Text.strip body

/-- Whether an action finds nothing to do on an issue: the label that it takes off is not there, or
the comment that it may not repeat is. -/
def isIdle (m : Memory) (n : Int) : Action → Bool
  | .addLabel _ => false
  | .removeLabel name => name ∉ m.labelsOf n
  | .postComment body allowRepeats => !allowRepeats && m.stands n body

/-- An action on an issue as insertion, deletion or appending. -/
def perform (m : Memory) (n : Int) : Action → Memory
  | .addLabel name => m.setLabels n ((m.labelsOf n).insert name)
  | .removeLabel name => m.setLabels n ((m.labelsOf n).erase name)
  | .postComment body allowRepeats =>
    if !allowRepeats && m.stands n body then m else m.setComments n (m.commentsOf n ++ [body])

/-- The methods that an action calls when none fails. -/
def methodsFor (m : Memory) (n : Int) : Action → List Method
  | .addLabel _ => [.addLabels]
  | .removeLabel _ => [.removeLabel]
  | .postComment body allowRepeats =>
    if allowRepeats then [.postComment]
    else .getComments :: if m.stands n body then [] else [.postComment]

/-- Whether an action is stopped: it calls a method that is set to fail. -/
def Blocks (m : Memory) (n : Int) (a : Action) : Prop :=
  ∃ method ∈ m.methodsFor n a, method ∈ m.failing

theorem not_blocks {m : Memory} (none : m.failing = []) (n : Int) (a : Action) :
    ¬ m.Blocks n a := by
  rintro ⟨method, -, fails⟩
  rw [none] at fails
  exact List.not_mem_nil fails

/-- The method that stops an action: the first one it calls that is set to fail. -/
def obstacle? (m : Memory) (n : Int) (a : Action) : Option Method :=
  (m.methodsFor n a).find? (· ∈ m.failing)

/-- The calls that are made of some methods: all up to the first that is set to fail. -/
def reached (m : Memory) : List Method → List Method
  | [] => []
  | method :: methods =>
    if method ∈ m.failing then [method] else method :: reached m methods

/-- What an action on an issue comes to. -/
def actionEnding (m : Memory) (n : Int) (a : Action) : Ending Memory ActionResult :=
  match m.obstacle? n a with
  | some method => ⟨.error method.failure, m.record (m.reached (m.methodsFor n a)), []⟩
  | none =>
    ⟨.ok (if m.isIdle n a then .noop else .applied), (m.perform n a).record (m.methodsFor n a), []⟩

theorem actionEnding_works {m : Memory} {n : Int} {a : Action} (works : ¬ m.Blocks n a) :
    m.actionEnding n a = ⟨.ok (if m.isIdle n a then .noop else .applied),
      (m.perform n a).record (m.methodsFor n a), []⟩ := by
  have none : m.obstacle? n a = none := by
    rw [obstacle?, List.find?_eq_none]
    intro method called fails
    exact works ⟨method, called, by simpa using fails⟩
  rw [actionEnding, none]

theorem actionEnding_blocked {m : Memory} {n : Int} {a : Action} (blocked : m.Blocks n a) :
    ∃ method, m.actionEnding n a =
      ⟨.error (Method.failure method), m.record (m.reached (m.methodsFor n a)), []⟩ := by
  obtain ⟨method, called, fails⟩ := blocked
  have some : (m.obstacle? n a).isSome := by
    rw [obstacle?, List.find?_isSome]
    exact ⟨method, called, by simpa using fails⟩
  obtain ⟨first, found⟩ := Option.isSome_iff_exists.1 some
  exact ⟨first, by rw [actionEnding, found]⟩

theorem actionEnding_stops {m : Memory} {n : Int} {a : Action} {method : Method}
    {rest : List Method} (first : m.methodsFor n a = method :: rest) (fails : method ∈ m.failing) :
    m.actionEnding n a = ⟨.error method.failure, m.record [method], []⟩ := by
  have found : m.obstacle? n a = some method := by
    rw [obstacle?, first, List.find?_cons_of_pos (by simpa using fails)]
  rw [actionEnding, found, first, reached, if_pos fails]

theorem any_commentsFrom (start : Nat) (bodies : List String) (body : String) :
    (commentsFrom start bodies).any (Execution.sameText body) =
      bodies.any fun comment => Text.strip comment = Text.strip body := by
  induction bodies generalizing start with
  | nil => rfl
  | cons first bodies ih => rw [commentsFrom, List.any_cons, List.any_cons, ih]; rfl

theorem isRepeat_ends {m : Memory} (works : .getComments ∉ m.failing) (pr : PullRequestRef)
    (body : String) :
    (Execution.isRepeat ops pr body false).Ends m
      ⟨.ok (m.stands pr.number body), m.record [.getComments], []⟩ := by
  rw [Execution.isRepeat, if_neg Bool.false_ne_true, ops_anyComment]
  have looked := call_ends works fun m : Memory =>
    ((commentsFrom 0 (m.commentsOf pr.number)).any (Execution.sameText body), m)
  rw [commentsOf_record, any_commentsFrom] at looked
  exact looked

theorem isRepeat_stops {m : Memory} (fails : .getComments ∈ m.failing) (pr : PullRequestRef)
    (body : String) :
    (Execution.isRepeat ops pr body false).Ends m
      ⟨.error Method.getComments.failure, m.record [.getComments], []⟩ := by
  rw [Execution.isRepeat, if_neg Bool.false_ne_true, ops_anyComment]
  exact call_stops fails _

theorem post_ends {m : Memory} (works : .postComment ∉ m.failing) (pr : PullRequestRef)
    (body : String) :
    (Execution.post ops pr body).Ends m ⟨.ok .applied,
      (m.setComments pr.number (m.commentsOf pr.number ++ [body])).record [.postComment], []⟩ := by
  rw [Execution.post, ops_postComment]
  refine (call_ends works _).andThen ?_
  refine (ends_log _ _ _).andThen ?_
  exact ends_pure _ _

theorem post_stops {m : Memory} (fails : .postComment ∈ m.failing) (pr : PullRequestRef)
    (body : String) :
    (Execution.post ops pr body).Ends m
      ⟨.error Method.postComment.failure, m.record [.postComment], []⟩ := by
  rw [Execution.post, ops_postComment]
  exact (call_stops fails _).stop

/-- A comment that may not be repeated: the comments are read first, and nothing is posted over one
with the same text. -/
theorem noRepeat_ends (pr : PullRequestRef) (body : String) (m : Memory) :
    (Execution.applyOne ops pr (.postComment body false)).Ends m
      (m.actionEnding pr.number (.postComment body false)) := by
  rw [Execution.applyOne]
  by_cases unread : Method.getComments ∈ m.failing
  · rw [actionEnding_stops rfl unread]
    exact (isRepeat_stops unread pr body).stop
  · refine (isRepeat_ends unread pr body).andThen ?_
    by_cases stands : m.stands pr.number body = true
    · rw [if_pos stands, actionEnding_works (by simpa [Blocks, methodsFor, stands] using unread)]
      refine (ends_log _ _ _).andThen ?_
      simp only [isIdle, perform, methodsFor, stands, Bool.not_false, Bool.and_true, if_true]
      exact ends_pure _ _
    · rw [if_neg stands]
      by_cases fails : Method.postComment ∈ m.failing
      · have ending : m.actionEnding pr.number (.postComment body false) =
            ⟨.error Method.postComment.failure, m.record [.getComments, .postComment], []⟩ := by
          simp [actionEnding, obstacle?, methodsFor, reached, stands, unread, fails]
        rw [ending]
        have ends := post_stops (m := m.record [.getComments]) fails pr body
        rwa [record_record] at ends
      · rw [actionEnding_works (by simp [Blocks, methodsFor, stands, unread, fails])]
        simp only [isIdle, perform, methodsFor, stands, Bool.not_false, Bool.and_false,
          Bool.false_eq_true, if_false]
        have ends := post_ends (m := m.record [.getComments]) fails pr body
        rwa [setComments_record, record_record] at ends

theorem applyOne_ends (pr : PullRequestRef) (a : Action) (m : Memory) :
    (Execution.applyOne ops pr a).Ends m (m.actionEnding pr.number a) := by
  cases a with
  | addLabel name =>
    rw [Execution.applyOne, ops_addLabels]
    refine (ends_log _ _ _).andThen ?_
    by_cases fails : Method.addLabels ∈ m.failing
    · rw [actionEnding_stops rfl fails]
      exact (call_stops fails _).stop
    · rw [actionEnding_works (by simpa [Blocks, methodsFor] using fails)]
      exact (call_ends fails _).andThen (ends_pure _ _)
  | removeLabel name =>
    rw [Execution.applyOne, ops_removeLabel]
    refine (ends_log _ _ _).andThen ?_
    by_cases fails : Method.removeLabel ∈ m.failing
    · rw [actionEnding_stops rfl fails]
      exact (call_stops fails _).stop
    · rw [actionEnding_works (by simpa [Blocks, methodsFor] using fails)]
      refine (call_ends fails _).andThen ?_
      have result : (if decide (name ∈ m.labelsOf pr.number) then ActionResult.applied else .noop) =
          if m.isIdle pr.number (.removeLabel name) then .noop else .applied := by
        by_cases attached : name ∈ m.labelsOf pr.number <;> simp [isIdle, attached]
      rw [← result]
      exact ends_pure _ _
  | postComment body allowRepeats =>
    cases allowRepeats with
    | false => exact noRepeat_ends pr body m
    | true =>
      rw [Execution.applyOne]
      refine (ends_pure m false).andThen ?_
      rw [if_neg Bool.false_ne_true]
      by_cases fails : Method.postComment ∈ m.failing
      · rw [actionEnding_stops rfl fails]
        exact post_stops fails pr body
      · rw [actionEnding_works (by simpa [Blocks, methodsFor] using fails)]
        exact post_ends fails pr body

/-- What the rest of a list of actions comes to after those in `applied`. -/
def listEnding (n : Int) (applied : List Action) :
    List Action → Memory → Ending Memory (List Action)
  | [], m => ⟨.ok applied, m, []⟩
  | a :: actions, m =>
    match m.actionEnding n a with
    | ⟨.ok result, m', _⟩ =>
      let e := listEnding n (applied ++ [a]) actions m'
      ⟨e.outcome, e.platform, .action a.kind result :: e.moves⟩
    | ⟨.error failure, m', _⟩ =>
      ⟨.error (.actionFailed failure.message a applied), m', [.action a.kind .failed]⟩

theorem listEnding_works {m : Memory} {n : Int} {a : Action} (works : ¬ m.Blocks n a)
    (applied actions : List Action) :
    listEnding n applied (a :: actions) m =
      let e := listEnding n (applied ++ [a]) actions ((m.perform n a).record (m.methodsFor n a))
      ⟨e.outcome, e.platform,
        .action a.kind (if m.isIdle n a then .noop else .applied) :: e.moves⟩ := by
  rw [listEnding, actionEnding_works works]

theorem listEnding_blocked {m : Memory} {n : Int} {a : Action} (blocked : m.Blocks n a)
    (applied actions : List Action) :
    ∃ method, listEnding n applied (a :: actions) m =
      ⟨.error (.actionFailed (Method.failure method).message a applied),
        m.record (m.reached (m.methodsFor n a)), [.action a.kind .failed]⟩ := by
  obtain ⟨method, ending⟩ := actionEnding_blocked blocked
  exact ⟨method, by rw [listEnding, ending]⟩

theorem step_ends {pr : PullRequestRef} {a : Action} {m : Memory} (applied : List Action)
    (works : ¬ m.Blocks pr.number a) :
    (Execution.step ops pr false applied a).Ends m
      ⟨.ok (), (m.perform pr.number a).record (m.methodsFor pr.number a),
        [.action a.kind (if m.isIdle pr.number a then .noop else .applied)]⟩ := by
  have ends := applyOne_ends pr a m
  rw [actionEnding_works works] at ends
  rw [Execution.step, if_neg Bool.false_ne_true]
  exact ends.attempt.andThen (ends_count _ _)

theorem step_stops {pr : PullRequestRef} {a : Action} {m m' : Memory} {method : Method}
    (applied : List Action)
    (stopped : m.actionEnding pr.number a = ⟨.error method.failure, m', []⟩) :
    (Execution.step ops pr false applied a).Ends m
      ⟨.error (.actionFailed method.failure.message a applied), m', [.action a.kind .failed]⟩ := by
  have ends := applyOne_ends pr a m
  rw [stopped] at ends
  rw [Execution.step, if_neg Bool.false_ne_true]
  refine ends.attempt.andThen ?_
  refine Ends.bind (ends_count _ _) ?_
  exact (ends_log _ _ _).andThen (ends_fail _ _)

theorem applyAfter_ends (pr : PullRequestRef) (applied actions : List Action) (m : Memory) :
    (Execution.applyAfter ops pr false applied actions).Ends m
      (listEnding pr.number applied actions m) := by
  induction actions generalizing applied m with
  | nil => exact ends_pure m applied
  | cons a actions ih =>
    rw [Execution.applyAfter]
    by_cases blocked : m.Blocks pr.number a
    · obtain ⟨method, stopped⟩ := actionEnding_blocked blocked
      rw [listEnding, stopped]
      exact (step_stops applied stopped).stop
    · rw [listEnding_works blocked]
      exact (step_ends applied blocked).bind (ih (applied ++ [a]) _)

/-- A dry run leaves any platform as it is and tells all actions. -/
theorem applyAfter_dry {σ : Type} (p : Platform σ) (pr : PullRequestRef)
    (applied actions : List Action) (s : σ) :
    (Execution.applyAfter p pr true applied actions).Ends s
      ⟨.ok (applied ++ actions), s, actions.map fun a => .action a.kind .dryRun⟩ := by
  induction actions generalizing applied with
  | nil =>
    rw [List.append_nil]
    exact ends_pure s applied
  | cons a actions ih =>
    have told : (Execution.step p pr true applied a).Ends s
        ⟨.ok (), s, [.action a.kind .dryRun]⟩ := by
      rw [Execution.step, if_pos rfl]
      exact (ends_log _ _ _).andThen (ends_count _ _)
    have rest := ih (applied ++ [a])
    rw [List.append_assoc] at rest
    rw [Execution.applyAfter]
    exact told.bind rest

def performAll (m : Memory) (n : Int) (actions : List Action) : Memory :=
  actions.foldl (fun m a => m.perform n a) m

@[simp] theorem performAll_nil (m : Memory) (n : Int) : m.performAll n [] = m := rfl

@[simp] theorem performAll_cons (m : Memory) (n : Int) (a : Action) (actions : List Action) :
    m.performAll n (a :: actions) = (m.perform n a).performAll n actions := rfl

/-- Whether no action of a list is stopped when they are performed one after another. -/
def Allows (m : Memory) (n : Int) : List Action → Prop
  | [] => True
  | a :: actions => ¬ m.Blocks n a ∧ Allows (m.perform n a) n actions

/-- Of a list of actions those in `done` are performed, and the one after them is stopped. -/
def StopsAfter (m : Memory) (n : Int) (done actions : List Action) : Prop :=
  ∃ a rest, actions = done ++ a :: rest ∧ m.Allows n done ∧ (m.performAll n done).Blocks n a

@[simp] theorem labelsOf_addLabel (m : Memory) (n : Int) (name : String) :
    (m.perform n (.addLabel name)).labelsOf n = (m.labelsOf n).insert name := by
  rw [perform, labelsOf_setLabels, if_pos rfl]

@[simp] theorem commentsOf_addLabel (m : Memory) (n k : Int) (name : String) :
    (m.perform n (.addLabel name)).commentsOf k = m.commentsOf k := rfl

@[simp] theorem labelsOf_removeLabel (m : Memory) (n : Int) (name : String) :
    (m.perform n (.removeLabel name)).labelsOf n = (m.labelsOf n).erase name := by
  rw [perform, labelsOf_setLabels, if_pos rfl]

@[simp] theorem commentsOf_removeLabel (m : Memory) (n k : Int) (name : String) :
    (m.perform n (.removeLabel name)).commentsOf k = m.commentsOf k := rfl

@[simp] theorem labelsOf_postComment (m : Memory) (n k : Int) (body : String) (allow : Bool) :
    (m.perform n (.postComment body allow)).labelsOf k = m.labelsOf k := by
  rw [perform]
  split <;> rfl

@[simp] theorem commentsOf_postRepeated (m : Memory) (n : Int) (body : String) :
    (m.perform n (.postComment body true)).commentsOf n = m.commentsOf n ++ [body] := by
  rw [perform, if_neg (by simp), commentsOf_setComments, if_pos rfl]

theorem performAll_append (m : Memory) (n : Int) (first second : List Action) :
    m.performAll n (first ++ second) = (m.performAll n first).performAll n second :=
  List.foldl_append

@[simp] theorem failing_perform (m : Memory) (n : Int) (a : Action) :
    (m.perform n a).failing = m.failing := by
  cases a with
  | addLabel name => rfl
  | removeLabel name => rfl
  | postComment body allowRepeats =>
    rw [perform]
    split <;> rfl

theorem calls_perform (m : Memory) (n : Int) (a : Action) : (m.perform n a).calls = m.calls := by
  cases a with
  | addLabel name => rfl
  | removeLabel name => rfl
  | postComment body allowRepeats =>
    rw [perform]
    split <;> rfl

@[simp] theorem failing_performAll (m : Memory) (n : Int) (actions : List Action) :
    (m.performAll n actions).failing = m.failing := by
  induction actions generalizing m with
  | nil => rfl
  | cons a actions ih => exact (ih (m.perform n a)).trans (failing_perform m n a)

theorem labelsOf_perform_other {n k : Int} (other : k ≠ n) (m : Memory) (a : Action) :
    (m.perform n a).labelsOf k = m.labelsOf k := by
  cases a with
  | addLabel name => rw [perform, labelsOf_setLabels, if_neg other]
  | removeLabel name => rw [perform, labelsOf_setLabels, if_neg other]
  | postComment body allowRepeats =>
    rw [perform]
    split <;> rfl

theorem commentsOf_perform_other {n k : Int} (other : k ≠ n) (m : Memory) (a : Action) :
    (m.perform n a).commentsOf k = m.commentsOf k := by
  cases a with
  | addLabel name => rfl
  | removeLabel name => rfl
  | postComment body allowRepeats =>
    rw [perform]
    split
    · rfl
    · rw [commentsOf_setComments, if_neg other]

theorem labelsOf_performAll_other {n k : Int} (other : k ≠ n) (m : Memory)
    (actions : List Action) : (m.performAll n actions).labelsOf k = m.labelsOf k := by
  induction actions generalizing m with
  | nil => rfl
  | cons a actions ih => exact (ih (m.perform n a)).trans (labelsOf_perform_other other m a)

theorem commentsOf_performAll_other {n k : Int} (other : k ≠ n) (m : Memory)
    (actions : List Action) : (m.performAll n actions).commentsOf k = m.commentsOf k := by
  induction actions generalizing m with
  | nil => rfl
  | cons a actions ih => exact (ih (m.perform n a)).trans (commentsOf_perform_other other m a)

/-- What an action does to the contents depends on the contents only. -/
theorem contents_perform {m m' : Memory} (same : m.contents = m'.contents) (n : Int) (a : Action) :
    (m.perform n a).contents = (m'.perform n a).contents := by
  have labels := labelsOf_eq same n
  have comments := commentsOf_eq same n
  cases a with
  | addLabel name =>
    rw [perform, perform, labels]
    exact contents_setLabels same n _
  | removeLabel name =>
    rw [perform, perform, labels]
    exact contents_setLabels same n _
  | postComment body allowRepeats =>
    rw [perform, perform, stands, stands, comments]
    split
    · exact same
    · exact contents_setComments same n _

theorem contents_performAll {m m' : Memory} (same : m.contents = m'.contents) (n : Int)
    (actions : List Action) :
    (m.performAll n actions).contents = (m'.performAll n actions).contents := by
  induction actions generalizing m m' with
  | nil => exact same
  | cons a actions ih => exact ih (contents_perform same n a)

/-- An action is stopped by the contents and the methods that fail. -/
theorem blocks_congr {m m' : Memory} (same : m.contents = m'.contents)
    (fails : m.failing = m'.failing) (n : Int) (a : Action) : m.Blocks n a ↔ m'.Blocks n a := by
  have comments := commentsOf_eq same n
  have methods : m.methodsFor n a = m'.methodsFor n a := by
    cases a with
    | addLabel name => rfl
    | removeLabel name => rfl
    | postComment body allowRepeats => rw [methodsFor, methodsFor, stands, stands, comments]
  rw [Blocks, Blocks, methods, fails]

/-- The ending tells of a transient failure and leaves the contents of platform `m`. -/
structure FailsAt {α : Type} (e : Ending Memory α) (m : Memory) : Prop where
  outcome : ∃ failure, failure.isTransient = true ∧ e.outcome = .error failure
  contents : e.platform.contents = m.contents

/-- The ending tells of all the actions and leaves the contents of platform `m`. -/
structure SucceedsAt (e : Ending Memory (List Action)) (actions : List Action) (m : Memory) :
    Prop where
  outcome : e.outcome = .ok actions
  contents : e.platform.contents = m.contents

/-- A list of actions is performed as a whole, or up to the first action that is stopped. -/
theorem listEnding_cases {m m' : Memory} (same : m.contents = m'.contents)
    (fails : m.failing = m'.failing) (n : Int) (applied actions : List Action) :
    m'.Allows n actions ∧ SucceedsAt (listEnding n applied actions m) (applied ++ actions)
        (m'.performAll n actions) ∨
      ∃ done, m'.StopsAfter n done actions ∧
        FailsAt (listEnding n applied actions m) (m'.performAll n done) := by
  induction actions generalizing applied m m' with
  | nil => exact .inl ⟨trivial, by rw [List.append_nil]; rfl, same⟩
  | cons a actions ih =>
    by_cases blocked : m.Blocks n a
    · obtain ⟨method, ending⟩ := listEnding_blocked blocked applied actions
      have stops := (blocks_congr same fails n a).1 blocked
      refine .inr ⟨[], ⟨a, actions, rfl, trivial, stops⟩, ?_⟩
      rw [ending]
      exact ⟨⟨_, rfl, rfl⟩, same⟩
    · have free := (not_congr (blocks_congr same fails n a)).1 blocked
      rw [listEnding_works blocked]
      have performed : ((m.perform n a).record (m.methodsFor n a)).contents =
          (m'.perform n a).contents := contents_perform same n a
      have stillFails : ((m.perform n a).record (m.methodsFor n a)).failing =
          (m'.perform n a).failing := by
        rw [failing_record, failing_perform, failing_perform, fails]
      rcases ih performed stillFails (applied ++ [a]) with
        ⟨allowed, outcome, contents⟩ | ⟨done, ⟨b, rest, split, allowed, stopped⟩, failed⟩
      · rw [List.append_assoc] at outcome
        exact .inl ⟨⟨free, allowed⟩, outcome, contents⟩
      · refine .inr ⟨a :: done, ⟨b, rest, ?_, ⟨free, allowed⟩, stopped⟩, ?_⟩
        · rw [split, List.cons_append]
        · exact ⟨failed.outcome, failed.contents⟩

end SuiteTrigger.Memory
