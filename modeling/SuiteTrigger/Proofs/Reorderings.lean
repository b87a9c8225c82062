import SuiteTrigger.Proofs.Agreement
import SuiteTrigger.Proofs.Frames

/-!
# Deliveries in another order

A delivery reads and changes nothing but the issue that its payload names: what it is answered, the
methods it calls and what stands on the issue afterwards are decided by what stood there before
(`Intake.report_local`). So the deliveries on one issue run as if they were alone
(`Intake.trace_filter`), and deliveries on different issues may come in in any order
(`reordered_runs_agree`).
-/

namespace SuiteTrigger

namespace Memory

/-- What stands on an issue: its labels and its comments. -/
def standing (m : Memory) (n : Int) : LabelSet × List String := (m.labelsOf n, m.commentsOf n)

/-- Platforms `q` and `q'` were reached from `m` and `m'` by the same calls. The same methods fail
on both, and the same stands on the issue of a number, if there is a number. -/
structure Abreast (n? : Option Int) (m m' q q' : Memory) : Prop where
  standing : ∀ n ∈ n?, q.standing n = q'.standing n
  failing : q.failing = q'.failing
  calls : ∃ made, q.calls = m.calls ++ made ∧ q'.calls = m'.calls ++ made

namespace Abreast

variable {n? : Option Int} {m m' q q' : Memory}

theorem start (standing : ∀ n ∈ n?, m.standing n = m'.standing n)
    (failing : m.failing = m'.failing) : Abreast n? m m' m m' where
  standing := standing
  failing := failing
  calls := ⟨[], (List.append_nil _).symm, (List.append_nil _).symm⟩

theorem labels (abreast : Abreast n? m m' q q') {n : Int} (here : n ∈ n?) :
    q.labelsOf n = q'.labelsOf n :=
  congrArg Prod.fst (abreast.standing n here)

theorem comments (abreast : Abreast n? m m' q q') {n : Int} (here : n ∈ n?) :
    q.commentsOf n = q'.commentsOf n :=
  congrArg Prod.snd (abreast.standing n here)

theorem record (abreast : Abreast n? m m' q q') (methods : List Method) :
    Abreast n? m m' (q.record methods) (q'.record methods) where
  standing := abreast.standing
  failing := abreast.failing
  calls := by
    obtain ⟨made, reached, reached'⟩ := abreast.calls
    refine ⟨made ++ methods, ?_, ?_⟩
    · rw [Memory.record, reached, List.append_assoc]
    · rw [Memory.record, reached', List.append_assoc]

theorem setLabels (abreast : Abreast n? m m' q q') (k : Int) (s : LabelSet) :
    Abreast n? m m' (q.setLabels k s) (q'.setLabels k s) where
  standing n here := by
    unfold Memory.standing
    rw [labelsOf_setLabels, labelsOf_setLabels, commentsOf_setLabels, commentsOf_setLabels,
      abreast.labels here, abreast.comments here]
  failing := abreast.failing
  calls := abreast.calls

theorem setComments (abreast : Abreast n? m m' q q') (k : Int) (bodies : List String) :
    Abreast n? m m' (q.setComments k bodies) (q'.setComments k bodies) where
  standing n here := by
    have labels : (q.setComments k bodies).labelsOf n = (q'.setComments k bodies).labelsOf n :=
      abreast.labels here
    unfold Memory.standing
    rw [labels, commentsOf_setComments, commentsOf_setComments, abreast.comments here]
  failing := abreast.failing
  calls := abreast.calls

theorem call {α : Type} {effect : Memory → α × Memory} (method : Method)
    (effects : ∀ q q', Abreast n? m m' q q' →
      (effect q).1 = (effect q').1 ∧ Abreast n? m m' (effect q).2 (effect q').2) :
    (Memory.call method effect).Agrees (Abreast n? m m') (Memory.call method effect) := by
  refine Work.agrees_change fun q q' abreast => ?_
  have recorded := abreast.record [method]
  obtain ⟨value, after⟩ := effects _ _ recorded
  by_cases fails : method ∈ q.failing
  · have failsToo : method ∈ q'.failing := abreast.failing ▸ fails
    dsimp only
    rw [if_pos fails, if_pos failsToo]
    exact ⟨rfl, recorded⟩
  · have worksToo : method ∉ q'.failing := abreast.failing ▸ fails
    dsimp only
    rw [if_neg fails, if_neg worksToo]
    exact ⟨congrArg Except.ok value, after⟩

theorem ops_steady {issue : IssueRef} (here : issue.number ∈ n?) :
    ops.Steady (Abreast n? m m') issue where
  labels := by
    rw [ops_labels]
    refine call _ fun q q' abreast => ?_
    dsimp only
    rw [abreast.labels here]
    exact ⟨rfl, abreast⟩
  addLabels names := by
    rw [ops_addLabels]
    refine call _ fun q q' abreast => ?_
    dsimp only
    rw [abreast.labels here]
    exact ⟨rfl, abreast.setLabels _ _⟩
  removeLabel name := by
    rw [ops_removeLabel]
    refine call _ fun q q' abreast => ?_
    dsimp only
    rw [abreast.labels here]
    exact ⟨rfl, abreast.setLabels _ _⟩
  anyComment wanted := by
    rw [ops_anyComment]
    refine call _ fun q q' abreast => ?_
    dsimp only
    rw [abreast.comments here]
    exact ⟨rfl, abreast⟩
  postComment body := by
    rw [ops_postComment]
    refine call _ fun q q' abreast => ?_
    dsimp only
    rw [abreast.comments here]
    exact ⟨rfl, abreast.setComments _ _⟩

theorem connect_agrees (c : Connection) (id : Json) :
    (c.connect id).Agrees (Abreast n? m m') (c.connect id) :=
  fun q q' abreast => ⟨_, _, _, _, _, c.ends q id, c.ends q' id, abreast⟩

end Abreast

end Memory

/-- What the run of a delivery comes to, by the way it came in. -/
inductive Entry.Answer where
  | handled (outcome : Except Failure (List Action))
  | dispatched (outcome : Except Failure Unit)
  | received (outcome : Except Failure DeliveryStatus)

namespace Entry

def answer (entry : Entry) (d : Delivery) (m : Memory) : Answer :=
  match entry with
  | handled options =>
    .handled ((Pipeline.handlePayload Memory.ops options d.name d.data).on ⟨m, .empty⟩).1
  | dispatched settings options =>
    .dispatched ((Pipeline.dispatch Memory.ops settings options d.name d.data).on ⟨m, .empty⟩).1
  | received settings connection =>
    .received ((Pipeline.deliver Memory.ops settings connection.connect d).on ⟨m, .empty⟩).1

/-- Whichever way it comes in, a delivery is answered alike on platforms side by side on its issue,
and leaves them side by side. -/
theorem leaves_abreast (entry : Entry) {d : Delivery} {m m' : Memory}
    (start : Memory.Abreast d.number? m m' m m') :
    entry.answer d m = entry.answer d m' ∧
      Memory.Abreast d.number? m m' (entry.leaves d m) (entry.leaves d m') := by
  have steady (event : Event) (tells : d.TellsOf event) :
      Memory.ops.Steady (Memory.Abreast d.number? m m') event.pr.issue :=
    Memory.Abreast.ops_steady tells.number
  cases entry with
  | handled options =>
    have same := (handlePayload_agrees steady options).sameRun start .empty .empty
    exact ⟨congrArg Answer.handled same.outcome, same.platform⟩
  | dispatched settings options =>
    have same := (dispatch_agrees steady settings options).sameRun start .empty .empty
    exact ⟨congrArg Answer.dispatched same.outcome, same.platform⟩
  | received settings connection =>
    have same := (deliver_agrees steady (Memory.Abreast.connect_agrees connection)
      settings).sameRun start .empty .empty
    exact ⟨congrArg Answer.received same.outcome, same.platform⟩

end Entry

/-- What is seen of the run of one delivery: what it is answered and the methods it calls. -/
structure Report where
  answer : Entry.Answer
  calls : List Method

namespace Intake

variable {i : Intake} {m m' : Memory}

def number? (i : Intake) : Option Int := i.delivery.number?

def report (i : Intake) (m : Memory) : Report :=
  ⟨i.entry.answer i.delivery (m.withFailing i.failing), (i.run m).calls.drop m.calls.length⟩

/-- A delivery reads and changes nothing but what stands on its own issue. -/
theorem report_local (same : ∀ n ∈ i.number?, m.standing n = m'.standing n) :
    i.report m = i.report m' ∧
      ∀ n ∈ i.number?, (i.run m).standing n = (i.run m').standing n := by
  have start : Memory.Abreast i.number? (m.withFailing i.failing) (m'.withFailing i.failing)
      (m.withFailing i.failing) (m'.withFailing i.failing) := .start same rfl
  obtain ⟨answer, after⟩ := i.entry.leaves_abreast start
  obtain ⟨made, reached, reached'⟩ := after.calls
  have calls : (i.run m).calls.drop m.calls.length = (i.run m').calls.drop m'.calls.length := by
    have first : (i.run m).calls.drop m.calls.length = made := by
      rw [run, reached]
      exact List.drop_left
    have second : (i.run m').calls.drop m'.calls.length = made := by
      rw [run, reached']
      exact List.drop_left
    rw [first, second]
  refine ⟨?_, after.standing⟩
  rw [report, report, answer, calls]

theorem standing_elsewhere {n : Int} (other : i.number? ≠ some n) (m : Memory) :
    (i.run m).standing n = m.standing n := by
  obtain ⟨labels, comments⟩ := (Intake.framed_run rfl m).elsewhere n other
  exact Prod.ext labels comments

/-- Deliveries that come in one after another, each with what is seen of its run. -/
def trace : List Intake → Memory → List (Intake × Report)
  | [], _ => []
  | i :: intakes, m => (i, i.report m) :: trace intakes (i.run m)

/-- The deliveries on one issue run as if they were alone. -/
theorem trace_filter (n? : Option Int) (intakes : List Intake)
    (same : ∀ n ∈ n?, m.standing n = m'.standing n) :
    (trace intakes m).filter (·.1.number? = n?) = trace (intakes.filter (·.number? = n?)) m' ∧
      ∀ n ∈ n?, (runAll intakes m).standing n =
        (runAll (intakes.filter (·.number? = n?)) m').standing n := by
  induction intakes generalizing m m' with
  | nil => exact ⟨rfl, same⟩
  | cons i intakes ih =>
    by_cases here : i.number? = n?
    · obtain ⟨report, after⟩ := report_local (i := i) (here ▸ same)
      obtain ⟨rest, last⟩ := ih (here ▸ after)
      rw [List.filter_cons_of_pos (by simpa using here), trace, trace,
        List.filter_cons_of_pos (by simpa using here), report, rest]
      exact ⟨rfl, last⟩
    · have still (n : Int) (inside : n ∈ n?) : (i.run m).standing n = m'.standing n := by
        rw [standing_elsewhere fun named => here (named.trans inside.symm)]
        exact same n inside
      obtain ⟨rest, last⟩ := ih still
      rw [List.filter_cons_of_neg (by simpa using here), trace,
        List.filter_cons_of_neg (by simpa using here), rest]
      exact ⟨rfl, last⟩

/-- Deliveries that name no issue run alike on every platform. -/
theorem trace_unnumbered {intakes : List Intake} (none : ∀ i ∈ intakes, i.number? = none)
    (m : Memory) : trace intakes m = intakes.map fun i => (i, i.report .empty) := by
  induction intakes generalizing m with
  | nil => rfl
  | cons i intakes ih =>
    have unnamed (n : Int) (named : n ∈ i.number?) : m.standing n = Memory.empty.standing n := by
      rw [none i List.mem_cons_self] at named
      exact absurd named (Option.not_mem_none n)
    rw [trace, (report_local unnamed).1, ih fun j later => none j (List.mem_cons_of_mem i later)]
    rfl

end Intake

/-- Lists are permutations of one another when their parts with each key are. -/
theorem perm_of_perm_filter {α κ : Type} [DecidableEq κ] (key : α → κ) {first second : List α}
    (each : ∀ k, (first.filter (key · = k)).Perm (second.filter (key · = k))) :
    first.Perm second := by
  classical
  refine List.perm_iff_count.2 fun a => ?_
  have counts := List.perm_iff_count.1 (each (key a)) a
  rwa [List.count_filter (by simp), List.count_filter (by simp)] at counts

/-- Deliveries that come in in another order, but in the same order for every pull request, leave
the same labels and the same comments on every pull request. Those on one pull request run alike one
by one, and all in all every delivery is answered alike and calls the same methods. -/
theorem reordered_runs_agree {first second : List Intake} (reordered : first.Perm second)
    (same : ∀ n, first.filter (·.number? = some n) = second.filter (·.number? = some n))
    (m : Memory) :
    (∀ n, (Intake.runAll first m).labelsOf n = (Intake.runAll second m).labelsOf n ∧
      (Intake.runAll first m).commentsOf n = (Intake.runAll second m).commentsOf n) ∧
    (∀ n, (Intake.trace first m).filter (·.1.number? = some n) =
      (Intake.trace second m).filter (·.1.number? = some n)) ∧
    (Intake.trace first m).Perm (Intake.trace second m) := by
  have alike (n? : Option Int) : ∀ n ∈ n?, m.standing n = m.standing n := fun _ _ => rfl
  have alone (n? : Option Int) (intakes : List Intake) :=
    Intake.trace_filter n? intakes (alike n?)
  have traces (n : Int) : (Intake.trace first m).filter (·.1.number? = some n) =
      (Intake.trace second m).filter (·.1.number? = some n) := by
    rw [(alone (some n) first).1, (alone (some n) second).1, same]
  refine ⟨?_, traces, perm_of_perm_filter (fun t => t.1.number?) fun n? => ?_⟩
  · intro n
    have stands : (Intake.runAll first m).standing n = (Intake.runAll second m).standing n := by
      rw [(alone (some n) first).2 n rfl, (alone (some n) second).2 n rfl, same]
    exact ⟨congrArg Prod.fst stands, congrArg Prod.snd stands⟩
  · cases n? with
    | some n => rw [traces]
    | none =>
      have unnumbered (intakes : List Intake) (i : Intake)
          (inside : i ∈ intakes.filter (·.number? = none)) : i.number? = none := by
        simpa using (List.mem_filter.1 inside).2
      rw [(alone none first).1, (alone none second).1, Intake.trace_unnumbered (unnumbered first),
        Intake.trace_unnumbered (unnumbered second)]
      exact (reordered.filter _).map _

def approvalHere : Intake := ⟨.dispatched exampleListed ⟨exampleConfig, false⟩, exampleApproval, []⟩

def pushHere : Intake :=
  ⟨.received exampleListed (.denying fun _ => none), examplePrivatePush "o/b", []⟩

/-- A push to another pull request that is handled while no comment can be posted. -/
def pushElsewhere : Intake where
  entry := .handled ⟨exampleConfig, false⟩
  delivery := ⟨"pull_request", .obj [("action", .str "synchronize"),
    ("repository", .obj [("id", .int 1), ("name", .str "r"), ("url", .str "u")]),
    ("pull_request", .obj [("number", .int 8)])]⟩
  failing := [.postComment]

/-- A failed push to another pull request may as well come first. -/
theorem push_elsewhere_first :
    (Intake.runAll [pushElsewhere, approvalHere, pushHere] .empty).commentsOf 7 =
      [exampleConfig.fullTrigger, "@slab-ci cpu_fast_test"] := by
  have reordered : [approvalHere, pushElsewhere, pushHere].Perm
      [pushElsewhere, approvalHere, pushHere] := .swap _ _ _
  have same (n : Int) : [approvalHere, pushElsewhere, pushHere].filter (·.number? = some n) =
      [pushElsewhere, approvalHere, pushHere].filter (·.number? = some n) := by
    have approved : approvalHere.number? = some 7 := rfl
    by_cases here : n = 7
    · subst here
      rfl
    · have other : ¬ approvalHere.number? = some n := by
        rw [approved, Option.some.injEq]
        exact Ne.symm here
      simp [List.filter_cons, other]
  obtain ⟨contents, -, -⟩ := reordered_runs_agree reordered same .empty
  rw [← (contents 7).2]
  decide

end SuiteTrigger
