import SuiteTrigger.Work

/-!
# How work ends

What work on a platform comes to is decided by the platform: the journal is added to and never read.
The ending of some work is its outcome, the platform it leaves and the counters it moves; what it
logs is left open. `Ends` has one rule for each way to make work out of smaller work, and an ending
is unique (`Ends.unique`).
-/

namespace SuiteTrigger

/-- What some work comes to. -/
structure Ending (σ α : Type) where
  outcome : Except Failure α
  platform : σ
  moves : List Counter

/-- Whether a counter counts calls. -/
def Counter.isCall : Counter → Bool
  | .apiCall _ => true
  | _ => false

def Ending.map {σ α β : Type} (f : α → β) (e : Ending σ α) : Ending σ β :=
  ⟨e.outcome.map f, e.platform, e.moves⟩

namespace Work

variable {σ α β : Type}

theorem on_bind (work : Work σ α) (next : α → Work σ β) (scene : Scene σ) :
    (work >>= next).on scene = match work.on scene with
      | (.ok value, scene') => (next value).on scene'
      | (.error failure, scene') => (.error failure, scene') := by
  simp only [on, ExceptT.run_bind, StateT.run_bind]
  rcases work.run.run scene with ⟨_ | value, scene'⟩ <;> rfl

theorem on_attempt (work : Work σ α) (scene : Scene σ) :
    work.attempt.on scene = (.ok (work.on scene).1, (work.on scene).2) := by
  simp only [on, attempt, tryCatch, tryCatchThe, MonadExceptOf.tryCatch, ExceptT.tryCatch,
    ExceptT.run, ExceptT.mk, StateT.run, bind, StateT.bind, ExceptT.bind]
  rcases work scene with ⟨_ | value, scene'⟩ <;> rfl

theorem on_ofExcept (result : Except Failure α) (scene : Scene σ) :
    (ofExcept result : Work σ α).on scene = (result, scene) := by
  cases result <;> rfl

/-- From platform `p`, and whatever the journal holds, the work comes to `e`. -/
def Ends (work : Work σ α) (p : σ) (e : Ending σ α) : Prop :=
  ∀ j : Journal, ∃ entries, work.on ⟨p, j⟩ =
    (e.outcome, ⟨e.platform, ⟨j.moves ++ e.moves, j.entries ++ entries⟩⟩)

theorem ends_pure (p : σ) (value : α) : (pure value : Work σ α).Ends p ⟨.ok value, p, []⟩ :=
  fun j => ⟨[], by simp only [List.append_nil]; rfl⟩

theorem ends_ofExcept (p : σ) (result : Except Failure α) :
    (ofExcept result).Ends p ⟨result, p, []⟩ :=
  fun j => ⟨[], by rw [on_ofExcept, List.append_nil, List.append_nil]⟩

theorem ends_fail (p : σ) (failure : Failure) :
    (fail failure : Work σ α).Ends p ⟨.error failure, p, []⟩ :=
  ends_ofExcept p (.error failure)

theorem ends_log (p : σ) (level : Level) (text : String) :
    (log level text).Ends p ⟨.ok (), p, []⟩ :=
  fun j => ⟨[⟨level, text⟩], by rw [List.append_nil]; rfl⟩

theorem ends_count (p : σ) (c : Counter) : (count c).Ends p ⟨.ok (), p, [c]⟩ :=
  fun j => ⟨[], by rw [List.append_nil]; rfl⟩

theorem ends_platform (p : σ) : (platform : Work σ σ).Ends p ⟨.ok p, p, []⟩ :=
  fun j => ⟨[], by simp only [List.append_nil]; rfl⟩

theorem ends_change {p q : σ} {step : σ → Except Failure α × σ} {result : Except Failure α}
    (stepped : step p = (result, q)) : (change step).Ends p ⟨result, q, []⟩ := by
  intro j
  refine ⟨[], ?_⟩
  have changed : (change step).on ⟨p, j⟩ = (ofExcept (step p).1).on ⟨(step p).2, j⟩ := rfl
  rw [changed, stepped, on_ofExcept, List.append_nil, List.append_nil]

namespace Ends

variable {work : Work σ α} {next : α → Work σ β} {p q : σ} {moves : List Counter}

theorem bind {value : α} {result : Except Failure β} {r : σ} {more : List Counter}
    (first : work.Ends p ⟨.ok value, q, moves⟩) (rest : (next value).Ends q ⟨result, r, more⟩) :
    (work >>= next).Ends p ⟨result, r, moves ++ more⟩ := by
  intro j
  obtain ⟨before, firstRun⟩ := first j
  obtain ⟨after, restRun⟩ := rest ⟨j.moves ++ moves, j.entries ++ before⟩
  refine ⟨before ++ after, ?_⟩
  rw [on_bind, firstRun]
  simp only [restRun, List.append_assoc]

/-- A step that moves no counter leaves the ending to what follows. -/
theorem andThen {value : α} {e : Ending σ β} (first : work.Ends p ⟨.ok value, q, []⟩)
    (rest : (next value).Ends q e) : (work >>= next).Ends p e :=
  bind first rest

/-- A step that moves no counter at the end leaves the counters to what came before. -/
theorem onward {value : α} {result : Except Failure β} {r : σ}
    (first : work.Ends p ⟨.ok value, q, moves⟩) (rest : (next value).Ends q ⟨result, r, []⟩) :
    (work >>= next).Ends p ⟨result, r, moves⟩ := by
  have both := first.bind rest
  rwa [List.append_nil] at both

theorem stop {failure : Failure} (first : work.Ends p ⟨.error failure, q, moves⟩) :
    (work >>= next).Ends p ⟨.error failure, q, moves⟩ := by
  intro j
  obtain ⟨entries, run⟩ := first j
  exact ⟨entries, by rw [on_bind, run]⟩

/-- What only passes a value on, whatever the platform, keeps the ending of the work before it. -/
theorem report {pass : α → Work σ α} {e : Ending σ α} (ends : work.Ends p e)
    (passes : ∀ value r, (pass value).Ends r ⟨.ok value, r, []⟩) : (work >>= pass).Ends p e := by
  obtain ⟨outcome, q, moves⟩ := e
  cases outcome with
  | error failure => exact ends.stop
  | ok value => exact ends.onward (passes value q)

theorem map {e : Ending σ α} (ends : work.Ends p e) (f : α → β) :
    (work >>= fun value => pure (f value)).Ends p (e.map f) := by
  obtain ⟨outcome, q, moves⟩ := e
  cases outcome with
  | error failure => exact ends.stop
  | ok value => exact ends.onward (ends_pure q (f value))

/-- A check at the end decides the outcome. -/
theorem check {e : Ending σ α} (ends : work.Ends p e) (test : α → Except Failure β) :
    (work >>= fun value => ofExcept (test value)).Ends p
      ⟨e.outcome.bind test, e.platform, e.moves⟩ := by
  obtain ⟨outcome, q, moves⟩ := e
  cases outcome with
  | error failure => exact ends.stop
  | ok value => exact ends.onward (ends_ofExcept q (test value))

theorem attempt {e : Ending σ α} (ends : work.Ends p e) :
    work.attempt.Ends p ⟨.ok e.outcome, e.platform, e.moves⟩ := by
  intro j
  obtain ⟨entries, run⟩ := ends j
  exact ⟨entries, by rw [on_attempt, run]⟩

/-- Work ends in its ending, and its counters move behind those that moved before. -/
theorem ran {e : Ending σ α} (ends : work.Ends p e) (j : Journal) :
    (work.on ⟨p, j⟩).1 = e.outcome ∧ (work.on ⟨p, j⟩).2.platform = e.platform ∧
      (work.on ⟨p, j⟩).2.journal.moves = j.moves ++ e.moves := by
  obtain ⟨entries, run⟩ := ends j
  rw [run]
  exact ⟨rfl, rfl, rfl⟩

/-- Work that starts with an empty journal ends in its ending. -/
theorem on_eq {e : Ending σ α} (ends : work.Ends p e) :
    (work.on ⟨p, .empty⟩).1 = e.outcome ∧ (work.on ⟨p, .empty⟩).2.platform = e.platform ∧
      (work.on ⟨p, .empty⟩).2.journal.moves = e.moves :=
  ends.ran .empty

theorem unique {e e' : Ending σ α} (ends : work.Ends p e) (endsToo : work.Ends p e') : e = e' := by
  obtain ⟨outcome, platform, moves⟩ := ends.on_eq
  obtain ⟨outcome', platform', moves'⟩ := endsToo.on_eq
  cases e
  cases e'
  rw [Ending.mk.injEq]
  exact ⟨outcome.symm.trans outcome', platform.symm.trans platform', moves.symm.trans moves'⟩

end Ends

end Work

end SuiteTrigger
