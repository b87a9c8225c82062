import SuiteTrigger.Proofs.Sessions

namespace SuiteTrigger.Work

variable {σ α β : Type} {R : Scene σ → Scene σ → Prop}

/-- From scenes that `R` ties together, both runs have the same outcome and leave scenes that `R`
ties together. -/
def Lockstep (R : Scene σ → Scene σ → Prop) (work : Work σ α) : Prop :=
  ∀ s s', R s s' → (work.on s).1 = (work.on s').1 ∧ R (work.on s).2 (work.on s').2

theorem on_change (step : σ → Except Failure α × σ) (s : Scene σ) :
    (change step).on s = ((step s.platform).1, { s with platform := (step s.platform).2 }) :=
  on_ofExcept (step s.platform).1 _

theorem on_platform (next : σ → Work σ α) (s : Scene σ) :
    (platform >>= next).on s = (next s.platform).on s := rfl

theorem lockstep_ofExcept (result : Except Failure α) : (ofExcept result).Lockstep R := by
  intro s s' tied
  rw [on_ofExcept, on_ofExcept]
  exact ⟨rfl, tied⟩

theorem lockstep_change {step : σ → Except Failure α × σ}
    (steps : ∀ s s', R s s' → (step s.platform).1 = (step s'.platform).1 ∧
      R { s with platform := (step s.platform).2 } { s' with platform := (step s'.platform).2 }) :
    (change step).Lockstep R := by
  intro s s' tied
  rw [on_change, on_change]
  exact steps s s' tied

namespace Lockstep

variable {work : Work σ α} {next : α → Work σ β}

theorem bind (first : work.Lockstep R) (rest : ∀ value, (next value).Lockstep R) :
    (work >>= next).Lockstep R := by
  intro s s' tied
  obtain ⟨same, between⟩ := first s s' tied
  rw [on_bind, on_bind]
  generalize work.on s = run at same between
  generalize work.on s' = run' at same between
  obtain ⟨outcome, after⟩ := run
  obtain ⟨outcome', after'⟩ := run'
  obtain rfl : outcome = outcome' := same
  cases outcome with
  | error failure => exact ⟨rfl, between⟩
  | ok value => exact rest value after after' between

theorem attempt (lockstep : work.Lockstep R) : work.attempt.Lockstep R := by
  intro s s' tied
  obtain ⟨same, after⟩ := lockstep s s' tied
  rw [on_attempt, on_attempt]
  exact ⟨congrArg Except.ok same, after⟩

end Lockstep

/-- Lockstep passes to work made of work when the relation bears single entries, single moves and
what is told of the number of calls. -/
theorem lockstep_composes {calls : σ → Nat} (logs : ∀ level text, (log level text).Lockstep R)
    (counts : ∀ c, (count c).Lockstep R)
    (tells : ∀ level (text : Nat → String),
      (platform >>= fun s => log level (text (calls s))).Lockstep R) :
    Composes calls fun _ work => work.Lockstep R where
  ofExcept := lockstep_ofExcept
  log := logs
  count := counts
  tell := tells
  bind := Lockstep.bind
  attempt := Lockstep.attempt

end SuiteTrigger.Work
