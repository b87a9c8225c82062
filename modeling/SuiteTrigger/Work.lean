import SuiteTrigger.Failure
import SuiteTrigger.Log
import SuiteTrigger.Metrics

/-!
# Work on a platform

A step of work changes the state of a platform, moves counters and writes log entries. It may fail;
what it did before the failure stays done.
-/

namespace SuiteTrigger

/-- What a run counted and logged, in order. -/
structure Journal where
  moves : List Counter
  entries : List LogEntry
  deriving DecidableEq

namespace Journal

def empty : Journal := ⟨[], []⟩

instance : Inhabited Journal := ⟨empty⟩

def count (j : Journal) (c : Counter) : Nat := j.moves.count c

end Journal

/-- A platform and the journal of the work done on it. -/
structure Scene (σ : Type) where
  platform : σ
  journal : Journal

/-- Work that gives an `α` or fails, and changes the scene in both cases. -/
abbrev Work (σ α : Type) := ExceptT Failure (StateM (Scene σ)) α

namespace Work

variable {σ α β : Type}

/-- The outcome of some work and the scene it leaves. -/
def on (work : Work σ α) (scene : Scene σ) : Except Failure α × Scene σ := work.run.run scene

def fail (failure : Failure) : Work σ α := throw failure

def ofExcept : Except Failure α → Work σ α
  | .ok value => pure value
  | .error failure => fail failure

def log (level : Level) (text : String) : Work σ Unit :=
  modify fun scene =>
    { scene with journal.entries := scene.journal.entries ++ [⟨level, text⟩] }

def count (c : Counter) : Work σ Unit :=
  modify fun scene => { scene with journal.moves := scene.journal.moves ++ [c] }

def platform : Work σ σ := do return (← get).platform

/-- A change of the platform, with what it gives. -/
def change (step : σ → Except Failure α × σ) : Work σ α := do
  let scene ← get
  let (outcome, platform) := step scene.platform
  set { scene with platform }
  ofExcept outcome

/-- Work whose failure is an outcome. -/
def attempt (work : Work σ α) : Work σ (Except Failure α) :=
  tryCatch (do return .ok (← work)) fun failure => pure (.error failure)

end Work

end SuiteTrigger
