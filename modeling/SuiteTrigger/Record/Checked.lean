import SuiteTrigger.Record.Problem

namespace SuiteTrigger

/-- A value, or all that is wrong with it in reading order. -/
inductive Checked (α : Type) where
  | good (value : α)
  | bad (problems : List Problem)

namespace Checked

variable {α β : Type}

def fault (fault : Fault) : Checked α := .bad [⟨[], fault⟩]

def problems : Checked α → List Problem
  | good _ => []
  | bad problems => problems

def value? : Checked α → Option α
  | good value => some value
  | bad _ => none

def map (f : α → β) : Checked α → Checked β
  | good value => .good (f value)
  | bad problems => .bad problems

/-- Both checks side by side. -/
def seq : Checked (α → β) → Checked α → Checked β
  | good f, good value => .good (f value)
  | good _, bad problems => .bad problems
  | bad problems, good _ => .bad problems
  | bad first, bad second => .bad (first ++ second)

instance : Applicative Checked where
  pure := .good
  seq f x := seq f (x ())

/-- A further check of a good value. -/
def andThen : Checked α → (α → Checked β) → Checked β
  | good value, next => next value
  | bad problems, _ => .bad problems

/-- The same check with every problem one step further down. -/
def under (place : Place) : Checked α → Checked α
  | good value => .good value
  | bad problems => .bad (problems.map fun p => { p with place := place :: p.place })

/-- Checks every item of a list, counting places from `start`. -/
def itemsFrom (check : β → Checked α) : Nat → List β → Checked (List α)
  | _, [] => .good []
  | start, item :: items =>
    List.cons <$> (check item).under (.item start) <*> itemsFrom check (start + 1) items

@[simp] theorem problems_good (value : α) : (good value).problems = [] := rfl

@[simp] theorem problems_seq (f : Checked (α → β)) (x : Checked α) :
    (f <*> x).problems = f.problems ++ x.problems := by
  cases f <;> cases x <;> simp [Seq.seq, seq, problems]

/-- The result of a record's check under the record's name. -/
def toExcept (record : String) : Checked α → Except Refusal α
  | good value => .ok value
  | bad problems => .error ⟨record, problems⟩

end Checked

end SuiteTrigger
