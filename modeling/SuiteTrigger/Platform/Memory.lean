import SuiteTrigger.Platform.Basic

/-!
# A platform in memory

Labels and comments are kept by issue number; the address of the repository plays no part. Every
operation is recorded when it is called, and fails without any other effect when it is among those
that are set to fail.
-/

namespace SuiteTrigger

/-- Values by number, in the order in which the numbers came up. -/
abbrev Table (β : Type) := List (Int × β)

namespace Table

variable {β : Type}

/-- Gives a number a value, at its old place when it is there. -/
def put (n : Int) (value : β) : Table β → Table β
  | [] => [(n, value)]
  | entry :: entries =>
    if entry.1 = n then (n, value) :: entries else entry :: put n value entries

theorem lookup_cons (m : Int) (entry : Int × β) (t : Table β) :
    List.lookup m (entry :: t) = if m = entry.1 then some entry.2 else List.lookup m t := by
  rw [List.lookup_cons]
  split <;> rename_i h
  · rw [if_pos (eq_of_beq h)]
  · rw [if_neg (ne_of_beq_false h)]

@[simp] theorem lookup_put (n m : Int) (value : β) (t : Table β) :
    List.lookup m (put n value t) = if m = n then some value else List.lookup m t := by
  induction t with
  | nil => rw [put, lookup_cons]
  | cons entry entries ih =>
    rw [put]
    split
    · rename_i same
      rw [lookup_cons, lookup_cons, same]
      by_cases h : m = n
      · rw [if_pos h, if_pos h]
      · rw [if_neg h, if_neg h, if_neg h]
    · rename_i other
      rw [lookup_cons, lookup_cons, ih]
      by_cases h : m = entry.1
      · have : m ≠ n := fun e => other (h.symm.trans e)
        rw [if_pos h, if_neg this, if_pos h]
      · rw [if_neg h, if_neg h]

end Table

/-- The operations that can be recorded or set to fail. -/
inductive Method where
  | getLabels
  | addLabels
  | removeLabel
  | getComments
  | postComment
  deriving DecidableEq

namespace Method

def all : List Method := [getLabels, addLabels, removeLabel, getComments, postComment]

def name : Method → String
  | .getLabels => "get_labels"
  | .addLabels => "add_labels"
  | .removeLabel => "remove_label"
  | .getComments => "get_comments"
  | .postComment => "post_comment"

def ofName? (name : String) : Option Method := all.find? fun method => method.name = name

/-- The failure of a method that is set to fail. -/
def failure (m : Method) : Failure := .transient (m.name ++ " failed")

end Method

structure Memory where
  labels : Table LabelSet
  comments : Table (List String)
  failing : List Method
  /-- The methods called so far, in order. -/
  calls : List Method

namespace Memory

def empty : Memory := ⟨[], [], [], []⟩

/-- The labels on an issue; none on an unknown one. -/
def labelsOf (m : Memory) (n : Int) : LabelSet := (m.labels.lookup n).getD .empty

/-- The comments on an issue, oldest first. -/
def commentsOf (m : Memory) (n : Int) : List String := (m.comments.lookup n).getD []

def setLabels (m : Memory) (n : Int) (s : LabelSet) : Memory :=
  { m with labels := m.labels.put n s }

def setComments (m : Memory) (n : Int) (bodies : List String) : Memory :=
  { m with comments := m.comments.put n bodies }

/-- Comments with the numbers they have on their issue, counted from one. -/
def commentsFrom : Nat → List String → List Comment
  | _, [] => []
  | n, body :: bodies => ⟨n + 1, body, none⟩ :: commentsFrom (n + 1) bodies

/-- A method call: recorded in any case, and carried out unless it is set to fail. -/
def call {α : Type} (method : Method) (effect : Memory → α × Memory) : Work Memory α :=
  Work.change fun m =>
    let m := { m with calls := m.calls ++ [method] }
    if method ∈ m.failing then (.error method.failure, m)
    else
      let (value, m) := effect m
      (.ok value, m)

def ops : Platform Memory where
  labels issue := call .getLabels fun m =>
    ((m.labelsOf issue.number).names.map fun name => ⟨name, none, none⟩, m)
  addLabels issue names := call .addLabels fun m =>
    ((), m.setLabels issue.number ((m.labelsOf issue.number).insertMany names))
  removeLabel issue name := call .removeLabel fun m =>
    let labels := m.labelsOf issue.number
    (decide (name ∈ labels), m.setLabels issue.number (labels.erase name))
  anyComment issue wanted := call .getComments fun m =>
    ((commentsFrom 0 (m.commentsOf issue.number)).any wanted, m)
  postComment issue body := call .postComment fun m =>
    let bodies := m.commentsOf issue.number ++ [body]
    (⟨bodies.length, body, none⟩, m.setComments issue.number bodies)
  callCount m := m.calls.length

end Memory

end SuiteTrigger
