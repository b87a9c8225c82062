import SuiteTrigger.Platform.Memory
import SuiteTrigger.Proofs.Endings

namespace SuiteTrigger.Memory

open Work

def record (m : Memory) (methods : List Method) : Memory := { m with calls := m.calls ++ methods }

@[simp] theorem labelsOf_record (m : Memory) (methods : List Method) (n : Int) :
    (m.record methods).labelsOf n = m.labelsOf n := rfl

@[simp] theorem commentsOf_record (m : Memory) (methods : List Method) (n : Int) :
    (m.record methods).commentsOf n = m.commentsOf n := rfl

@[simp] theorem failing_record (m : Memory) (methods : List Method) :
    (m.record methods).failing = m.failing := rfl

@[simp] theorem record_record (m : Memory) (first second : List Method) :
    (m.record first).record second = m.record (first ++ second) := by
  simp [record]

theorem setComments_record (m : Memory) (methods : List Method) (n : Int) (bodies : List String) :
    (m.record methods).setComments n bodies = (m.setComments n bodies).record methods := rfl

@[simp] theorem labelsOf_setLabels (m : Memory) (n k : Int) (s : LabelSet) :
    (m.setLabels n s).labelsOf k = if k = n then s else m.labelsOf k := by
  unfold labelsOf setLabels
  rw [Table.lookup_put]
  split <;> rfl

@[simp] theorem commentsOf_setLabels (m : Memory) (n k : Int) (s : LabelSet) :
    (m.setLabels n s).commentsOf k = m.commentsOf k := rfl

@[simp] theorem commentsOf_setComments (m : Memory) (n k : Int) (bodies : List String) :
    (m.setComments n bodies).commentsOf k = if k = n then bodies else m.commentsOf k := by
  unfold commentsOf setComments
  rw [Table.lookup_put]
  split <;> rfl

/-- What a platform keeps for its users: the labels and the comments of all issues. -/
def contents (m : Memory) : Table LabelSet × Table (List String) := (m.labels, m.comments)

@[simp] theorem contents_record (m : Memory) (methods : List Method) :
    (m.record methods).contents = m.contents := rfl

theorem labelsOf_eq {m m' : Memory} (same : m.contents = m'.contents) (n : Int) :
    m.labelsOf n = m'.labelsOf n := by
  have labels : m.labels = m'.labels := congrArg Prod.fst same
  rw [labelsOf, labelsOf, labels]

theorem commentsOf_eq {m m' : Memory} (same : m.contents = m'.contents) (n : Int) :
    m.commentsOf n = m'.commentsOf n := by
  have comments : m.comments = m'.comments := congrArg Prod.snd same
  rw [commentsOf, commentsOf, comments]

theorem contents_setLabels {m m' : Memory} (same : m.contents = m'.contents) (n : Int)
    (s : LabelSet) : (m.setLabels n s).contents = (m'.setLabels n s).contents := by
  have labels : m.labels = m'.labels := congrArg Prod.fst same
  have comments : m.comments = m'.comments := congrArg Prod.snd same
  rw [contents, contents, setLabels, setLabels, labels, comments]

theorem contents_setComments {m m' : Memory} (same : m.contents = m'.contents) (n : Int)
    (bodies : List String) :
    (m.setComments n bodies).contents = (m'.setComments n bodies).contents := by
  have labels : m.labels = m'.labels := congrArg Prod.fst same
  have comments : m.comments = m'.comments := congrArg Prod.snd same
  rw [contents, contents, setComments, setComments, labels, comments]

theorem ofList_labels (s : LabelSet) :
    LabelSet.ofList ((s.names.map fun name => (⟨name, none, none⟩ : Label)).map (·.name)) = s := by
  apply LabelSet.ext
  intro name
  rw [LabelSet.mem_ofList, List.map_map, LabelSet.mem_iff]
  simp

variable {α : Type}

theorem call_ends {method : Method} {m : Memory} (works : method ∉ m.failing)
    (effect : Memory → α × Memory) :
    (call method effect).Ends m
      ⟨.ok (effect (m.record [method])).1, (effect (m.record [method])).2, []⟩ :=
  ends_change (if_neg works)

theorem call_stops {method : Method} {m : Memory} (fails : method ∈ m.failing)
    (effect : Memory → α × Memory) :
    (call method effect).Ends m ⟨.error method.failure, m.record [method], []⟩ :=
  ends_change (if_pos fails)

theorem ops_labels (issue : IssueRef) : ops.labels issue = call .getLabels fun m =>
    ((m.labelsOf issue.number).names.map fun name => ⟨name, none, none⟩, m) := rfl

theorem ops_addLabels (issue : IssueRef) (names : List String) :
    ops.addLabels issue names = call .addLabels fun m =>
      ((), m.setLabels issue.number ((m.labelsOf issue.number).insertMany names)) := rfl

theorem ops_removeLabel (issue : IssueRef) (name : String) :
    ops.removeLabel issue name = call .removeLabel fun m =>
      (decide (name ∈ m.labelsOf issue.number),
        m.setLabels issue.number ((m.labelsOf issue.number).erase name)) := rfl

theorem ops_anyComment (issue : IssueRef) (wanted : Comment → Bool) :
    ops.anyComment issue wanted = call .getComments fun m =>
      ((commentsFrom 0 (m.commentsOf issue.number)).any wanted, m) := rfl

theorem ops_postComment (issue : IssueRef) (body : String) :
    ops.postComment issue body = call .postComment fun m =>
      (⟨(m.commentsOf issue.number ++ [body]).length, body, none⟩,
        m.setComments issue.number (m.commentsOf issue.number ++ [body])) := rfl

theorem readLabels_ends {m : Memory} (works : .getLabels ∉ m.failing) (pr : PullRequestRef) :
    (ops.readLabels pr).Ends m ⟨.ok (m.labelsOf pr.number), m.record [.getLabels], []⟩ := by
  rw [Platform.readLabels, ops_labels]
  refine (call_ends works _).andThen ?_
  refine (ends_log _ _ _).andThen ?_
  rw [labelsOf_record, ofList_labels]
  exact ends_pure _ _

theorem readLabels_stops {m : Memory} (fails : .getLabels ∈ m.failing) (pr : PullRequestRef) :
    (ops.readLabels pr).Ends m
      ⟨.error Method.getLabels.failure, m.record [.getLabels], []⟩ := by
  rw [Platform.readLabels, ops_labels]
  exact (call_stops fails _).stop

end SuiteTrigger.Memory
