import SuiteTrigger.Proofs.CallClasses
import SuiteTrigger.Proofs.CallErrors

namespace SuiteTrigger.Remote

open Http

namespace Call

def endpoint : Call → Endpoint
  | labels | addLabels _ | removeLabel _ => .labels
  | comments | anyComment _ | postComment _ => .comments

theorem asksFor (call : Call) (issue : IssueRef) :
    AsksFor issue call.endpoint (call.url issue) := by
  cases call with
  | labels | addLabels | removeLabel => exact .labels
  | comments | anyComment | postComment => exact .comments

theorem moves_once (call : Call) (issue : IssueRef) (c : Client) (j : Journal) :
    ((call.work issue).on ⟨c, j⟩).2.journal.moves = j.moves ++ [call.move issue] := by
  rcases comes_or_raises issue call c with ⟨_, _, ends⟩ | ⟨_, _, raised, present⟩
  · exact (ends.ran j).2.2
  · exact ((raised_ends raised present).ran j).2.2

end Call

/-- The class of an address is the one that is told of it, and so a call about an issue moves the
counter of what it asks for, unless the address of the repository looks like that of a token or of
an issue, or the number is negative. -/
theorem calls_counted :
    (∀ url e, Endpoint.ofUrl url = e ↔ Endpoint.Classed url e) ∧
      ∀ (issue : IssueRef) (call : Call) (c : Client) (j : Journal), 0 ≤ issue.number →
        ¬ "access_tokens".toList <:+: issue.repoUrl.toList →
        ¬ "/issues/".toList <:+: issue.repoUrl.toList →
        ((call.work issue).on ⟨c, j⟩).2.journal.moves = j.moves ++ [.apiCall call.endpoint] := by
  refine ⟨fun url e => Endpoint.ofUrl_eq_iff, ?_⟩
  intro issue call c j positive noToken noIssue
  have classed := ofUrl_issue (call.asksFor issue) positive noToken noIssue
  rw [call.moves_once, Call.move, classed]

/-- In an address of a repository called `issues` the word stands twice, and only the second time
a number follows. -/
theorem issues_of_issues_counted :
    Endpoint.Classed "/repos/o/issues/issues/12/comments" .comments ∧
      (((Call.postComment "/test").work ⟨"/repos/o/issues", 12⟩).on
        ⟨.start none false [], .empty⟩).2.journal.moves = [.apiCall .comments] :=
  ⟨(calls_counted.1 _ _).1 (by decide),
    calls_counted.2 ⟨"/repos/o/issues", 12⟩ (.postComment "/test") (.start none false []) .empty
      (by decide) (by decide) (by decide)⟩

end SuiteTrigger.Remote
