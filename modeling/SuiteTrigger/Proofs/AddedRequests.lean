import SuiteTrigger.Proofs.DeliveryAnswers
import SuiteTrigger.Proofs.Revalidation

namespace SuiteTrigger

open Http

namespace Work

variable {α β : Type} {c d : Client} {sent : List Request} {moves : List Counter}

/-- From client `c`, and whatever the journal holds, the requests come to begin with these. -/
def Reaches (work : Work Client α) (c : Client) (sent : List Request) : Prop :=
  ∀ j, sent <+: (work.on ⟨c, j⟩).2.platform.requests

def Appends (work : Work Client α) : Prop :=
  ∀ c, work.Reaches c c.requests

theorem Reaches.stays {work : Work Client α} {next : α → Work Client β}
    (first : work.Reaches c sent) (rest : ∀ value, (next value).Appends) :
    (work >>= next).Reaches c sent := by
  intro j
  rw [on_bind]
  have begins := first j
  cases ran : work.on ⟨c, j⟩ with
  | mk outcome scene =>
    rw [ran] at begins
    cases outcome with
    | error failure => exact begins
    | ok value => exact begins.trans (rest value scene.platform scene.journal)

theorem Reaches.after {work : Work Client α} {next : α → Work Client β} {value : α}
    (first : work.Ends c ⟨.ok value, d, moves⟩) (rest : (next value).Reaches d sent) :
    (work >>= next).Reaches c sent := by
  intro j
  obtain ⟨entries, ran⟩ := first j
  rw [on_bind, ran]
  exact rest _

theorem Reaches.attempt {work : Work Client α} (reaches : work.Reaches c sent) :
    work.attempt.Reaches c sent := by
  intro j
  rw [on_attempt]
  exact reaches j

theorem Ends.reaches {work : Work Client α} {e : Ending Client α} (ends : work.Ends c e) :
    work.Reaches c e.platform.requests := by
  intro j
  exact ⟨[], by rw [List.append_nil, (ends.ran j).2.1]⟩

theorem appends_change {step : Client → Except Failure α × Client}
    (begins : ∀ c, c.requests <+: (step c).2.requests) : (change step).Appends := by
  intro c j
  have ran : (change step).on ⟨c, j⟩ = (ofExcept (step c).1).on ⟨(step c).2, j⟩ := rfl
  rw [ran, on_ofExcept]
  exact begins c

theorem appends_run {call : String} {step : Client → Except CallError α × Client}
    (begins : ∀ c, c.requests <+: (step c).2.requests) : (Remote.run call step).Appends :=
  appends_change begins

theorem appends_composes : Composes Client.callCount fun _ work => Appends work where
  ofExcept result c := (ends_ofExcept c result).reaches
  log level text c := (ends_log c level text).reaches
  count counter c := (ends_count c counter).reaches
  tell _ _ _ _ := List.prefix_rfl
  bind first rest c := (first c).stays rest
  attempt holds c := (holds c).attempt

end Work

namespace Http.Client

theorem send_prefix (c : Client) (r : Request) : c.requests <+: (c.send r).2.requests := by
  rw [(send_leads c r).requests]
  exact List.prefix_append _ _

theorem call_prefix (c : Client) (verb : Verb) (values : Template.Values) (reference : String)
    (authorization : Option Authorization) (body : Option Json) :
    c.requests <+: (c.call verb values reference authorization body).2.requests := by
  unfold call
  cases target values reference with
  | error f => exact List.prefix_rfl
  | ok url => exact send_prefix c _

end Http.Client

/-- All work over HTTP only adds to the requests that were sent. -/
theorem Remote.upholds_appends : Remote.Upholds fun _ work => Work.Appends work where
  toComposes := Work.appends_composes
  counts _ _ _ := List.prefix_rfl
  scans call visit reference state := by
    refine Work.appends_run fun c => ?_
    obtain ⟨sent, requests, -⟩ := TaggedServer.scan_draws visit reference state c
    exact ⟨sent, requests.symm⟩
  changes call verb values reference body told other :=
    Work.appends_run fun c => c.call_prefix verb values reference c.authorization body
  fetches call reference :=
    Work.appends_run fun c => c.call_prefix .post [] reference (some .application) none
  knows text next holds c := .after (Work.ends_platform c) (holds _ c)
  learns text token := Work.appends_change fun c => List.prefix_rfl
  authorizes authorization := Work.appends_change fun c => List.prefix_rfl

namespace Work

variable {α β : Type} {c d : Client} {moves : List Counter}

/-- From client `c` the work comes to some failure and leaves client `d`. -/
def StopsAt (work : Work Client α) (c d : Client) : Prop :=
  ∃ failure moves, work.Ends c ⟨.error failure, d, moves⟩

theorem StopsAt.after {work : Work Client α} {next : α → Work Client β} {value : α} {e : Client}
    (first : work.Ends c ⟨.ok value, d, moves⟩) (rest : (next value).StopsAt d e) :
    (work >>= next).StopsAt c e := by
  obtain ⟨failure, more, ends⟩ := rest
  exact ⟨failure, _, first.bind ends⟩

theorem StopsAt.bind {work : Work Client α} {next : α → Work Client β}
    (first : work.StopsAt c d) : (work >>= next).StopsAt c d := by
  obtain ⟨failure, moves, ends⟩ := first
  exact ⟨failure, moves, ends.stop⟩

end Work

end SuiteTrigger
