import SuiteTrigger.Platform.Remote
import SuiteTrigger.Proofs.Endings

namespace SuiteTrigger.Http

/-- A request and the reply that it got; there is none when no reply was left. -/
structure Exchange where
  request : Request
  reply? : Option Reply
  deriving DecidableEq

/-- Requests with the replies that they take one after another. -/
def exchanges : List Request → List Reply → List Exchange
  | [], _ => []
  | r :: requests, replies => ⟨r, replies.head?⟩ :: exchanges requests replies.tail

theorem exchanges_append (first second : List Request) (replies : List Reply) :
    exchanges (first ++ second) replies =
      exchanges first replies ++ exchanges second (replies.drop first.length) := by
  induction first generalizing replies with
  | nil => rfl
  | cons r first ih =>
    rw [List.cons_append, exchanges, exchanges, ih, List.cons_append, List.length_cons,
      List.drop_tail]

@[simp] theorem exchanges_requests (sent : List Request) (replies : List Reply) :
    (exchanges sent replies).map (·.request) = sent := by
  induction sent generalizing replies with
  | nil => rfl
  | cons r sent ih => rw [exchanges, List.map_cons, ih]

def Reply.page : Reply → Except CallError Page
  | .answered answer => answer.page
  | .lost error => .error (.lost error)
  | .failed failure => .error (.failure failure)

namespace Client

variable {c d e : Client}

/-- Client `d` is client `c` after some calls for which it sent some requests. -/
structure Leads (c : Client) (calls : Nat) (sent : List Request) (d : Client) : Prop where
  requests : d.requests = c.requests ++ sent
  replies : d.replies = c.replies.drop sent.length
  authorization : d.authorization = c.authorization
  pages : c.pages = none → d.pages = none
  callCount : d.callCount = c.callCount + calls

/-- The exchanges of a run that leads from one client to another. -/
def exchangesTo (c d : Client) : List Exchange :=
  exchanges (d.requests.drop c.requests.length) c.replies

namespace Leads

variable {calls more : Nat} {sent later : List Request}

theorem refl (c : Client) : c.Leads 0 [] c :=
  ⟨(List.append_nil _).symm, rfl, rfl, id, rfl⟩

theorem trans (first : c.Leads calls sent d) (second : d.Leads more later e) :
    c.Leads (calls + more) (sent ++ later) e where
  requests := by rw [second.requests, first.requests, List.append_assoc]
  replies := by rw [second.replies, first.replies, List.drop_drop, List.length_append]
  authorization := second.authorization.trans first.authorization
  pages unkept := second.pages (first.pages unkept)
  callCount := by rw [second.callCount, first.callCount, Nat.add_assoc]

theorem exchangesTo_eq (leads : c.Leads calls sent d) :
    c.exchangesTo d = exchanges sent c.replies := by
  rw [exchangesTo, leads.requests, List.drop_left]

end Leads

theorem keep_client (c : Client) (url : String) (headers : Headers) (page : Page) :
    ∃ pages, c.keep url headers page = { c with pages } ∧ (c.pages = none → pages = none) := by
  rw [keep]
  split
  · exact ⟨_, rfl, fun unkept => by rw [unkept]; rfl⟩
  · exact ⟨c.pages, rfl, id⟩

/-- Whatever the reply, a client remembers the request, and only its pages change besides. -/
theorem receive_client (c : Client) (r : Request) (reply : Reply) :
    ∃ pages, (c.receive r reply).2 = { c.record r with pages } ∧
      (c.pages = none → pages = none) := by
  have same : ∃ pages, c.record r = { c.record r with pages } ∧ (c.pages = none → pages = none) :=
    ⟨c.pages, rfl, id⟩
  unfold receive
  split
  · exact same
  · exact same
  · dsimp only
    split
    · exact same
    · split
      · exact same
      · dsimp only
        split
        · exact keep_client (c.record r) _ _ _
        · exact same

theorem send_leads (c : Client) (r : Request) : c.Leads 0 [r] (c.send r).2 := by
  unfold send
  split
  · rename_i none
    exact ⟨rfl, by simp [record, none], rfl, id, rfl⟩
  · rename_i reply replies some
    obtain ⟨pages, received, unkept⟩ := receive_client { c with replies } r reply
    rw [received]
    exact ⟨rfl, by simp [record, some], rfl, unkept, rfl⟩

/-- A reply gives what it carries, unless it is about a page that is kept. -/
theorem receive_page (c : Client) (r : Request) {reply : Reply}
    (new : c.pages = none ∨ ∀ answer, reply = .answered answer → answer.status ≠ 304) :
    (c.receive r reply).1 = reply.page := by
  cases reply with
  | lost error => rfl
  | failed failure => rfl
  | answered answer =>
    have fresh : ¬ (((if r.verb = .get then (c.record r).kept? r.url else none).isSome = true) ∧
        decide (answer.status = 304) = true) := by
      rintro ⟨kept, unchanged⟩
      rcases new with unkept | other
      · have nothing : (c.record r).kept? r.url = none := by simp [record, kept?, unkept]
        rw [nothing, ite_self] at kept
        exact absurd kept (by simp)
      · exact other answer rfl (by simpa using unchanged)
    unfold receive
    dsimp only
    split
    · rename_i kept unchanged
      exact absurd ⟨by rw [kept]; rfl, unchanged⟩ fresh
    · rw [Reply.page]
      cases answer.page <;> rfl

theorem send_page {reply : Reply} {replies : List Reply} (r : Request)
    (script : c.replies = reply :: replies)
    (new : c.pages = none ∨ ∀ answer, reply = .answered answer → answer.status ≠ 304) :
    (c.send r).1 = reply.page := by
  rw [send, script]
  exact receive_page { c with replies } r new

/-- A client that keeps no pages gets what the next reply carries. -/
theorem send_unkept (r : Request) (unkept : c.pages = none) :
    (c.send r).1 = (c.replies.head?.map Reply.page).getD (.error silence) := by
  cases script : c.replies with
  | nil => rw [send, script]; rfl
  | cons reply replies => exact send_page r script (.inl unkept)

theorem call_eq (c : Client) (verb : Verb) {values : Template.Values} {reference url : String}
    (led : target values reference = .ok url) (authorization : Option Authorization)
    (body : Option Json) :
    c.call verb values reference authorization body =
      ((c.send ⟨verb, url, authorization, none, body⟩).1.map (·.data),
        (c.send ⟨verb, url, authorization, none, body⟩).2) := by
  rw [call, led]

variable {β : Type}

/-- A scan asks for a page, visits its items, and goes on with the page after it. -/
theorem scan_eq (visit : β → Json → Except Failure (Visit β)) (reference : String) (state : β)
    (c : Client) :
    scan visit reference state c =
      match target [] reference with
      | .error f => (.error (.failure f), c)
      | .ok url =>
        match c.send (c.pageRequest url) with
        | (.error e, d) => (.error e, d)
        | (.ok page, d) =>
          match page.items.bind (visitAll visit state) with
          | .error f => (.error (.failure f), d)
          | .ok (.stop state) => (.ok state, d)
          | .ok (.proceed state) =>
            match page.next with
            | none => (.ok state, d)
            | some next => scan visit next state d := by
  unfold scan
  cases script : c.replies with
  | nil =>
    rw [scanFrom]
    cases target [] reference with
    | error f => rfl
    | ok url => simp only [send, script]
  | cons reply replies =>
    rw [scanFrom]
    cases target [] reference with
    | error f => rfl
    | ok url =>
      have left := (send_leads c (c.pageRequest url)).replies
      simp only [send, script, List.length_singleton, List.drop_succ_cons, List.drop_zero]
        at left ⊢
      generalize receive { c with replies } (c.pageRequest url) reply = received at left ⊢
      obtain ⟨outcome, d⟩ := received
      subst left
      cases outcome <;> rfl

end Client

theorem Answer.page_ok {answer : Answer} {page : Page} (carries : answer.page = .ok page) :
    isSuccess answer.status = true := by
  rw [Answer.page] at carries
  split at carries
  · nomatch carries
  · split at carries
    · assumption
    · nomatch carries

theorem rejectAs_status {kind : RejectionKind} {status : Int} {data : Json} {j : Rejection}
    (rejected : rejectAs kind status data = .rejected j) : j.status = status := by
  rw [rejectAs] at rejected
  split at rejected
  · nomatch rejected
  · cases rejected
    rfl

theorem rejectInvalid_status {kind : RejectionKind} {text : String} {j : Rejection}
    (rejected : rejectInvalid kind text = .rejected j) : j.status = invalidStatus := by
  cases rejected
  rfl

theorem rejectErrors_status {message : String} {errors : List Json} {j : Rejection}
    (rejected : rejectErrors message errors = .ok (.rejected j)) : j.status = invalidStatus := by
  rw [rejectErrors] at rejected
  split at rejected
  · exact rejectInvalid_status (Except.ok.inj rejected)
  · cases said : errors.mapM InputError.message with
    | error f =>
      rw [said] at rejected
      nomatch rejected
    | ok values =>
      rw [said] at rejected
      exact rejectInvalid_status (Except.ok.inj rejected)

theorem rejectInput_status {data : Json} {j : Rejection}
    (rejected : rejectInput data = .rejected j) : j.status = invalidStatus := by
  unfold rejectInput at rejected
  split at rejected
  · dsimp only at rejected
    split at rejected
    · split at rejected
      · cases rejected
        rfl
      · nomatch rejected
    · split at rejected
      · exact rejectInvalid_status rejected
      · generalize itemsOf _ = items at rejected
        cases items with
        | error f => nomatch rejected
        | ok items =>
          split at rejected
          · rename_i told
            subst rejected
            exact rejectErrors_status told
          · nomatch rejected
  · exact rejectInvalid_status rejected

theorem rejectForbidden_status {answer : Answer} {data : Json} {j : Rejection}
    (rejected : rejectForbidden answer data = .rejected j) : j.status = answer.status := by
  unfold rejectForbidden at rejected
  split at rejected
  · nomatch rejected
  · split at rejected
    · cases rejected
      rfl
    · exact rejectAs_status rejected

theorem reject_status {answer : Answer} {data : Json} {j : Rejection}
    (rejected : reject answer data = .rejected j) : j.status = answer.status := by
  unfold reject at rejected
  dsimp only at rejected
  split at rejected
  · exact rejectAs_status rejected
  · split at rejected
    · rename_i invalid
      exact (rejectInput_status rejected).trans invalid.symm
    · split at rejected
      · exact rejectForbidden_status rejected
      · repeat (split at rejected; exact rejectAs_status rejected)
        exact rejectAs_status rejected

theorem Answer.page_rejected {answer : Answer} {j : Rejection}
    (rejected : answer.page = .error (.rejected j)) : j.status = answer.status := by
  rw [Answer.page] at rejected
  split at rejected
  · nomatch rejected
  · split at rejected
    · split at rejected <;> nomatch rejected
    · exact reject_status (Except.error.inj rejected)

end SuiteTrigger.Http

namespace SuiteTrigger.Remote

open Http

/-- The request that puts labels on the issue with this address of its labels. -/
def addition (url : String) (names : List String) (authorization : Option Authorization) :
    Request :=
  ⟨.post, url, authorization, none, some (labelsBody names)⟩

/-- The request that takes off the label with this address. -/
def deletion (url : String) (authorization : Option Authorization) : Request :=
  ⟨.delete, url, authorization, none, none⟩

/-- The request that posts a comment on the issue with this address of its comments. -/
def posting (url body : String) (authorization : Option Authorization) : Request :=
  ⟨.post, url, authorization, none, some (commentBody body)⟩

def called (c : Client) : Client := { c with callCount := c.callCount + 1 }

theorem countCall_ends (c : Client) (url : String) :
    (countCall url).Ends c ⟨.ok (), called c, [.apiCall (Endpoint.ofUrl url)]⟩ := by
  have counted : (Work.change fun c : Client => (.ok (), called c)).Ends c
      ⟨.ok (), called c, []⟩ := Work.ends_change rfl
  exact counted.bind (Work.ends_count _ _)

theorem called_leads (c : Client) : c.Leads 1 [] (called c) :=
  ⟨(List.append_nil _).symm, rfl, rfl, id, rfl⟩

end SuiteTrigger.Remote
