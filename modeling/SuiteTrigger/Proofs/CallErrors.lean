import SuiteTrigger.Proofs.Scans

/-!
# Errors of calls

An error is raised in a call when an address cannot be built, when a request is not answered with
what it asks for, or when the answer cannot be read (`Call.Raises`). Its class decides what the
caller is told: rejections and missing answers become transient failures that name the call, and
all other errors stay what they are (`CallError.Becomes`). The one exception is a bad request with
404 when a label is taken off, which tells that it was not attached (`Call.Absent`). A call fails
with nothing else (`Call.fails_iff`).
-/

namespace SuiteTrigger

open Http

namespace Http

/-- Whether a rejection is one of a bad request, of which there are several kinds. -/
def RejectionKind.isBadRequest : RejectionKind → Bool
  | .badRequest | .unknownFault | .rateLimit | .invalidField | .invalid => true
  | .serverFault | .redirection | .other => false

namespace CallError

/-- Whether a later call may get past the error. -/
def isTransient : CallError → Bool
  | .rejected _ | .lost _ => true
  | .failure f => f.isTransient

/-- The failure that an error becomes in a call with a name. -/
inductive Becomes (call : String) : CallError → Failure → Prop
  | rejected (r : Rejection) :
    Becomes call (.rejected r) (.transient (call ++ " failed: " ++ r.shown))
  | lost (error : NetworkError) :
    Becomes call (.lost error) (.transient (call ++ " failed: " ++ error.shown))
  | kept (f : Failure) : Becomes call (.failure f) f

variable {call : String} {e : CallError} {f : Failure}

theorem becomes_iff : e.Becomes call f ↔ f = e.toFailure call := by
  constructor
  · intro becomes
    cases becomes <;> rfl
  · rintro rfl
    cases e with
    | rejected r => exact .rejected r
    | lost error => exact .lost error
    | failure f => exact .kept f

/-- An error keeps its class. -/
theorem Becomes.isTransient_eq (becomes : e.Becomes call f) : f.isTransient = e.isTransient := by
  cases becomes <;> rfl

end CallError

theorem rejectAs_kind {kind : RejectionKind} {status : Int} {data : Json} {j : Rejection}
    (rejected : rejectAs kind status data = .rejected j) : j.kind = kind := by
  rw [rejectAs] at rejected
  split at rejected
  · cases rejected
  · cases rejected
    rfl

/-- Whatever is rejected with 404 is a bad request. -/
theorem reject_missing {answer : Answer} {data : Json} {j : Rejection}
    (rejected : reject answer data = .rejected j) (missing : j.status = 404) :
    j.kind = .badRequest := by
  have status : answer.status = 404 := (reject_status rejected).symm.trans missing
  have kind : reject answer data = rejectAs .badRequest answer.status data := by
    simp [reject, status, invalidStatus]
  rw [kind] at rejected
  exact rejectAs_kind rejected

namespace Client

theorem receive_rejected {c : Client} {r : Request} {reply : Reply} {j : Rejection}
    (rejected : (c.receive r reply).1 = .error (.rejected j)) :
    ∃ answer : Answer, answer.page = .error (.rejected j) := by
  cases reply with
  | lost error => nomatch rejected
  | failed f => nomatch rejected
  | answered answer =>
    refine ⟨answer, ?_⟩
    unfold receive at rejected
    dsimp only at rejected
    split at rejected
    · nomatch rejected
    · cases gives : answer.page with
      | ok page =>
        rw [gives] at rejected
        nomatch rejected
      | error e =>
        rw [gives] at rejected
        exact rejected

theorem send_missing {c : Client} {r : Request} {j : Rejection}
    (rejected : (c.send r).1 = .error (.rejected j)) (missing : j.status = 404) :
    j.kind.isBadRequest = true := by
  have answered : ∃ answer : Answer, answer.page = .error (.rejected j) := by
    unfold send at rejected
    split at rejected
    · cases rejected
    · exact receive_rejected rejected
  obtain ⟨answer, page⟩ := answered
  rw [Answer.page] at page
  split at page
  · cases page
  · split at page
    · split at page <;> cases page
    · rw [reject_missing (Except.error.inj page) missing]
      rfl

end Client

end Http

namespace Remote

/-- What the one request of a change comes to, and the client that it leaves. -/
inductive Changes (verb : Verb) (values : Template.Values) (reference : String)
    (body : Option Json) (c : Client) : Except CallError Json → Client → Prop
  | unled {f : Failure} (led : target values reference = .error f) :
    Changes verb values reference body c (.error (.failure f)) c
  | unanswered {url : String} {e : CallError} {d : Client}
    (led : target values reference = .ok url)
    (raises : c.send ⟨verb, url, c.authorization, none, body⟩ = (.error e, d)) :
    Changes verb values reference body c (.error e) d
  | answered {url : String} {page : Page} {d : Client} (led : target values reference = .ok url)
    (gives : c.send ⟨verb, url, c.authorization, none, body⟩ = (.ok page, d)) :
    Changes verb values reference body c (.ok page.data) d

variable {verb : Verb} {values : Template.Values} {reference : String} {body : Option Json}
  {c d : Client} {outcome : Except CallError Json} {issue : IssueRef} {e : CallError}

theorem Changes.eq (changes : Changes verb values reference body c outcome d) :
    change verb values reference body c = (outcome, d) := by
  cases changes with
  | unled led => rw [change, Client.call, led]
  | unanswered led raises =>
    rw [change, Client.call_eq c verb led, raises]
    rfl
  | answered led gives =>
    rw [change, Client.call_eq c verb led, gives]
    rfl

theorem changes_exist (verb : Verb) (values : Template.Values) (reference : String)
    (body : Option Json) (c : Client) :
    ∃ outcome d, Changes verb values reference body c outcome d := by
  cases led : target values reference with
  | error f => exact ⟨_, _, .unled led⟩
  | ok url =>
    cases sent : c.send ⟨verb, url, c.authorization, none, body⟩ with
    | mk answered d =>
      cases answered with
      | error e => exact ⟨_, _, .unanswered led sent⟩
      | ok page => exact ⟨_, _, .answered led sent⟩

theorem Changes.requests {url : String} (changes : Changes verb values reference body c outcome d)
    (led : target values reference = .ok url) :
    d.requests = c.requests ++ [⟨verb, url, c.authorization, none, body⟩] := by
  have sent {url' : String} {answered : Except CallError Page}
      (led' : target values reference = .ok url')
      (sends : c.send ⟨verb, url', c.authorization, none, body⟩ = (answered, d)) :
      d.requests = c.requests ++ [⟨verb, url, c.authorization, none, body⟩] := by
    cases led.symm.trans led'
    have requests := (Client.send_leads c ⟨verb, url, c.authorization, none, body⟩).requests
    rwa [sends] at requests
  cases changes with
  | unled unled => nomatch led.symm.trans unled
  | unanswered led' raises => exact sent led' raises
  | answered led' gives => exact sent led' gives

/-- Whatever a change is refused with 404 is a bad request. -/
theorem Changes.missing {j : Rejection}
    (changes : Changes verb values reference body c (.error (.rejected j)) d)
    (missing : j.status = 404) : j.kind.isBadRequest = true := by
  cases changes with
  | unanswered led raises => exact Client.send_missing (congrArg Prod.fst raises) missing

/-- A call to the code host about an issue. -/
inductive Call where
  | labels
  | addLabels (names : List String)
  | removeLabel (name : String)
  | comments
  | anyComment (wanted : Comment → Bool)
  | postComment (body : String)

def labelsIn (data : Json) : Except Failure (List Label) :=
  (if data.isTruthy then itemsOf data else .ok []).bind fun items =>
    items.mapM fun item => checked (Label.read item)

namespace Call

abbrev Value : Call → Type
  | labels | addLabels _ => List Label
  | removeLabel _ | anyComment _ => Bool
  | comments => List Comment
  | postComment _ => Comment

def work (issue : IssueRef) : (call : Call) → Work Client call.Value
  | labels => Remote.labels issue
  | addLabels names => Remote.addLabels issue names
  | removeLabel name => Remote.removeLabel issue name
  | comments => Remote.comments issue
  | anyComment wanted => Remote.anyComment issue wanted
  | postComment body => Remote.postComment issue body

def url (issue : IssueRef) : Call → String
  | labels | addLabels _ | removeLabel _ => labelsUrl issue
  | comments | anyComment _ | postComment _ => commentsUrl issue

def name (issue : IssueRef) : Call → String
  | labels => s!"GET {labelsUrl issue}"
  | addLabels _ => s!"POST {labelsUrl issue}"
  | removeLabel name => s!"DELETE {labelsUrl issue}/{name}"
  | comments | anyComment _ => s!"GET {commentsUrl issue}"
  | postComment _ => s!"POST {commentsUrl issue}"

def move (issue : IssueRef) (call : Call) : Counter := .apiCall (Endpoint.ofUrl (call.url issue))

/-- An error is raised in a call, at one of its requests or when an answer is read. -/
inductive Raises (issue : IssueRef) (c : Client) : Call → CallError → Client → Prop
  | labels {e : CallError} {n : Nat} {d : Client}
    (scans : Client.Scans (collect Label.read) c (labelsUrl issue) [] (.error e) n d) :
    Raises issue c .labels e d
  | addLabels {names : List String} {e : CallError} {d : Client}
    (changes : Changes .post [] (labelsUrl issue)
      (some (labelsBody names)) c (.error e) d) :
    Raises issue c (.addLabels names) e d
  | unreadLabels {names : List String} {data : Json} {f : Failure} {d : Client}
    (changes : Changes .post [] (labelsUrl issue)
      (some (labelsBody names)) c (.ok data) d)
    (unread : labelsIn data = .error f) : Raises issue c (.addLabels names) (.failure f) d
  | removeLabel {name : String} {e : CallError} {d : Client}
    (changes : Changes .delete [("name".toList, name.toList)] (labelReference issue) none c
      (.error e) d) : Raises issue c (.removeLabel name) e d
  | comments {e : CallError} {n : Nat} {d : Client}
    (scans : Client.Scans (collect Comment.read) c (commentsUrl issue) [] (.error e) n d) :
    Raises issue c .comments e d
  | anyComment {wanted : Comment → Bool} {e : CallError} {n : Nat} {d : Client}
    (scans : Client.Scans (seek Comment.read wanted) c (commentsUrl issue) false (.error e) n d) :
    Raises issue c (.anyComment wanted) e d
  | postComment {body : String} {e : CallError} {d : Client}
    (changes : Changes .post [] (commentsUrl issue) (some (commentBody body)) c
      (.error e) d) : Raises issue c (.postComment body) e d
  | unreadComment {body : String} {data : Json} {f : Failure} {d : Client}
    (changes : Changes .post [] (commentsUrl issue) (some (commentBody body)) c
      (.ok data) d)
    (unread : checked (Comment.read data) = .error f) :
    Raises issue c (.postComment body) (.failure f) d

/-- The error tells of a label to be taken off that it was not attached. -/
inductive Absent : Call → CallError → Prop
  | notAttached {name : String} {r : Rejection} (bad : r.kind.isBadRequest = true)
    (missing : r.status = 404) : Absent (.removeLabel name) (.rejected r)

variable {α β : Type} {call : Call} {f : Failure} {moves : List Counter}

/-- An answer that came is read as it is. -/
theorem bind_mapError_ok (told : CallError → Failure) (answer : β) (read : β → Except Failure α) :
    ((Except.ok answer).mapError told).bind read = read answer := rfl

theorem counted_ends {next : Work Client α} {outcome : Except Failure α}
    (rest : next.Ends (called c) ⟨outcome, d, []⟩) (url : String) (level : Level) (text : String) :
    (countCall url >>= fun _ => Work.log level text >>= fun _ => next).Ends c
      ⟨outcome, d, [.apiCall (Endpoint.ofUrl url)]⟩ :=
  (countCall_ends c url).bind ((Work.ends_log _ _ _).andThen rest)

theorem run_ends {step : Client → Except CallError α × Client} {outcome : Except CallError α}
    (stepped : step c = (outcome, d)) (name : String) :
    (run name step).Ends c ⟨outcome.mapError (CallError.toFailure name), d, []⟩ := by
  refine Work.ends_change ?_
  rw [stepped]

theorem scan_ends {visit : β → Json → Except Failure (Client.Visit β)} {url : String} {state : β}
    {outcome : Except CallError β} {n : Nat}
    (scans : Client.Scans visit (called c) url state outcome n d) (level : Level)
    (text name : String) :
    (countCall url >>= fun _ => Work.log level text >>= fun _ =>
      run name (Client.scan visit url state)).Ends c
        ⟨outcome.mapError (CallError.toFailure name), d, [.apiCall (Endpoint.ofUrl url)]⟩ :=
  counted_ends (run_ends scans.eq name) url level text

theorem addLabels_ends {names : List String} (changes : Changes .post [] (labelsUrl issue)
      (some (labelsBody names)) (called c) outcome d) :
    ((addLabels names).work issue).Ends c
      ⟨(outcome.mapError (CallError.toFailure ((addLabels names).name issue))).bind labelsIn, d,
        [(addLabels names).move issue]⟩ := by
  refine counted_ends ?_ _ _ _
  have sent := run_ends changes.eq s!"POST {labelsUrl issue}"
  cases outcome with
  | error e => exact sent.stop
  | ok data => exact sent.onward ((Work.ends_ofExcept d _).check _)

theorem removeLabel_ends {label : String}
    (changes : Changes .delete [("name".toList, label.toList)] (labelReference issue) none
      (called c) outcome d) :
    ((removeLabel label).work issue).Ends c
      ⟨(removal outcome).mapError (CallError.toFailure ((removeLabel label).name issue)), d,
        [(removeLabel label).move issue]⟩ := by
  refine counted_ends ?_ _ _ _
  have sent : (run s!"DELETE {labelsUrl issue}/{label}" fun c =>
      (removal (change .delete [("name".toList, label.toList)] (labelReference issue) none c).1,
        (change .delete [("name".toList, label.toList)] (labelReference issue) none c).2)).Ends
      (called c) ⟨(removal outcome).mapError
        (CallError.toFailure ((removeLabel label).name issue)), d, []⟩ := by
    refine Work.ends_change ?_
    dsimp only
    rw [changes.eq]
    rfl
  refine sent.report fun attached r => ?_
  cases attached with
  | true => exact Work.ends_pure r true
  | false => exact (Work.ends_log r _ _).andThen (Work.ends_pure r false)

theorem postComment_ends {body : String} (changes : Changes .post [] (commentsUrl issue)
      (some (commentBody body)) (called c) outcome d) :
    ((postComment body).work issue).Ends c
      ⟨(outcome.mapError (CallError.toFailure ((postComment body).name issue))).bind
        fun data => checked (Comment.read data), d, [(postComment body).move issue]⟩ := by
  refine counted_ends ?_ _ _ _
  exact (run_ends changes.eq s!"POST {commentsUrl issue}").check _

/-- What a call comes to in which an error is raised: it fails with what the error becomes, unless
the error tells that a label was not attached. -/
theorem raised_ends (raised : call.Raises issue (called c) e d) (present : ¬ call.Absent e) :
    (call.work issue).Ends c
      ⟨.error (e.toFailure (call.name issue)), d, [call.move issue]⟩ := by
  cases raised with
  | labels scans => exact scan_ends scans _ _ _
  | comments scans => exact scan_ends scans _ _ _
  | anyComment scans => exact scan_ends scans _ _ _
  | addLabels changes => exact addLabels_ends changes
  | unreadLabels changes unread =>
    have ends := addLabels_ends changes
    rwa [bind_mapError_ok, unread] at ends
  | postComment changes => exact postComment_ends changes
  | unreadComment changes unread =>
    have ends := postComment_ends changes
    rwa [bind_mapError_ok, unread] at ends
  | removeLabel changes =>
    have ends := removeLabel_ends changes
    -- of all errors only a bad request with 404 tells that the label was not attached
    have stays : removal (.error e) = .error e := by
      cases e with
      | rejected r =>
        refine if_neg fun missing => present ?_
        exact .notAttached (changes.missing missing) missing
      | _ => rfl
    rwa [stays] at ends

theorem absent_ends {label : String} (raised : (removeLabel label).Raises issue (called c) e d)
    (absent : (removeLabel label).Absent e) :
    ((removeLabel label).work issue).Ends c ⟨.ok false, d, [(removeLabel label).move issue]⟩ := by
  cases raised with
  | removeLabel changes =>
    have ends := removeLabel_ends changes
    cases absent with
    | @notAttached _ r bad missing =>
      have told : removal (.error (.rejected r)) = .ok false := if_pos missing
      rwa [told] at ends

/-- A call succeeds, or an error is raised in it. -/
theorem comes_or_raises (issue : IssueRef) (call : Call) (c : Client) :
    (∃ value d, (call.work issue).Ends c ⟨.ok value, d, [call.move issue]⟩) ∨
      ∃ e d, call.Raises issue (called c) e d ∧ ¬ call.Absent e := by
  cases call with
  | labels =>
    obtain ⟨outcome, n, d, scans⟩ :=
      Client.scans_exist (collect Label.read) (called c) (labelsUrl issue) []
    cases outcome with
    | ok value => exact .inl ⟨value, d, scan_ends scans _ _ _⟩
    | error e => exact .inr ⟨e, d, .labels scans, by rintro ⟨⟩⟩
  | comments =>
    obtain ⟨outcome, n, d, scans⟩ :=
      Client.scans_exist (collect Comment.read) (called c) (commentsUrl issue) []
    cases outcome with
    | ok value => exact .inl ⟨value, d, scan_ends scans _ _ _⟩
    | error e => exact .inr ⟨e, d, .comments scans, by rintro ⟨⟩⟩
  | anyComment wanted =>
    obtain ⟨outcome, n, d, scans⟩ :=
      Client.scans_exist (seek Comment.read wanted) (called c) (commentsUrl issue) false
    cases outcome with
    | ok value => exact .inl ⟨value, d, scan_ends scans _ _ _⟩
    | error e => exact .inr ⟨e, d, .anyComment scans, by rintro ⟨⟩⟩
  | addLabels names =>
    obtain ⟨outcome, d, changes⟩ := changes_exist .post [] (labelsUrl issue)
      (some (labelsBody names)) (called c)
    cases outcome with
    | error e => exact .inr ⟨e, d, .addLabels changes, by rintro ⟨⟩⟩
    | ok data =>
      have ends := addLabels_ends changes
      cases read : labelsIn data with
      | error f => exact .inr ⟨.failure f, d, .unreadLabels changes read, by rintro ⟨⟩⟩
      | ok labels =>
        rw [bind_mapError_ok, read] at ends
        exact .inl ⟨labels, d, ends⟩
  | postComment body =>
    obtain ⟨outcome, d, changes⟩ := changes_exist .post [] (commentsUrl issue)
      (some (commentBody body)) (called c)
    cases outcome with
    | error e => exact .inr ⟨e, d, .postComment changes, by rintro ⟨⟩⟩
    | ok data =>
      have ends := postComment_ends changes
      cases read : checked (Comment.read data) with
      | error f => exact .inr ⟨.failure f, d, .unreadComment changes read, by rintro ⟨⟩⟩
      | ok comment =>
        rw [bind_mapError_ok, read] at ends
        exact .inl ⟨comment, d, ends⟩
  | removeLabel label =>
    obtain ⟨outcome, d, changes⟩ :=
      changes_exist .delete [("name".toList, label.toList)] (labelReference issue) none (called c)
    cases outcome with
    | ok data => exact .inl ⟨true, d, removeLabel_ends changes⟩
    | error e =>
      by_cases absent : (removeLabel label).Absent e
      · exact .inl ⟨false, d, absent_ends (.removeLabel changes) absent⟩
      · exact .inr ⟨e, d, .removeLabel changes, absent⟩

/-- A call fails with what the error becomes that is raised in it, and with nothing else. -/
theorem fails_iff : (call.work issue).Ends c ⟨.error f, d, moves⟩ ↔
    ∃ e, call.Raises issue (called c) e d ∧ ¬ call.Absent e ∧ e.Becomes (call.name issue) f ∧
      moves = [call.move issue] := by
  constructor
  · intro fails
    rcases comes_or_raises issue call c with ⟨value, d', ends⟩ | ⟨e, d', raised, present⟩
    · nomatch congrArg Ending.outcome (fails.unique ends)
    · cases fails.unique (raised_ends raised present)
      exact ⟨e, raised, present, CallError.becomes_iff.2 rfl, rfl⟩
  · rintro ⟨e, raised, present, becomes, rfl⟩
    rw [CallError.becomes_iff.1 becomes]
    exact raised_ends raised present

end Call

end Remote

end SuiteTrigger
