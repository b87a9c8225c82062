import SuiteTrigger.Proofs.Exchanges

namespace SuiteTrigger

open Http

variable {α β ε : Type}

/-- Whether an exchange may be followed by another: the request was carried out, or it was to take
off what was not there. -/
def Http.Exchange.GoesOn (x : Exchange) : Prop :=
  ∃ answer, x.reply? = some (.answered answer) ∧
    (isSuccess answer.status = true ∨ x.request.verb = .delete ∧ answer.status = 404)

/-- Exchanges that all went well, the last one of a run that failed aside. -/
def Orderly : Except ε α → List Exchange → Prop
  | .ok _, xs => ∀ x ∈ xs, x.GoesOn
  | .error _, xs => ∀ x ∈ xs.dropLast, x.GoesOn

theorem orderly_append {outcome : Except ε α} {xs ys : List Exchange} (first : ∀ x ∈ xs, x.GoesOn)
    (rest : Orderly outcome ys) : Orderly outcome (xs ++ ys) := by
  cases outcome with
  | ok value =>
    intro x inside
    exact (List.mem_append.1 inside).elim (first x) (rest x)
  | error f =>
    intro x inside
    cases ys with
    | nil =>
      rw [List.append_nil] at inside
      exact first x (List.dropLast_subset _ inside)
    | cons y ys =>
      rw [List.dropLast_append_of_ne_nil (by simp)] at inside
      exact (List.mem_append.1 inside).elim (first x) (rest x)

theorem Orderly.weaken {outcome : Except ε α} {xs : List Exchange} (orderly : Orderly outcome xs) :
    ∀ x ∈ xs.dropLast, x.GoesOn := by
  cases outcome with
  | ok value => exact fun x inside => orderly x (List.dropLast_subset _ inside)
  | error f => exact orderly

/-- From any client that keeps no pages and is authorized so, the work goes through exchanges in
good order, and the outcome and the exchanges are as asked for. -/
def Work.Sends (auth : Option Authorization) (work : Work Client α)
    (post : Except Failure α → List Exchange → Prop) : Prop :=
  ∀ c : Client, c.pages = none → c.authorization = auth → ∃ outcome calls sent d moves,
    work.Ends c ⟨outcome, d, moves⟩ ∧ c.Leads calls sent d ∧
      Orderly outcome (exchanges sent c.replies) ∧ post outcome (exchanges sent c.replies)

namespace Work

variable {auth : Option Authorization} {work : Work Client α} {next : α → Work Client β}
  {mid : Except Failure α → List Exchange → Prop} {post : Except Failure β → List Exchange → Prop}

namespace Sends

theorem bind (first : work.Sends auth mid) (fails : ∀ f xs, mid (.error f) xs → post (.error f) xs)
    (rest : ∀ value xs, mid (.ok value) xs →
      (next value).Sends auth fun o ys => post o (xs ++ ys)) :
    (work >>= next).Sends auth post := by
  intro c unkept authorized
  obtain ⟨outcome, calls, sent, d, moves, ends, leads, orderly, holds⟩ := first c unkept authorized
  cases outcome with
  | error f => exact ⟨.error f, calls, sent, d, moves, ends.stop, leads, orderly, fails f _ holds⟩
  | ok value =>
    obtain ⟨outcome, calls', sent', e, moves', ends', leads', orderly', holds'⟩ :=
      rest value _ holds d (leads.pages unkept) (leads.authorization.trans authorized)
    rw [leads.replies] at orderly' holds'
    refine ⟨outcome, _, _, e, _, ends.bind ends', leads.trans leads', ?_, ?_⟩
    · rw [exchanges_append]
      exact orderly_append orderly orderly'
    · rw [exchanges_append]
      exact holds'

/-- Work that succeeds and leaves every client alone comes before other work. -/
theorem after {value : α} (silent : ∀ c, work.Ends c ⟨.ok value, c, []⟩)
    (rest : (next value).Sends auth post) : (work >>= next).Sends auth post := by
  intro c unkept authorized
  obtain ⟨outcome, calls, sent, d, moves, ends, others⟩ := rest c unkept authorized
  exact ⟨outcome, calls, sent, d, moves, (silent c).andThen ends, others⟩

theorem weaken {mid' : Except Failure α → List Exchange → Prop} (sends : work.Sends auth mid)
    (implies : ∀ o xs, mid o xs → mid' o xs) : work.Sends auth mid' := by
  intro c unkept authorized
  obtain ⟨outcome, calls, sent, d, moves, ends, leads, orderly, holds⟩ := sends c unkept authorized
  exact ⟨outcome, calls, sent, d, moves, ends, leads, orderly, implies _ _ holds⟩

end Sends

def Quiet (work : Work Client α) : Prop := ∀ c, ∃ outcome moves, work.Ends c ⟨outcome, c, moves⟩

theorem quiet_pure (value : α) : (pure value : Work Client α).Quiet :=
  fun c => ⟨_, _, ends_pure c value⟩

theorem quiet_ofExcept (result : Except Failure α) : (ofExcept result).Quiet :=
  fun c => ⟨_, _, ends_ofExcept c result⟩

theorem quiet_log (level : Level) (text : String) : (log level text).Quiet :=
  fun c => ⟨_, _, ends_log c level text⟩

theorem quiet_count (c : Counter) : (count c : Work Client Unit).Quiet :=
  fun p => ⟨_, _, ends_count p c⟩

theorem quiet_platform : (platform : Work Client Client).Quiet :=
  fun c => ⟨_, _, ends_platform c⟩

theorem Quiet.bind (first : work.Quiet) (rest : ∀ value, (next value).Quiet) :
    (work >>= next).Quiet := by
  intro c
  obtain ⟨outcome, moves, ends⟩ := first c
  cases outcome with
  | error f => exact ⟨_, _, ends.stop⟩
  | ok value =>
    obtain ⟨outcome, moves', ends'⟩ := rest value c
    exact ⟨_, _, ends.bind ends'⟩

theorem Quiet.sends (quiet : work.Quiet) (holds : ∀ outcome, mid outcome []) :
    work.Sends auth mid := by
  intro c unkept authorized
  obtain ⟨outcome, moves, ends⟩ := quiet c
  refine ⟨outcome, 0, [], c, moves, ends, .refl c, ?_, holds outcome⟩
  cases outcome <;> exact fun x inside => absurd inside List.not_mem_nil

end Work

namespace Remote

variable {auth : Option Authorization}

/-- The request of a call. -/
def Calls (auth : Option Authorization) (verb : Verb) (values : Template.Values)
    (reference : String) (body : Option Json) (r : Request) : Prop :=
  ∃ url, target values reference = .ok url ∧ r = ⟨verb, url, auth, none, body⟩

/-- What a call sends: its one request, or nothing when it fails before that. -/
def Once (kind : Request → Prop) : Except ε α → List Exchange → Prop
  | .ok _, xs => ∃ x, xs = [x] ∧ kind x.request
  | .error _, xs => xs = [] ∨ ∃ x, xs = [x] ∧ kind x.request

theorem run_sends {call : String} {step : Client → Except CallError α × Client}
    {post : Except Failure α → List Exchange → Prop}
    (steps : ∀ c : Client, c.pages = none → c.authorization = auth → ∃ sent,
      c.Leads 0 sent (step c).2 ∧ Orderly (step c).1 (exchanges sent c.replies) ∧
        post ((step c).1.mapError (CallError.toFailure call)) (exchanges sent c.replies)) :
    (run call step).Sends auth post := by
  intro c unkept authorized
  obtain ⟨sent, leads, orderly, holds⟩ := steps c unkept authorized
  refine ⟨_, 0, sent, _, [], Work.ends_change rfl, leads, ?_, holds⟩
  cases outcome : (step c).1 with
  | ok value =>
    rw [outcome] at orderly
    exact orderly
  | error f =>
    rw [outcome] at orderly
    exact orderly

theorem counted_sends {post : Except Failure α → List Exchange → Prop} {next : Unit → Work Client α}
    (url : String) (rest : (next ()).Sends auth post) :
    (countCall url >>= next).Sends auth post := by
  intro c unkept authorized
  obtain ⟨outcome, calls, sent, d, moves, ends, leads, others⟩ :=
    rest (called c) unkept authorized
  exact ⟨outcome, _, _, d, _, (countCall_ends c url).bind ends, (called_leads c).trans leads,
    others⟩

/-- What gives a page is an answer that carries it. -/
theorem answered_of_page {c : Client} {r : Request} {page : Page} (unkept : c.pages = none)
    (ok : (c.send r).1 = .ok page) :
    ∃ answer, c.replies.head? = some (.answered answer) ∧ answer.page = .ok page := by
  rw [Client.send_unkept r unkept] at ok
  cases script : c.replies.head? with
  | none =>
    rw [script] at ok
    nomatch ok
  | some reply =>
    rw [script] at ok
    cases reply with
    | answered answer => exact ⟨answer, rfl, ok⟩
    | lost error => nomatch ok
    | failed failure => nomatch ok

/-- An exchange that gives a page went well. -/
theorem goesOn_of_page {c : Client} {r : Request} {page : Page} (unkept : c.pages = none)
    (ok : (c.send r).1 = .ok page) : (⟨r, c.replies.head?⟩ : Exchange).GoesOn := by
  obtain ⟨answer, head, carries⟩ := answered_of_page unkept ok
  exact ⟨answer, head, .inl (Answer.page_ok carries)⟩

/-- An exchange that finds nothing to take off went well. -/
theorem goesOn_of_absent {c : Client} {r : Request} {j : Rejection} (unkept : c.pages = none)
    (rejected : (c.send r).1 = .error (.rejected j)) (absent : j.status = 404)
    (deletes : r.verb = .delete) : (⟨r, c.replies.head?⟩ : Exchange).GoesOn := by
  rw [Client.send_unkept r unkept] at rejected
  cases script : c.replies.head? with
  | none =>
    rw [script] at rejected
    nomatch rejected
  | some reply =>
    rw [script] at rejected
    cases reply with
    | answered answer =>
      exact ⟨answer, rfl, .inr ⟨deletes, (Answer.page_rejected rejected).symm.trans absent⟩⟩
    | lost error => nomatch rejected
    | failed failure => nomatch rejected

/-- Whether a call that was told of tells of an exchange that went well only. -/
def Honors (verb : Verb) (told : Except CallError Json → Except CallError α) : Prop :=
  ∀ outcome value, told outcome = .ok value →
    (∃ data, outcome = .ok data) ∨
      verb = .delete ∧ ∃ j, outcome = .error (.rejected j) ∧ j.status = 404

theorem honors_id (verb : Verb) : Honors verb id :=
  fun _ value ok => .inl ⟨value, ok⟩

theorem honors_removal : Honors .delete removal := by
  intro outcome value ok
  cases outcome with
  | ok data => exact .inl ⟨data, rfl⟩
  | error e =>
    cases e with
    | rejected j =>
      by_cases absent : j.status = 404
      · exact .inr ⟨rfl, j, rfl, absent⟩
      · rw [removal, if_neg absent] at ok
        nomatch ok
    | lost error => nomatch ok
    | failure f => nomatch ok

theorem Honors.goesOn {r : Request} {told : Except CallError Json → Except CallError α}
    (honors : Honors r.verb told) {c : Client} (unkept : c.pages = none) {value : α}
    (ok : told ((c.send r).1.map (·.data)) = .ok value) :
    (⟨r, c.replies.head?⟩ : Exchange).GoesOn := by
  rcases honors _ _ ok with ⟨data, carried⟩ | ⟨deletes, j, rejected, absent⟩
  · cases gives : (c.send r).1 with
    | ok page => exact goesOn_of_page unkept gives
    | error e =>
      rw [gives] at carried
      nomatch carried
  · cases gives : (c.send r).1 with
    | ok page =>
      rw [gives] at rejected
      nomatch rejected
    | error e =>
      rw [gives] at rejected
      obtain rfl := Except.error.inj rejected
      exact goesOn_of_absent unkept gives absent deletes

/-- A call that changes something sends its one request at most, and goes on after an exchange that
went well. -/
theorem change_sends {verb : Verb} {told : Except CallError Json → Except CallError α}
    (honors : Honors verb told) (call : String) (values : Template.Values) (reference : String)
    (body : Option Json) :
    (run call fun c =>
      let (outcome, c) := change verb values reference body c
      (told outcome, c)).Sends auth (Once (Calls auth verb values reference body)) := by
  refine run_sends fun c unkept authorized => ?_
  cases led : target values reference with
  | error f =>
    have stays : change verb values reference body c = (.error (.failure f), c) := by
      rw [change, Client.call, led]
    refine ⟨[], by rw [stays]; exact .refl c, ?_⟩
    rw [stays]
    dsimp only
    cases outcome : told (.error (.failure f)) with
    | ok value =>
      rcases honors _ _ outcome with ⟨data, same⟩ | ⟨-, j, same, -⟩
      · cases same
      · cases same
    | error e => exact ⟨fun x inside => absurd inside List.not_mem_nil, .inl rfl⟩
  | ok url =>
    have sends : change verb values reference body c =
        ((c.send ⟨verb, url, auth, none, body⟩).1.map (·.data),
          (c.send ⟨verb, url, auth, none, body⟩).2) := by
      rw [change, Client.call_eq c verb led, authorized]
    have request : Calls auth verb values reference body ⟨verb, url, auth, none, body⟩ :=
      ⟨url, led, rfl⟩
    refine ⟨[⟨verb, url, auth, none, body⟩], ?_⟩
    rw [sends]
    dsimp only
    refine ⟨Client.send_leads c _, ?_⟩
    cases outcome : told ((c.send ⟨verb, url, auth, none, body⟩).1.map (·.data)) with
    | error e => exact ⟨fun x inside => absurd inside List.not_mem_nil, .inr ⟨_, rfl, request⟩⟩
    | ok value =>
      refine ⟨fun x inside => ?_, _, rfl, request⟩
      obtain rfl := List.mem_singleton.1 inside
      exact honors.goesOn unkept outcome

/-- Requests for a page and for the pages after it, each of which the page before it named. -/
inductive Pages (auth : Option Authorization) : String → List Exchange → Prop
  | none (reference : String) : Pages auth reference []
  | last {reference url : String} (led : target [] reference = .ok url) (reply? : Option Reply) :
    Pages auth reference [⟨⟨.get, url, auth, Option.none, Option.none⟩, reply?⟩]
  | next {reference url next : String} (led : target [] reference = .ok url) {answer : Answer}
    {page : Page} (carries : answer.page = .ok page) (names : page.next = some next)
    {rest : List Exchange} (later : Pages auth next rest) :
    Pages auth reference
      (⟨⟨.get, url, auth, Option.none, Option.none⟩, some (.answered answer)⟩ :: rest)

theorem Pages.gets {reference : String} {xs : List Exchange} (pages : Pages auth reference xs) :
    ∀ x ∈ xs, x.request.verb = .get := by
  induction pages with
  | none => exact fun x inside => absurd inside List.not_mem_nil
  | last led reply? =>
    intro x inside
    obtain rfl := List.mem_singleton.1 inside
    rfl
  | next led carries names later ih =>
    intro x inside
    rcases List.mem_cons.1 inside with rfl | later
    · rfl
    · exact ih x later

/-- A client that keeps no pages asks for a page with its authorization and no more. -/
theorem pageRequest_unkept {c : Client} (unkept : c.pages = none)
    (authorized : c.authorization = auth) (url : String) :
    c.pageRequest url = ⟨.get, url, auth, none, none⟩ := by
  simp [Client.pageRequest, Client.kept?, unkept, authorized]

/-- The exchange for one page. -/
theorem pages_of_request {reference url : String} (led : target [] reference = .ok url) {c : Client}
    (unkept : c.pages = none) (authorized : c.authorization = auth) :
    Pages auth reference (exchanges [c.pageRequest url] c.replies) := by
  rw [pageRequest_unkept unkept authorized]
  exact .last led _

/-- A page that the client got used up a reply. -/
theorem fewer_replies {c d : Client} {calls : Nat} {r : Request} {reply : Reply}
    (leads : c.Leads calls [r] d) (head : c.replies.head? = some reply) :
    d.replies.length < c.replies.length := by
  rw [leads.replies, List.length_drop]
  exact Nat.sub_lt (List.length_pos_iff.2 fun none => by simp [none] at head) Nat.one_pos

/-- A scan asks for pages in their order and stops at the first that does not go well. -/
theorem scan_pages (visit : β → Json → Except Failure (Client.Visit β)) (reference : String)
    (state : β) {c : Client} (unkept : c.pages = none) (authorized : c.authorization = auth) :
    ∃ sent, c.Leads 0 sent (Client.scan visit reference state c).2 ∧
      Orderly (Client.scan visit reference state c).1 (exchanges sent c.replies) ∧
      Pages auth reference (exchanges sent c.replies) := by
  induction left : c.replies.length using Nat.strongRecOn generalizing c reference state with
  | ind n ih =>
  rw [Client.scan_eq]
  cases led : target [] reference with
  | error f => exact ⟨[], .refl c, fun x inside => absurd inside List.not_mem_nil, .none _⟩
  | ok url =>
    have leads := Client.send_leads c (c.pageRequest url)
    have alone := pages_of_request led unkept authorized
    have noneBefore : ∀ x ∈ (exchanges [c.pageRequest url] c.replies).dropLast, x.GoesOn :=
      fun x inside => absurd inside List.not_mem_nil
    dsimp only
    cases gives : c.send (c.pageRequest url) with
    | mk outcome d =>
    rw [gives] at leads
    cases outcome with
    | error e => exact ⟨_, leads, noneBefore, alone⟩
    | ok page =>
      have ok : (c.send (c.pageRequest url)).1 = .ok page := by rw [gives]
      have goes : ∀ x ∈ exchanges [c.pageRequest url] c.replies, x.GoesOn := by
        intro x inside
        obtain rfl := List.mem_singleton.1 inside
        exact goesOn_of_page unkept ok
      dsimp only
      cases page.items.bind (Client.visitAll visit state) with
      | error f => exact ⟨_, leads, noneBefore, alone⟩
      | ok visited =>
        cases visited with
        | stop state => exact ⟨_, leads, goes, alone⟩
        | proceed state =>
          dsimp only
          cases names : page.next with
          | none => exact ⟨_, leads, goes, alone⟩
          | some next =>
            obtain ⟨answer, head, carries⟩ := answered_of_page unkept ok
            have fewer : d.replies.length < n := left ▸ fewer_replies leads head
            obtain ⟨sent, leads', orderly, later⟩ := ih _ fewer next state (leads.pages unkept)
              (leads.authorization.trans authorized) rfl
            rw [leads.replies, List.length_singleton, List.drop_one] at orderly later
            dsimp only
            refine ⟨_ :: sent, leads.trans leads', ?_, ?_⟩
            · exact orderly_append goes orderly
            · rw [exchanges, head, pageRequest_unkept unkept authorized]
              exact .next led carries names later

theorem labels_sends (issue : IssueRef) :
    (labels issue).Sends auth fun _ xs => Pages auth (labelsUrl issue) xs := by
  rw [labels]
  refine counted_sends _ (.after (Work.ends_log · _ _) ?_)
  exact run_sends fun c unkept authorized => scan_pages _ _ _ unkept authorized

abbrev Adds (auth : Option Authorization) (issue : IssueRef) (names : List String) :
    Request → Prop :=
  Calls auth .post [] (labelsUrl issue) (some (labelsBody names))

abbrev Removes (auth : Option Authorization) (issue : IssueRef) (name : String) :
    Request → Prop :=
  Calls auth .delete [("name".toList, name.toList)] (labelReference issue) none

abbrev Posts (auth : Option Authorization) (issue : IssueRef) (body : String) : Request → Prop :=
  Calls auth .post [] (commentsUrl issue) (some (commentBody body))

variable {kind : Request → Prop}

/-- After its one request work may fail for other reasons, if it sends no more. -/
theorem once_then {work : Work Client α} {next : α → Work Client β}
    (first : work.Sends auth (Once kind)) (quiet : ∀ value, (next value).Quiet) :
    (work >>= next).Sends auth (Once kind) := by
  refine first.bind (fun f xs holds => holds) fun value xs holds => ?_
  refine (quiet value).sends fun outcome => ?_
  rw [List.append_nil]
  cases outcome with
  | ok value => exact holds
  | error f => exact .inr holds

theorem addLabels_sends (issue : IssueRef) (names : List String) :
    (ops.addLabels issue names).Sends auth (Once (Adds auth issue names)) := by
  refine once_then ?_ fun _ => Work.quiet_pure _
  refine counted_sends _ (.after (Work.ends_log · _ _) ?_)
  refine once_then (change_sends (honors_id .post) _ _ _ _) fun data => ?_
  exact (Work.quiet_ofExcept _).bind fun items => Work.quiet_ofExcept _

theorem removeLabel_sends (issue : IssueRef) (name : String) :
    (ops.removeLabel issue name).Sends auth (Once (Removes auth issue name)) := by
  refine counted_sends _ (.after (Work.ends_log · _ _) ?_)
  refine once_then (change_sends honors_removal _ _ _ _) fun attached => ?_
  cases attached with
  | true => exact Work.quiet_pure true
  | false => exact (Work.quiet_log _ _).bind fun _ => Work.quiet_pure false

theorem postComment_sends (issue : IssueRef) (body : String) :
    (ops.postComment issue body).Sends auth (Once (Posts auth issue body)) := by
  refine counted_sends _ (.after (Work.ends_log · _ _) ?_)
  exact once_then (change_sends (honors_id .post) _ _ _ _) fun data => Work.quiet_ofExcept _

end Remote

end SuiteTrigger
