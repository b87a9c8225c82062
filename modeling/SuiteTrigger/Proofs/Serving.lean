import SuiteTrigger.Proofs.HonestHost

namespace SuiteTrigger

open Http

/-- The counters that count no calls. -/
def Counter.others (moves : List Counter) : List Counter := moves.filter fun move => !move.isCall

theorem Counter.others_append (first second : List Counter) :
    others (first ++ second) = others first ++ others second := List.filter_append ..

namespace Http.Client

def fed (c : Client) (replies : List Reply) : Client := { c with replies }

@[simp] theorem authorization_fed (c : Client) (replies : List Reply) :
    (c.fed replies).authorization = c.authorization := rfl

theorem keep_fed (c : Client) (url : String) (headers : Headers) (page : Page)
    (rest : List Reply) :
    (c.fed rest).keep url headers page = (c.keep url headers page).fed rest := by
  rw [keep, keep]
  split <;> rfl

/-- What becomes of a reply does not depend on those after it. -/
theorem receive_fed (c : Client) (r : Request) (reply : Reply) (rest : List Reply) :
    (c.fed rest).receive r reply = ((c.receive r reply).1, (c.receive r reply).2.fed rest) := by
  have recorded : (c.fed rest).record r = (c.record r).fed rest := rfl
  have kept (d : Client) (url : String) : (d.fed rest).kept? url = d.kept? url := rfl
  unfold receive
  rw [recorded]
  cases reply with
  | lost error => rfl
  | failed failure => rfl
  | answered answer =>
    dsimp only
    rw [kept]
    split
    · rfl
    · cases answer.page with
      | error e => rfl
      | ok page =>
        dsimp only
        rw [keep_fed]
        split <;> rfl

theorem send_fed (c : Client) (r : Request) (reply : Reply) (rest : List Reply) :
    (c.fed (reply :: rest)).send r = ((c.receive r reply).1, (c.receive r reply).2.fed rest) :=
  receive_fed c r reply rest

end Http.Client

namespace Host

variable {S α β : Type} {host : Host S} {s : S}

/-- Whatever the client, a step of it that takes the answers of the host gives a value and ends in a
state as asked for. -/
def Answers (host : Host S) (s : S) (step : Client → Except CallError α × Client)
    (post : α → S → Prop) : Prop :=
  ∀ c : Client, ∃ (sent : List Request) (value : α) (d : Client),
    (∀ rest, step (c.fed (host.answers s sent ++ rest)) = (.ok value, d.fed rest)) ∧
    d.requests = c.requests ++ sent ∧ d.callCount = c.callCount ∧ post value (host.after s sent)

variable {r : Request} {answer : Answer} {s' : S}

theorem after_one (answered : host.answer s r = (answer, s')) : host.after s [r] = s' :=
  congrArg Prod.snd answered

/-- A request takes the answer of the host. -/
theorem send_answered (answered : host.answer s r = (answer, s')) (new : answer.status ≠ 304)
    (c : Client) :
    ∃ d : Client,
      (∀ rest, (c.fed (host.answers s [r] ++ rest)).send r = (answer.page, d.fed rest)) ∧
      d.requests = c.requests ++ [r] ∧ d.callCount = c.callCount := by
  obtain ⟨pages, received, -⟩ := c.receive_client r (.answered answer)
  have page : (c.receive r (.answered answer)).1 = answer.page := by
    refine Client.receive_page c r (.inr ?_)
    rintro _ ⟨⟩
    exact new
  have replies : host.answers s [r] = [.answered answer] := by
    rw [answers, answered]
    rfl
  refine ⟨(c.receive r (.answered answer)).2, fun rest => ?_, ?_, ?_⟩
  · rw [← page, replies]
    exact Client.send_fed c r _ rest
  · rw [received]
    rfl
  · rw [received]
    rfl

/-- A call that changes something takes the answer of the host to its one request. -/
theorem change_answers {verb : Verb} {values : Template.Values} {reference url : String}
    {body : Option Json} (led : target values reference = .ok url)
    (told : Except CallError Json → Except CallError α) {post : α → S → Prop}
    (answered : ∀ authorization answer s',
      host.answer s ⟨verb, url, authorization, none, body⟩ = (answer, s') →
        answer.status ≠ 304 ∧ ∃ value, told (answer.page.map (·.data)) = .ok value ∧
          post value s') :
    host.Answers s (fun c =>
      let (outcome, c) := Remote.change verb values reference body c
      (told outcome, c)) post := by
  intro c
  cases answers : host.answer s ⟨verb, url, c.authorization, none, body⟩ with
  | mk answer s' =>
    obtain ⟨new, value, gives, holds⟩ := answered _ _ _ answers
    obtain ⟨d, sends, requests, callCount⟩ := send_answered answers new c
    refine ⟨_, value, d, fun rest => ?_, requests, callCount, by rwa [after_one answers]⟩
    have changes : Remote.change verb values reference body
        (c.fed (host.answers s [⟨verb, url, c.authorization, none, body⟩] ++ rest)) =
          (answer.page.map (·.data), d.fed rest) := by
      rw [Remote.change, Client.call_eq _ verb led, Client.authorization_fed, sends]
    dsimp only
    rw [changes]
    dsimp only
    rw [gives]

/-- A visit of the value that an item is read as. -/
def visiting (read : Json → Except Refusal α) (visit : β → α → Client.Visit β) (state : β)
    (item : Json) : Except Failure (Client.Visit β) :=
  (Remote.checked (read item)).map (visit state)

/-- Goes through values until a visit stops. -/
def visitValues (visit : β → α → Client.Visit β) : β → List α → Client.Visit β
  | state, [] => .proceed state
  | state, value :: values =>
    match visit state value with
    | .stop state => .stop state
    | .proceed state => visitValues visit state values

def left : Client.Visit β → β
  | .proceed state => state
  | .stop state => state

theorem visitValues_append (visit : β → α → Client.Visit β) (state : β) (first rest : List α) :
    visitValues visit state (first ++ rest) =
      match visitValues visit state first with
      | .stop state => .stop state
      | .proceed state => visitValues visit state rest := by
  induction first generalizing state with
  | nil => rfl
  | cons value first ih =>
    rw [List.cons_append, visitValues, visitValues]
    cases visit state value with
    | stop state => rfl
    | proceed state => exact ih state

theorem mapM_cons_ok {ε : Type} {read : Json → Except ε α} {item : Json} {items : List Json}
    {values : List α} (reads : (item :: items).mapM read = .ok values) :
    ∃ value others, read item = .ok value ∧ items.mapM read = .ok others ∧
      values = value :: others := by
  rw [List.mapM_cons] at reads
  cases first : read item with
  | error refusal =>
    rw [first] at reads
    nomatch reads
  | ok value =>
    cases rest : items.mapM read with
    | error refusal =>
      rw [first, rest] at reads
      nomatch reads
    | ok others =>
      rw [first, rest] at reads
      cases reads
      exact ⟨value, others, rfl, rfl, rfl⟩

theorem visitAll_eq {read : Json → Except Refusal α} (visit : β → α → Client.Visit β)
    (state : β) {items : List Json} {values : List α} (reads : items.mapM read = .ok values) :
    Client.visitAll (visiting read visit) state items = .ok (visitValues visit state values) := by
  induction items generalizing state values with
  | nil =>
    cases reads
    rfl
  | cons item items ih =>
    obtain ⟨value, others, first, rest, rfl⟩ := mapM_cons_ok reads
    rw [Client.visitAll, visiting, first, visitValues]
    dsimp only [Remote.checked, Except.map]
    cases visit state value with
    | stop state => rfl
    | proceed state => exact ih state rest

/-- A scan visits the values on the first page before it asks for the page after it. -/
theorem scan_begins {read : Json → Except Refusal α} {reference url : String} {c d : Client}
    {page : Page} {items : List Json} {first : List α} (led : target [] reference = .ok url)
    (sends : c.send (c.pageRequest url) = (.ok page, d)) (holds : page.items = .ok items)
    (reads : items.mapM read = .ok first) (visit : β → α → Client.Visit β) (state : β) :
    Client.scan (visiting read visit) reference state c =
      match visitValues visit state first, page.next with
      | .stop state, _ => (.ok state, d)
      | .proceed state, none => (.ok state, d)
      | .proceed state, some next => Client.scan (visiting read visit) next state d := by
  rw [Client.scan_eq, led]
  dsimp only
  rw [sends]
  dsimp only
  rw [holds]
  dsimp only [Except.bind]
  rw [visitAll_eq visit state reads]
  cases visitValues visit state first with
  | stop state => rfl
  | proceed state => cases page.next <;> rfl

/-- A scan of pages that a host lists goes through the values up to the first stop. -/
theorem Lists.scan {read : Json → Except Refusal α} {pages : Nat} {reference url : String}
    {values : List α} (lists : host.Lists read pages s url values)
    (led : target [] reference = .ok url) (visit : β → α → Client.Visit β) (state : β) :
    host.Answers s (Client.scan (visiting read visit) reference state) fun value s' =>
      value = left (visitValues visit state values) ∧ host.Keeps s s' := by
  induction pages generalizing s reference url values state with
  | zero => exact lists.elim
  | succ pages ih =>
    intro c
    cases answers : host.answer s (c.pageRequest url) with
    | mk answer s' =>
      obtain ⟨ok, kept, page, items, first, rest, carries, holds, reads, rfl, later⟩ :=
        lists _ _ _ _ answers
      obtain ⟨d, sends, requests, callCount⟩ := send_answered answers (by rw [ok]; decide) c
      have state' := after_one answers
      have begins (more : List Reply) := scan_begins led ((sends more).trans (by rw [carries]))
        holds reads visit state
      rw [visitValues_append]
      cases stops : visitValues visit state first with
      | stop state =>
        refine ⟨_, state, d, fun more => ?_, requests, callCount, rfl, by rwa [state']⟩
        rw [begins, stops]
      | proceed state =>
        cases names : page.next with
        | none =>
          rw [names] at later
          refine ⟨_, state, d, fun more => ?_, requests, callCount, ?_, by rwa [state']⟩
          · rw [begins, stops, names]
          · rw [later]
            rfl
        | some next =>
          rw [names] at later
          obtain ⟨url', led', lists'⟩ := later
          obtain ⟨sent, value, e, scans, requests', callCount', gives, kept'⟩ :=
            ih lists' led' state d
          refine ⟨[c.pageRequest url] ++ sent, value, e, fun more => ?_, ?_, ?_, gives, ?_⟩
          · rw [answers_append, List.append_assoc, begins, stops, names, state']
            exact scans more
          · rw [requests', requests, List.append_assoc]
          · rw [callCount', callCount]
          · rw [after_append, state']
            exact kept.trans kept'

def gather (found : List α) (value : α) : Client.Visit (List α) := .proceed (found ++ [value])

/-- The visit that stops at the first value that is wanted. -/
def find (wanted : α → Bool) (_ : Bool) (value : α) : Client.Visit Bool :=
  if wanted value then .stop true else .proceed false

theorem gather_proceeds (found values : List α) :
    visitValues gather found values = .proceed (found ++ values) := by
  induction values generalizing found with
  | nil => rw [visitValues, List.append_nil]
  | cons value values ih =>
    rw [visitValues, gather]
    exact (ih (found ++ [value])).trans
      (congrArg Client.Visit.proceed (List.append_assoc found [value] values))

theorem visitValues_gather (found values : List α) :
    left (visitValues gather found values) = found ++ values :=
  congrArg left (gather_proceeds found values)

theorem visitValues_find (wanted : α → Bool) (values : List α) :
    left (visitValues (find wanted) false values) = values.any wanted := by
  induction values with
  | nil => rfl
  | cons value values ih =>
    rw [visitValues, find, List.any_cons]
    cases wanted value with
    | true => rfl
    | false => exact ih

/-- All values on pages that a host lists. -/
theorem Lists.collect {read : Json → Except Refusal α} {pages : Nat} {reference url : String}
    {values : List α} (lists : host.Lists read pages s url values)
    (led : target [] reference = .ok url) :
    host.Answers s (Client.scan (Remote.collect read) reference []) fun found s' =>
      found = values ∧ host.Keeps s s' := by
  have scanned := lists.scan led gather []
  rwa [visitValues_gather, List.nil_append] at scanned

/-- Whether some value on pages that a host lists is wanted. -/
theorem Lists.seek {read : Json → Except Refusal α} {pages : Nat} {reference url : String}
    {values : List α} (lists : host.Lists read pages s url values)
    (led : target [] reference = .ok url) (wanted : α → Bool) :
    host.Answers s (Client.scan (Remote.seek read wanted) reference false) fun found s' =>
      found = values.any wanted ∧ host.Keeps s s' := by
  have scanned := lists.scan led (find wanted) false
  rwa [visitValues_find] at scanned

/-- Whatever the client, the work succeeds when it takes the answers of the host. It makes so many
calls and moves these counters besides, and its value and the state it ends in are as asked for. -/
def Serves (host : Host S) (s : S) (work : Work Client α) (calls : Nat) (others : List Counter)
    (post : α → S → Prop) : Prop :=
  ∀ c : Client, ∃ (sent : List Request) (value : α) (d : Client) (moves : List Counter),
    (∀ rest, work.Ends (c.fed (host.answers s sent ++ rest)) ⟨.ok value, d.fed rest, moves⟩) ∧
    d.requests = c.requests ++ sent ∧ d.callCount = c.callCount + calls ∧
    Counter.others moves = others ∧ post value (host.after s sent)

namespace Serves

variable {work : Work Client α} {next : α → Work Client β} {calls more : Nat}
  {others later : List Counter} {mid : α → S → Prop} {post : β → S → Prop}

theorem of_ends {value : α} {moves : List Counter}
    (ends : ∀ c, work.Ends c ⟨.ok value, c, moves⟩) (holds : mid value s) :
    host.Serves s work 0 (Counter.others moves) mid :=
  fun c => ⟨[], value, c, moves, fun rest => ends (c.fed rest), (List.append_nil _).symm, rfl, rfl,
    holds⟩

theorem bind (first : host.Serves s work calls others mid)
    (rest : ∀ value s', mid value s' → host.Serves s' (next value) more later post) :
    host.Serves s (work >>= next) (calls + more) (others ++ later) post := by
  intro c
  obtain ⟨sent, value, d, moves, ends, requests, callCount, besides, holds⟩ := first c
  obtain ⟨sent', result, e, moves', ends', requests', callCount', besides', holds'⟩ :=
    rest value _ holds d
  refine ⟨sent ++ sent', result, e, moves ++ moves', fun left => ?_, ?_, ?_, ?_, ?_⟩
  · rw [answers_append, List.append_assoc]
    exact (ends _).bind (ends' left)
  · rw [requests', requests, List.append_assoc]
  · rw [callCount', callCount, Nat.add_assoc]
  · rw [Counter.others_append, besides, besides']
  · rwa [after_append]

theorem silently {value : α} (silent : ∀ c, work.Ends c ⟨.ok value, c, []⟩)
    (rest : host.Serves s (next value) more later post) :
    host.Serves s (work >>= next) more later post := by
  intro c
  obtain ⟨sent, result, d, moves, ends, others⟩ := rest c
  exact ⟨sent, result, d, moves, fun left => (silent _).andThen (ends left), others⟩

theorem andThen (first : host.Serves s work calls others mid)
    (silent : ∀ a s', mid a s' → ∃ b, (∀ c, (next a).Ends c ⟨.ok b, c, []⟩) ∧ post b s') :
    host.Serves s (work >>= next) calls others post := by
  intro c
  obtain ⟨sent, value, d, moves, ends, requests, callCount, besides, holds⟩ := first c
  obtain ⟨result, passes, holds'⟩ := silent _ _ holds
  exact ⟨sent, result, d, moves, fun left => (ends left).onward (passes _), requests, callCount,
    besides, holds'⟩

theorem weaken {post : α → S → Prop} (serves : host.Serves s work calls others mid)
    (implies : ∀ value s', mid value s' → post value s') :
    host.Serves s work calls others post := by
  intro c
  obtain ⟨sent, value, d, moves, ends, requests, callCount, besides, holds⟩ := serves c
  exact ⟨sent, value, d, moves, ends, requests, callCount, besides, implies _ _ holds⟩

theorem attempt (serves : host.Serves s work calls others mid) :
    host.Serves s work.attempt calls others fun outcome s' =>
      ∃ value, outcome = .ok value ∧ mid value s' := by
  intro c
  obtain ⟨sent, value, d, moves, ends, requests, callCount, besides, holds⟩ := serves c
  exact ⟨sent, .ok value, d, moves, fun rest => (ends rest).attempt, requests, callCount, besides,
    value, rfl, holds⟩

theorem counted {url : String} {next : Unit → Work Client β}
    (rest : host.Serves s (next ()) calls others post) :
    host.Serves s (Remote.countCall url >>= next) (calls + 1) others post := by
  intro c
  obtain ⟨sent, value, d, moves, ends, requests, callCount, besides, holds⟩ :=
    rest (Remote.called c)
  refine ⟨sent, value, d, _, fun left => (Remote.countCall_ends _ url).bind (ends left), requests,
    ?_, ?_, holds⟩
  · rw [callCount]
    exact Nat.add_right_comm c.callCount 1 calls
  · rw [Counter.others_append, besides]
    rfl

end Serves

/-- A step of the client as it appears in work. -/
theorem Answers.serves {step : Client → Except CallError α × Client} {post : α → S → Prop}
    (answered : host.Answers s step post) (call : String) :
    host.Serves s (Remote.run call step) 0 [] post := by
  intro c
  obtain ⟨sent, value, d, gives, requests, callCount, holds⟩ := answered c
  refine ⟨sent, value, d, [], fun rest => Work.ends_change ?_, requests, callCount, rfl, holds⟩
  rw [gives]
  rfl

end Host

end SuiteTrigger
