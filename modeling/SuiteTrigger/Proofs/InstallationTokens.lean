import SuiteTrigger.Proofs.Exchanges
import SuiteTrigger.Proofs.TokenAddresses

/-!
# Tokens of installations

The first token that is obtained for the text of an id is given to all later calls for an id of that
text, and nothing is sent for it again. Until then every call asks for a token once more, and a call
that obtains none leaves no trace but the reply that it took (`token_runs`). Nothing is sent for an
id whose text makes a template that cannot be filled in (`unsendable_id`).
-/

namespace SuiteTrigger

namespace Http

theorem Client.receive_other {r : Request} (other : r.verb ≠ .get) (c : Client) (reply : Reply) :
    c.receive r reply = (reply.page, c.record r) := by
  cases reply with
  | lost error => rfl
  | failed failure => rfl
  | answered answer =>
    simp only [receive, if_neg other, Reply.page]
    cases answer.page <;> rfl

/-- Whatever pages are kept, such a request gets what the next reply carries. -/
theorem Client.send_other {r : Request} (other : r.verb ≠ .get) (c : Client) :
    c.send r = ((c.replies.head?.map Reply.page).getD (.error silence),
      { c.record r with replies := c.replies.tail }) := by
  cases script : c.replies with
  | nil =>
    rw [send, script]
    exact Prod.ext rfl (by simp [record, script])
  | cons reply replies =>
    rw [send, script]
    exact receive_other other _ _

end Http

namespace Installation

open Http

def callName (id : Json) : String := "installation token for " ++ id.text

def tokenRequest (url : String) : Request := ⟨.post, url, some .application, none, none⟩

/-- What a reply to the request for a token gives. -/
def granted (id : Json) (reply? : Option Reply) : Except Failure Json :=
  ((((reply?.map Reply.page).getD (.error Client.silence)).map (·.data)).mapError
    (CallError.toFailure (callName id))).bind tokenOf

/-- The token in an outcome. Null is no token. -/
def tokenIn? : Except Failure Json → Option Json
  | .ok token => if token = .null then none else some token
  | .error _ => none

theorem eq_of_tokenIn {outcome : Except Failure Json} {token : Json}
    (some : tokenIn? outcome = some token) : outcome = .ok token := by
  cases outcome with
  | error failure => nomatch some
  | ok value =>
    rw [tokenIn?] at some
    split at some
    · nomatch some
    · rw [Option.some.inj some]

/-- The client with the token that a call obtained. -/
def keepToken (id : Json) (outcome : Except Failure Json) (c : Client) : Client :=
  { c with tokens := c.tokens ++ ((tokenIn? outcome).map fun token => (id.text, token)).toList }

theorem keepToken_none {outcome : Except Failure Json} (none : tokenIn? outcome = none) (id : Json)
    (c : Client) : keepToken id outcome c = c := by
  rw [keepToken, none, Option.map_none, Option.toList_none, List.append_nil]

theorem tokenIn_null : tokenIn? (.ok .null) = none := by
  rw [tokenIn?, if_pos rfl]

/-- What a call comes to that asks for a new token at an address, if there is one, and the client
that it leaves. -/
def fetched (id : Json) (led : Except Failure String) (c : Client) :
    Except Failure Json × Client :=
  match led with
  | .error failure => (.error failure, c)
  | .ok url =>
    (granted id c.replies.head?,
      { c.record (tokenRequest url) with replies := c.replies.tail })

theorem fetchToken_ends (id : Json) (c : Client) :
    (fetchToken id).Ends c ⟨(fetched id (target [] (tokenReference id)) c).1,
      (fetched id (target [] (tokenReference id)) c).2,
      [.apiCall (Endpoint.ofUrl tokenUrl)]⟩ := by
  have ran : (Remote.run (callName id) fun c =>
      c.call .post [] (tokenReference id) (some .application) none).Ends c
        ⟨(c.call .post [] (tokenReference id) (some .application) none).1.mapError
            (CallError.toFailure (callName id)),
          (c.call .post [] (tokenReference id) (some .application) none).2, []⟩ :=
    Work.ends_change rfl
  have ends := ran.check tokenOf
  refine (Work.ends_log _ _ _).andThen ((Work.ends_count _ _).bind ?_)
  cases led : target [] (tokenReference id) with
  | error failure =>
    have stopped : c.call .post [] (tokenReference id) (some .application) none =
        (.error (.failure failure), c) := by rw [Client.call, led]
    rw [stopped] at ends
    exact ends
  | ok url =>
    have posts : (tokenRequest url).verb ≠ .get := by
      show Verb.post ≠ .get
      decide
    have sent : c.call .post [] (tokenReference id) (some .application) none =
        (((c.replies.head?.map Reply.page).getD (.error Client.silence)).map (·.data),
          { c.record (tokenRequest url) with replies := c.replies.tail }) := by
      rw [Client.call_eq c .post led]
      exact congrArg (fun sent => (sent.1.map (·.data), sent.2)) (Client.send_other posts c)
    rw [sent] at ends
    exact ends

/-- What a call for a token comes to. -/
def tokenEnding (id : Json) (c : Client) : Ending Client Json :=
  match c.tokens.lookup id.text with
  | some token => ⟨.ok token, c, []⟩
  | none =>
    let (outcome, d) := fetched id (target [] (tokenReference id)) c
    ⟨outcome, keepToken id outcome d, [.apiCall (Endpoint.ofUrl tokenUrl)]⟩

theorem token_ends (id : Json) (c : Client) : (token id).Ends c (tokenEnding id c) := by
  unfold token tokenEnding
  refine (Work.ends_platform c).andThen ?_
  cases c.tokens.lookup id.text with
  | some token => exact Work.ends_pure c token
  | none =>
    have ends := fetchToken_ends id c
    generalize fetched id (target [] (tokenReference id)) c = came at ends
    obtain ⟨outcome, d⟩ := came
    dsimp only
    cases outcome with
    | error failure =>
      rw [keepToken_none rfl]
      exact ends.stop
    | ok token =>
      refine ends.bind ?_
      by_cases null : token = .null
      · rw [if_pos null, null, keepToken_none tokenIn_null]
        exact Work.ends_pure _ _
      · rw [if_neg null, keepToken, tokenIn?, if_neg null]
        exact Work.ends_change rfl

/-- What is seen of a call for a token: what it came to and the requests that it sent. -/
structure TokenCall where
  id : Json
  outcome : Except Failure Json
  sent : List Request

/-- The token that a call obtained. -/
def TokenCall.obtained? (call : TokenCall) : Option Json := tokenIn? call.outcome

def leaves (id : Json) (c : Client) : Client := ((token id).on ⟨c, .empty⟩).2.platform

def ask (id : Json) (c : Client) : TokenCall :=
  ⟨id, ((token id).on ⟨c, .empty⟩).1, (leaves id c).requests.drop c.requests.length⟩

/-- The client that calls leave which are made one after another. -/
def leavesAll (ids : List Json) (c : Client) : Client := ids.foldl (fun c id => leaves id c) c

def trace : List Json → Client → List TokenCall
  | [], _ => []
  | id :: ids, c => ask id c :: trace ids (leaves id c)

/-- The first token that one of the calls obtained for an id of this text. -/
def firstToken? (text : String) (calls : List TokenCall) : Option Json :=
  calls.findSome? fun call => if call.id.text = text then call.obtained? else none

section Runs

variable {id : Json} {c c' : Client} {text : String}

theorem leaves_eq (id : Json) (c : Client) : leaves id c = (tokenEnding id c).platform :=
  (token_ends id c).on_eq.2.1

theorem ask_eq (id : Json) (c : Client) :
    ask id c = ⟨id, (tokenEnding id c).outcome,
      (tokenEnding id c).platform.requests.drop c.requests.length⟩ := by
  rw [ask, leaves_eq, (token_ends id c).on_eq.1]

theorem ask_known {token : Json} (known : c.tokens.lookup id.text = some token) :
    ask id c = ⟨id, .ok token, []⟩ ∧ leaves id c = c := by
  rw [ask_eq, leaves_eq, tokenEnding, known]
  exact ⟨by rw [List.drop_length], rfl⟩

/-- Nothing is sent when no address can be made of the id. -/
theorem ask_unsent {failure : Failure} (unknown : c.tokens.lookup id.text = none)
    (unsent : target [] (tokenReference id) = .error failure) :
    ask id c = ⟨id, .error failure, []⟩ ∧ leaves id c = c := by
  rw [ask_eq, leaves_eq, tokenEnding, unknown, unsent]
  dsimp only [fetched]
  rw [keepToken_none rfl, List.drop_length]
  exact ⟨rfl, rfl⟩

/-- One request is sent, and its reply decides the outcome. -/
theorem ask_sent {url : String} (unknown : c.tokens.lookup id.text = none)
    (led : target [] (tokenReference id) = .ok url) :
    ask id c = ⟨id, granted id c.replies.head?, [tokenRequest url]⟩ ∧
      leaves id c = keepToken id (granted id c.replies.head?)
        { c.record (tokenRequest url) with replies := c.replies.tail } := by
  rw [ask_eq, leaves_eq, tokenEnding, unknown, led]
  refine ⟨?_, rfl⟩
  dsimp only [fetched, keepToken, Client.record]
  rw [List.drop_left]

/-- A call keeps the token that it obtained, unless one is kept already. -/
theorem tokens_leaves (unknown : c.tokens.lookup id.text = none) :
    (leaves id c).tokens =
      c.tokens ++ ((ask id c).obtained?.map fun token => (id.text, token)).toList := by
  cases led : target [] (tokenReference id) with
  | error failure =>
    obtain ⟨asked, left⟩ := ask_unsent unknown led
    rw [asked, left, TokenCall.obtained?, tokenIn?, Option.map_none, Option.toList_none,
      List.append_nil]
  | ok url =>
    obtain ⟨asked, left⟩ := ask_sent unknown led
    rw [asked, left]
    rfl

/-- What is kept under a text after a call: what was kept before, or what the call obtained. -/
theorem lookup_leaves (id : Json) (c : Client) (text : String) :
    (leaves id c).tokens.lookup text =
      (c.tokens.lookup text).or (if id.text = text then (ask id c).obtained? else none) := by
  cases known : c.tokens.lookup id.text with
  | some token =>
    rw [(ask_known known).2]
    by_cases same : id.text = text
    · rw [← same, known, Option.some_or]
    · rw [if_neg same, Option.or_none]
  | none =>
    rw [tokens_leaves known, List.lookup_append]
    cases (ask id c).obtained? with
    | none => rw [ite_self]; rfl
    | some token =>
      rw [Option.map_some, Option.toList_some, List.lookup_cons]
      by_cases same : id.text = text
      · rw [if_pos same, same, beq_self_eq_true]
      · rw [if_neg same, beq_false_of_ne (Ne.symm same)]
        rfl

/-- What is kept under a text after a run of calls is the first token that one of them obtained. -/
theorem lookup_leavesAll (ids : List Json) (c : Client) (text : String) :
    (leavesAll ids c).tokens.lookup text =
      (c.tokens.lookup text).or (firstToken? text (trace ids c)) := by
  induction ids generalizing c with
  | nil => exact (Option.or_none).symm
  | cons id ids ih =>
    have first : (ask id c).id = id := rfl
    have rest : firstToken? text (ask id c :: trace ids (leaves id c)) =
        (if id.text = text then (ask id c).obtained? else none).or
          (firstToken? text (trace ids (leaves id c))) := by
      rw [firstToken?, List.findSome?_cons, first]
      cases (if id.text = text then (ask id c).obtained? else none) <;> rfl
    rw [trace, rest, ← Option.or_assoc, ← lookup_leaves]
    exact ih (leaves id c)

/-- What a call comes to depends on the tokens that are kept and the replies to come. -/
theorem ask_congr (id : Json) (tokens : c.tokens = c'.tokens) (replies : c.replies = c'.replies) :
    ask id c = ask id c' ∧ (leaves id c).tokens = (leaves id c').tokens ∧
      (leaves id c).replies = (leaves id c').replies := by
  cases known : c.tokens.lookup id.text with
  | some token =>
    obtain ⟨asked, left⟩ := ask_known known
    obtain ⟨asked', left'⟩ := ask_known (tokens ▸ known)
    rw [asked, asked', left, left']
    exact ⟨rfl, tokens, replies⟩
  | none =>
    cases led : target [] (tokenReference id) with
    | error failure =>
      obtain ⟨asked, left⟩ := ask_unsent known led
      obtain ⟨asked', left'⟩ := ask_unsent (tokens ▸ known) led
      rw [asked, asked', left, left']
      exact ⟨rfl, tokens, replies⟩
    | ok url =>
      obtain ⟨asked, left⟩ := ask_sent known led
      obtain ⟨asked', left'⟩ := ask_sent (tokens ▸ known) led
      rw [asked, asked', left, left', replies]
      exact ⟨rfl, congrArg (· ++ _) tokens, rfl⟩

theorem trace_congr (ids : List Json) (tokens : c.tokens = c'.tokens)
    (replies : c.replies = c'.replies) : trace ids c = trace ids c' := by
  induction ids generalizing c c' with
  | nil => rfl
  | cons id ids ih =>
    obtain ⟨asked, tokens, replies⟩ := ask_congr id tokens replies
    rw [trace, trace, asked, ih tokens replies]

/-- The call came to a token that a request of its own brought. -/
def TokenCall.Brings (call : TokenCall) (token : Json) : Prop :=
  call.outcome = .ok token ∧
    ∃ url, target [] (tokenReference call.id) = .ok url ∧ call.sent = [tokenRequest url]

theorem ask_brings {token : Json} (unknown : c.tokens.lookup id.text = none)
    (came : (ask id c).outcome = .ok token) : (ask id c).Brings token := by
  refine ⟨came, ?_⟩
  cases led : target [] (tokenReference id) with
  | error failure =>
    rw [(ask_unsent unknown led).1] at came
    nomatch came
  | ok url =>
    rw [(ask_sent unknown led).1]
    exact ⟨url, led, rfl⟩

/-- The first token for a text was brought by a call for an id of this text. -/
theorem firstToken_brought {ids : List Json} {token : Json}
    (unknown : c.tokens.lookup text = none) (first : firstToken? text (trace ids c) = some token) :
    ∃ call ∈ trace ids c, call.id.text = text ∧ call.Brings token := by
  induction ids generalizing c with
  | nil => nomatch first
  | cons id ids ih =>
    have before := lookup_leaves id c text
    rw [unknown, Option.none_or] at before
    rw [trace, firstToken?, List.findSome?_cons] at first
    have named : (ask id c).id = id := rfl
    rw [named] at first
    cases obtained : (if id.text = text then (ask id c).obtained? else none) with
    | none =>
      rw [obtained] at first before
      obtain ⟨call, inside, same, brings⟩ := ih before first
      exact ⟨call, List.mem_cons_of_mem _ inside, same, brings⟩
    | some other =>
      rw [obtained] at first
      obtain rfl := Option.some.inj first
      obtain ⟨same, got⟩ := Option.ite_none_right_eq_some.1 obtained
      exact ⟨ask id c, List.mem_cons_self, same, ask_brings (same ▸ unknown) (eq_of_tokenIn got)⟩

/-- What holds of a call after the calls in `history`, which left client `c`. -/
structure Correct (history : List TokenCall) (id : Json) (c : Client) : Prop where
  /-- The first token that was obtained for the text of the id is given, and nothing is sent. -/
  known : ∀ token, firstToken? id.text history = some token → ask id c = ⟨id, .ok token, []⟩
  /-- Without one a request is sent, and its reply decides the outcome. -/
  asked : firstToken? id.text history = none → ∀ url, target [] (tokenReference id) = .ok url →
    ask id c = ⟨id, granted id c.replies.head?, [tokenRequest url]⟩
  unsendable : firstToken? id.text history = none →
    ∀ failure, target [] (tokenReference id) = .error failure → ask id c = ⟨id, .error failure, []⟩
  sendable : IsWord id.text → (target [] (tokenReference id)).isOk = true
  address : IsWord id.text → ∀ r ∈ (ask id c).sent,
    r.url = "https://api.github.com/app/installations/" ++ id.text ++ "/access_tokens"
  brought : ∀ token, (ask id c).outcome = .ok token →
    ∃ call ∈ history ++ [ask id c], call.id.text = id.text ∧ call.Brings token
  traceless : (ask id c).obtained? = none →
    ∀ later, trace later (leaves id c) = trace later { c with replies := (leaves id c).replies }

/-- What is sent for an id of letters and digits goes to the address that one expects. -/
theorem sent_address (word : IsWord id.text) : ∀ r ∈ (ask id c).sent,
    r.url = "https://api.github.com/app/installations/" ++ id.text ++ "/access_tokens" := by
  intro r sent
  cases known : c.tokens.lookup id.text with
  | some token =>
    rw [(ask_known known).1] at sent
    exact absurd sent List.not_mem_nil
  | none =>
    rw [(ask_sent known (token_target word)).1] at sent
    rw [List.mem_singleton.1 sent]
    rfl

/-- A call that obtains no token changes nothing that later calls depend on but the replies to come.
-/
theorem trace_leaves (nothing : (ask id c).obtained? = none) (later : List Json) :
    trace later (leaves id c) = trace later { c with replies := (leaves id c).replies } := by
  have tokens : (leaves id c).tokens = c.tokens := by
    cases known : c.tokens.lookup id.text with
    | some token => rw [(ask_known known).2]
    | none =>
      rw [tokens_leaves known, nothing, Option.map_none, Option.toList_none, List.append_nil]
  exact trace_congr later tokens rfl

/-- Calls for tokens, one after another, of a client that has kept none, whatever the ids and the
replies are: a token that was obtained is given to every later call for an id of the same text and
to no other, and as long as there is none a token is asked for again. -/
theorem token_runs (fresh : c.tokens = []) (ids : List Json) (id : Json) :
    Correct (trace ids c) id (leavesAll ids c) := by
  have kept (text : String) :
      (leavesAll ids c).tokens.lookup text = firstToken? text (trace ids c) := by
    rw [lookup_leavesAll, fresh]
    rfl
  have none : c.tokens.lookup id.text = none := by rw [fresh]; rfl
  exact {
    known token first := (ask_known ((kept _).trans first)).1
    asked first url led := (ask_sent ((kept _).trans first) led).1
    unsendable first failure unsent := (ask_unsent ((kept _).trans first) unsent).1
    sendable word := by rw [token_target word]; rfl
    address := sent_address
    brought token came := by
      cases first : firstToken? id.text (trace ids c) with
      | none =>
        have brings := ask_brings ((kept _).trans first) came
        exact ⟨_, List.mem_append_right _ (List.mem_singleton.2 rfl), rfl, brings⟩
      | some known =>
        rw [(ask_known ((kept _).trans first)).1] at came
        obtain rfl := Except.ok.inj came
        obtain ⟨call, inside, same, brings⟩ := firstToken_brought none first
        exact ⟨call, List.mem_append_left _ inside, same, brings⟩
    traceless := trace_leaves }

end Runs

/-- A client whose first request breaks and whose second one is answered with a token. -/
def exampleClient : Client :=
  .start none false [.broken .connection "reset",
    .answered ⟨201, [("content-type", "application/json")], .json (.obj [("token", .str "t")])⟩]

/-- After a request that broke, a token is asked for again, and a number and the text of the number
share it. -/
theorem token_after_break :
    (ask (.str "5") (leavesAll [.int 5] exampleClient)).sent =
        [tokenRequest "https://api.github.com/app/installations/5/access_tokens"] ∧
      ask (.int 5) (leavesAll [.int 5, .str "5"] exampleClient) = ⟨.int 5, .ok (.str "t"), []⟩ := by
  have second := token_runs (c := exampleClient) rfl [.int 5] (.str "5")
  have third := token_runs (c := exampleClient) rfl [.int 5, .str "5"] (.int 5)
  have none : firstToken? "5" (trace [.int 5] exampleClient) = none := by decide +kernel
  have some : firstToken? "5" (trace [.int 5, .str "5"] exampleClient) = some (.str "t") := by
    decide +kernel
  have word : IsWord "5" := ⟨by decide, Text.forall_of_all (by decide)⟩
  exact ⟨congrArg TokenCall.sent (second.asked none _ (token_target word)), third.known _ some⟩

/-- The text of an object with one member makes a template whose length is no number. Nothing is
sent for such an id, although no token was obtained for it. -/
theorem unsendable_id :
    ¬ ∀ (c : Client) (ids : List Json) (id : Json), c.tokens = [] →
      firstToken? id.text (trace ids c) = none → (ask id (leavesAll ids c)).sent ≠ [] := by
  intro sends
  have unsent : (target [] (tokenReference (.obj [("a", .str "b")]))).isOk = false := by
    decide +kernel
  refine sends exampleClient [] (.obj [("a", .str "b")]) rfl rfl ?_
  cases led : target [] (tokenReference (.obj [("a", .str "b")])) with
  | error failure => exact congrArg TokenCall.sent (ask_unsent rfl led).1
  | ok url =>
    rw [led] at unsent
    nomatch unsent

end Installation

end SuiteTrigger
