import SuiteTrigger.Proofs.Attempts
import SuiteTrigger.Proofs.Lockstep
import SuiteTrigger.Proofs.PageScans
import SuiteTrigger.Proofs.RemoteSessions

/-!
# Revalidation of kept pages

Clients share the pages that they keep, and the labels on the server are changed by hand in between
and by the clients themselves. A page that is kept is never trusted: it is asked for under its tag
every time. So every step of a session over HTTP is transparent (`step_transparent`), and it comes
to an end when the next links of the pages do (`step_total`). A history comes to the same, step by
step and with the same requests but for the tags, whether pages are kept or not
(`kept_pages_unseen`).
-/

namespace SuiteTrigger

open Http

variable {S : Type}

/-- Work of a client as a step that gives its outcome and the journal. -/
def Work.asStep {α : Type} (work : Work Client α) (j : Journal) (c : Client) :
    (Except Failure α × Journal) × Client :=
  (((work.on ⟨c, j⟩).1, (work.on ⟨c, j⟩).2.journal), (work.on ⟨c, j⟩).2.platform)

namespace Http.TaggedServer

/-- A property of the steps of a client that holds of steps that send nothing, of requests that
change something and of scans, and passes to steps made of steps. -/
structure Pervades (server : TaggedServer S) (Q : (ρ : Type) → (Client → ρ × Client) → Prop) :
    Prop where
  quiet : ∀ {ρ : Type} {f : Client → ρ × Client}, server.Quiet f → Q ρ f
  changes : ∀ {ρ : Type} {verb : Verb}, verb ≠ .get →
    ∀ (url : String) (signs : Option Authorization → Option Authorization) (body : Option Json)
      (told : Except CallError Page → ρ),
      Q ρ (sends (fun c => ⟨verb, url, signs c.authorization, none, body⟩) told)
  scans : ∀ {β : Type} (visit : β → Json → Except Failure (Client.Visit β)) (reference : String)
    (state : β), Q (Except CallError β) (Client.scan visit reference state)
  andThen : ∀ {ρ τ : Type} {f : Client → ρ × Client} {g : ρ → Client → τ × Client},
    Q ρ f → (∀ value, Q τ (g value)) → Q τ (TaggedServer.andThen f g)

namespace Pervades

variable {server : TaggedServer S} {Q : (ρ : Type) → (Client → ρ × Client) → Prop} {α β ρ : Type}

theorem still (pervades : server.Pervades Q) (value : ρ) : Q ρ fun c => (value, c) :=
  pervades.quiet (server.still_quiet value)

theorem change (pervades : server.Pervades Q) {step : Client → Except Failure α × Client}
    (holds : Q _ step) (j : Journal) : Q _ ((Work.change step).asStep j) := by
  have steps : (Work.change step).asStep j =
      TaggedServer.andThen step fun outcome c => ((outcome, j), c) := by
    funext c
    rw [Work.asStep, Work.on_change, TaggedServer.andThen]
  rw [steps]
  exact pervades.andThen holds fun outcome => pervades.still (outcome, j)

theorem run (pervades : server.Pervades Q) (call : String)
    {step : Client → Except CallError α × Client} (holds : Q _ step) (j : Journal) :
    Q _ ((Remote.run call step).asStep j) :=
  pervades.change (pervades.andThen holds fun outcome =>
    pervades.still (outcome.mapError (CallError.toFailure call))) j

theorem bind (pervades : server.Pervades Q) {work : Work Client α} {next : α → Work Client β}
    (holds : ∀ j, Q _ (work.asStep j)) (rest : ∀ value j, Q _ ((next value).asStep j))
    (j : Journal) : Q _ ((work >>= next).asStep j) := by
  let goOn : Except Failure α × Journal → Client → (Except Failure β × Journal) × Client
    | (.ok value, j) => (next value).asStep j
    | (.error failure, j) => fun c => ((.error failure, j), c)
  have steps : (work >>= next).asStep j = TaggedServer.andThen (work.asStep j) goOn := by
    funext c
    rw [Work.asStep, Work.on_bind, TaggedServer.andThen, Work.asStep]
    generalize work.on ⟨c, j⟩ = ran
    obtain ⟨outcome, scene⟩ := ran
    cases outcome with
    | ok value => rfl
    | error failure => rfl
  rw [steps]
  refine pervades.andThen (holds j) fun ran => ?_
  obtain ⟨outcome, j'⟩ := ran
  cases outcome with
  | ok value => exact rest value j'
  | error failure => exact pervades.still _

theorem composes (pervades : server.Pervades Q) :
    Work.Composes Client.callCount fun _ work => ∀ j, Q _ (work.asStep j) where
  ofExcept result j := by
    have steps : (Work.ofExcept result).asStep j = fun c => ((result, j), c) := by
      funext c
      rw [Work.asStep, Work.on_ofExcept]
    rw [steps]
    exact pervades.still _
  log level text j := pervades.still
    ((.ok (), { j with entries := j.entries ++ [⟨level, text⟩] }) : Except Failure Unit × Journal)
  count c j := pervades.still
    ((.ok (), { j with moves := j.moves ++ [c] }) : Except Failure Unit × Journal)
  tell level text j := by
    refine pervades.quiet ⟨fun _ => rfl, fun _ _ => rfl, fun c c' akin => ⟨?_, akin⟩⟩
    unfold Work.asStep
    rw [Work.on_platform, Work.on_platform, akin.callCount]
    rfl
  bind := pervades.bind
  attempt {α} {work} holds j := by
    have steps : work.attempt.asStep j =
        TaggedServer.andThen (work.asStep j) fun ran c => ((.ok ran.1, ran.2), c) := by
      funext c
      rw [Work.asStep, Work.on_attempt, TaggedServer.andThen, Work.asStep]
    rw [steps]
    exact pervades.andThen (holds j) fun ran => pervades.still _

theorem call (pervades : server.Pervades Q) {verb : Verb} (other : verb ≠ .get)
    (values : Template.Values) (reference : String)
    (signs : Option Authorization → Option Authorization) (body : Option Json)
    (told : Except CallError Json → Except CallError α) :
    Q _ fun c => (told (c.call verb values reference (signs c.authorization) body).1,
      (c.call verb values reference (signs c.authorization) body).2) := by
  cases led : target values reference with
  | error failure =>
    have still (c : Client) : c.call verb values reference (signs c.authorization) body =
        (.error (.failure failure), c) := by
      rw [Client.call, led]
    simp only [still]
    exact pervades.still _
  | ok url =>
    have sent (c : Client) := c.call_eq verb led (signs c.authorization) body
    simp only [sent]
    exact pervades.changes other url signs body fun outcome => told (outcome.map (·.data))

theorem upholds (pervades : server.Pervades Q) :
    Remote.Upholds fun _ work => ∀ j, Q _ (work.asStep j) where
  toComposes := pervades.composes
  counts url := by
    refine pervades.composes.bind ?_ fun _ => pervades.composes.count _
    refine pervades.change (pervades.quiet ⟨fun _ => rfl, fun _ _ => rfl, ?_⟩)
    intro c c' akin
    exact ⟨rfl, akin.authorization, akin.tokens, congrArg (· + 1) akin.callCount, akin.vouches,
      akin.vouchesToo⟩
  scans call visit reference state := pervades.run call (pervades.scans visit reference state)
  changes call verb values reference body told other :=
    pervades.run call (pervades.call other values reference id body told)
  fetches call reference := by
    have post : Verb.post ≠ .get := nofun
    exact pervades.run call
      (pervades.call post [] reference (fun _ => some .application) none id)
  knows {α} text next holds j := by
    have steps : (Work.platform >>= fun c => next (c.tokens.lookup text)).asStep j =
        TaggedServer.andThen (fun c => (c.tokens.lookup text, c))
          fun known? => (next known?).asStep j := rfl
    rw [steps]
    refine pervades.andThen (pervades.quiet ⟨fun _ => rfl, fun _ _ => rfl, ?_⟩)
      fun known? => holds known? j
    intro c c' akin
    exact ⟨congrArg (List.lookup text) akin.tokens, akin⟩
  learns text token := by
    refine pervades.change (pervades.quiet ⟨fun _ => rfl, fun _ _ => rfl, ?_⟩)
    intro c c' akin
    exact ⟨rfl, akin.authorization, congrArg (· ++ [(text, token)]) akin.tokens, akin.callCount,
      akin.vouches, akin.vouchesToo⟩
  authorizes authorization := by
    refine pervades.change (pervades.quiet ⟨fun _ => rfl, fun _ _ => rfl, ?_⟩)
    intro c c' akin
    exact ⟨rfl, rfl, akin.tokens, rfl, akin.vouches, akin.vouchesToo⟩

end Pervades

theorem step_transparent (server : TaggedServer S) (step : Remote.Step) (j : Journal) :
    server.Transparent (step.work.asStep j) :=
  Pervades.upholds ⟨transparent_of_quiet, server.change_transparent, server.scan_transparent,
    Transparent.andThen⟩ |>.step step j

theorem step_total {server : TaggedServer S} (ends : server.PagesEnd) (step : Remote.Step)
    (j : Journal) : server.Total (step.work.asStep j) :=
  Pervades.upholds ⟨total_of_quiet, server.change_total, scan_total ends, Total.andThen⟩
    |>.step step j

end Http.TaggedServer

namespace Http.Client

/-- A client that takes over the kept pages and the tokens, with its own authorization and the
number of calls that it made so far. -/
def through (c : Client) (own : Option Authorization) (callCount : Nat) : Client :=
  { c with authorization := own, callCount }

/-- Gives up the kept pages of some addresses. -/
def forget (c : Client) (keeps : String → Bool) : Client :=
  { c with pages := c.pages.map fun pages => pages.filter fun entry => keeps entry.1 }

end Http.Client

namespace Http.TaggedServer

variable {server : TaggedServer S} {s last last' : S} {c c' d d' : Client} {step : Remote.Step}
  {sent sent' : List Request} {outcome outcome' : Except Failure Remote.Value}
  {journal journal' : Journal}

/-- What happens next: one of the clients takes a step, the labels on the server are edited, or kept
pages are given up. -/
inductive Turn (S : Type) where
  | step (own : Option Authorization) (callCount : Nat) (step : Remote.Step)
  | edit (change : S → S)
  | forget (keeps : String → Bool)

/-- Runs a step with the replies of the server to some requests. -/
def answered (server : TaggedServer S) (s : S) (step : Remote.Step) (c : Client)
    (sent : List Request) : Except Failure Remote.Value × Scene Client :=
  step.run (c.fed (server.replies s sent))

/-- A step sent the requests in `sent`, got the replies of the server to them, and came to an end.
-/
structure Taken (server : TaggedServer S) (s : S) (step : Remote.Step) (c : Client)
    (sent : List Request) (outcome : Except Failure Remote.Value) (journal : Journal)
    (d : Client) : Prop where
  ran : server.answered s step c sent = (outcome, ⟨d, journal⟩)
  requests : d.requests = c.requests ++ sent
  replies : d.replies = []

/-- A history of a server and of the clients that share kept pages and tokens, with what is seen of
each step: the requests but for their marks among it. -/
inductive Runs (server : TaggedServer S) :
    S → Client → List (Turn S) → List Remote.Report → S → Prop where
  | done {s : S} {c : Client} : Runs server s c [] [] s
  | step {s last : S} {c d : Client} {own : Option Authorization} {callCount : Nat}
      {step : Remote.Step} {sent : List Request} {outcome : Except Failure Remote.Value}
      {journal : Journal} {turns : List (Turn S)} {seen : List Remote.Report} :
    server.Taken s step (c.through own callCount) sent outcome journal d →
    Runs server (server.after s sent) d turns seen last →
    Runs server s c (.step own callCount step :: turns)
      (⟨outcome, journal, d.callCount, sent.map Request.unmarked⟩ :: seen) last
  | edit {s last : S} {c : Client} {change : S → S} {turns : List (Turn S)}
      {seen : List Remote.Report} :
    Runs server (change s) c turns seen last → Runs server s c (.edit change :: turns) seen last
  | forget {s last : S} {c : Client} {keeps : String → Bool} {turns : List (Turn S)}
      {seen : List Remote.Report} :
    Runs server s (c.forget keeps) turns seen last →
    Runs server s c (.forget keeps :: turns) seen last

/-- Pages that are given up leave the others as they were served. -/
theorem Vouches.forget (vouches : server.Vouches c) (keeps : String → Bool) :
    server.Vouches (c.forget keeps) := by
  intro url kept found
  obtain ⟨entries, kept?, looked⟩ := Option.bind_eq_some_iff.1 found
  obtain ⟨pages, holds, rfl⟩ := Option.map_eq_some_iff.1 kept?
  refine vouches url kept ?_
  rw [lookup_filter] at looked
  cases stays : keeps url with
  | true =>
    rw [stays] at looked
    rw [Client.kept?, holds]
    exact looked
  | false =>
    rw [stays] at looked
    cases looked

/-- Two clients that know the same tokens and keep pages of the server. -/
structure Shares (server : TaggedServer S) (c c' : Client) : Prop where
  tokens : c.tokens = c'.tokens
  vouches : server.Vouches c
  vouchesToo : server.Vouches c'

theorem Shares.through (shares : server.Shares c c') (own : Option Authorization)
    (callCount : Nat) : server.Akin (c.through own callCount) (c'.through own callCount) :=
  ⟨rfl, shares.tokens, rfl, shares.vouches, shares.vouchesToo⟩

theorem Shares.forget (shares : server.Shares c c') (keeps : String → Bool) :
    server.Shares (c.forget keeps) (c'.forget keeps) :=
  ⟨shares.tokens, shares.vouches.forget keeps, shares.vouchesToo.forget keeps⟩

theorem Shares.same (vouches : server.Vouches c) : server.Shares c c := ⟨rfl, vouches, vouches⟩

theorem asStep_run :
    step.work.asStep .empty c = ((outcome, journal), d) ↔ step.run c = (outcome, ⟨d, journal⟩) := by
  unfold Work.asStep Remote.Step.run
  generalize step.work.on ⟨c, .empty⟩ = ran
  obtain ⟨came, left, told⟩ := ran
  constructor
  · rintro ⟨⟩
    rfl
  · rintro ⟨⟩
    rfl

theorem Taken.came (taken : server.Taken s step c sent outcome journal d) :
    step.work.asStep .empty (c.fed (server.replies s sent ++ [])) = ((outcome, journal), d) := by
  rw [List.append_nil]
  exact asStep_run.2 taken.ran

theorem Taken.takes (taken : server.Taken s step c sent outcome journal d) :
    server.Takes s (step.work.asStep .empty) c sent [] := by
  refine ⟨?_, ?_⟩
  · rw [taken.came]
    exact taken.requests
  · rw [taken.came]
    exact taken.replies

/-- What a step comes to with one client it comes to with every client that is akin, and it sends
the same requests but for their marks and no other ones. -/
theorem Taken.follows (taken : server.Taken s step c sent outcome journal d)
    (akin : server.Akin c c') :
    ∃ sent' d',
      server.Follows s (step.work.asStep .empty) (outcome, journal) sent d c' sent' d' := by
  have carries := (server.step_transparent step .empty).carries s c sent [] taken.takes c' akin
  rwa [taken.came] at carries

theorem taken_of_follows
    (follows : server.Follows s (step.work.asStep .empty) (outcome, journal) sent d c' sent' d') :
    server.Taken s step c' sent' outcome journal (d'.fed []) where
  ran := by
    have run := follows.run []
    rw [List.append_nil] at run
    exact asStep_run.1 run
  requests := follows.requests
  replies := rfl

/-- A step can send only one list of requests, and so it comes to one thing. -/
theorem Taken.unique (taken : server.Taken s step c sent outcome journal d)
    (vouches : server.Vouches c)
    (taken' : server.Taken s step c sent' outcome' journal' d') :
    sent' = sent ∧ outcome' = outcome ∧ journal' = journal ∧ d' = d := by
  obtain ⟨only, e, follows⟩ := taken.follows ⟨rfl, rfl, rfl, vouches, vouches⟩
  obtain rfl := follows.only sent [] taken.takes
  obtain rfl := follows.only sent' [] taken'.takes
  obtain ⟨rfl, same⟩ := Prod.mk.inj (taken'.ran.symm.trans taken.ran)
  obtain ⟨rfl, rfl⟩ := Scene.mk.inj same
  exact ⟨rfl, rfl, rfl, rfl⟩

variable {turns : List (Turn S)} {seen seen' : List Remote.Report}

/-- A history goes on with a step that sends just the requests that it got the replies to. -/
theorem Runs.take (own : Option Authorization) (callCount : Nat) (step : Remote.Step)
    (sent : List Request) {ran : Except Failure Remote.Value × Scene Client}
    (came : server.answered s step (c.through own callCount) sent = ran)
    (all : ran.2.platform.requests = c.requests ++ sent ∧ ran.2.platform.replies = [])
    (runs : server.Runs (server.after s sent) ran.2.platform turns seen last) :
    server.Runs s c (.step own callCount step :: turns)
      (⟨ran.1, ran.2.journal, ran.2.platform.callCount, sent.map Request.unmarked⟩ :: seen) last :=
  .step ⟨came, all.1, all.2⟩ runs

/-- A history goes the same way with other clients that know the same tokens, whatever pages they
keep. -/
theorem Runs.shares (runs : server.Runs s c turns seen last) (shares : server.Shares c c') :
    server.Runs s c' turns seen last := by
  induction runs generalizing c' with
  | done => exact .done
  | @step s last c d own callCount step sent outcome journal turns seen taken _ ih =>
    obtain ⟨sent', d', follows⟩ := taken.follows (shares.through own callCount)
    -- the other client has taken its replies too, so the history goes on with none left
    have shared : server.Shares d (d'.fed []) :=
      ⟨follows.akin.tokens, follows.akin.vouches, follows.akin.vouchesToo⟩
    have later := ih shared
    rw [← follows.after] at later
    have callCount : d.callCount = (d'.fed []).callCount := follows.akin.callCount
    rw [← follows.unmarked, callCount]
    exact .step (taken_of_follows follows) later
  | edit _ ih => exact .edit (ih shares)
  | forget _ ih => exact .forget (ih (shares.forget _))

theorem Runs.unique (vouches : server.Vouches c) (runs : server.Runs s c turns seen last)
    (runs' : server.Runs s c turns seen' last') : seen' = seen ∧ last' = last := by
  induction runs generalizing seen' last' with
  | done => cases runs' with | done => exact ⟨rfl, rfl⟩
  | step taken _ ih =>
    cases runs' with
    | step taken' later =>
      obtain ⟨rfl, rfl, rfl, rfl⟩ := taken.unique vouches taken'
      obtain ⟨_, _, follows⟩ := taken.follows (Shares.through (.same vouches) _ _)
      obtain ⟨rfl, rfl⟩ := ih follows.akin.vouches later
      exact ⟨rfl, rfl⟩
  | edit _ ih => cases runs' with | edit runs' => exact ih vouches runs'
  | forget _ ih => cases runs' with | forget runs' => exact ih (vouches.forget _) runs'

/-- When the next links of the pages come to an end, so does every history. -/
theorem runs_exist (ends : server.PagesEnd) (turns : List (Turn S)) (s : S)
    (vouches : server.Vouches c) : ∃ seen last, server.Runs s c turns seen last := by
  induction turns generalizing s c with
  | nil => exact ⟨[], s, .done⟩
  | cons turn turns ih =>
    cases turn with
    | step own callCount step =>
      obtain ⟨sent, came, d, run, requests, vouched⟩ :=
        step_total ends step .empty s (c.through own callCount) vouches
      obtain ⟨seen, last, runs⟩ := ih (c := d.fed []) (server.after s sent) vouched
      have ran := run []
      rw [List.append_nil] at ran
      exact ⟨_, last, .step ⟨asStep_run.1 ran, requests, rfl⟩ runs⟩
    | edit change =>
      obtain ⟨seen, last, runs⟩ := ih (change s) vouches
      exact ⟨seen, last, .edit runs⟩
    | forget keeps =>
      obtain ⟨seen, last, runs⟩ := ih s (vouches.forget keeps)
      exact ⟨seen, last, .forget runs⟩

theorem start_vouches (server : TaggedServer S) (own : Option Authorization) (keeps : Bool)
    (replies : List Reply) : server.Vouches (.start own keeps replies) := by
  cases keeps with
  | true => exact nofun
  | false => exact nofun

/-- Whether the clients keep pages or not, a history of them and a server that tags its pages can go
the same way, and it can go only one way: each step comes to the same, with the same labels read and
the same requests, and the server is left in the same state. It does go to its end when the next
links of the pages do. -/
theorem kept_pages_unseen (server : TaggedServer S) (s : S) (turns : List (Turn S)) :
    (∀ seen last, server.Runs s (.start none true []) turns seen last ↔
      server.Runs s (.start none false []) turns seen last) ∧
    (∀ seen last seen' last', server.Runs s (.start none true []) turns seen last →
      server.Runs s (.start none false []) turns seen' last' → seen' = seen ∧ last' = last) ∧
    (server.PagesEnd → ∃ seen last, server.Runs s (.start none true []) turns seen last) := by
  have kept := server.start_vouches none true []
  have unkept := server.start_vouches none false []
  have toUnkept {seen last} (runs : server.Runs s (.start none true []) turns seen last) :
      server.Runs s (.start none false []) turns seen last :=
    runs.shares ⟨rfl, kept, unkept⟩
  refine ⟨fun seen last => ⟨toUnkept, fun runs => runs.shares ⟨rfl, unkept, kept⟩⟩, ?_, ?_⟩
  · intro seen last seen' last' runs runs'
    exact (toUnkept runs).unique unkept runs'
  · intro ends
    exact runs_exist ends turns s kept

def exampleTag (on : Bool) : String := if on then "on" else "off"

def exampleLabels (on : Bool) : Json :=
  .arr (if on then [.obj [("name", .str "approved")]] else [])

def exampleAnswer (on : Bool) : Answer :=
  ⟨200, [("content-type", "application/json"), ("etag", exampleTag on)], .json (exampleLabels on)⟩

/-- A server with one label, which is on or off. What changes something puts it on. -/
def exampleServer : TaggedServer Bool where
  page on _ _ := ⟨exampleLabels on, none⟩
  tag on _ _ := exampleTag on
  reply on r :=
    if r.verb = .get then
      (.answered (if r.ifNoneMatch = some (exampleTag on) then ⟨304, [], .empty⟩
        else exampleAnswer on), on)
    else (.answered (exampleAnswer true), true)
  whole on r get stale := by
    rw [if_pos get, if_neg stale]
    refine ⟨_, rfl, rfl, rfl, ?_⟩
    cases on with
    | true => rfl
    | false => rfl
  unchanged on r get fresh := by
    rw [if_pos get, if_pos fresh]
    exact ⟨_, rfl, rfl⟩
  unswayed on r get := by
    have get' : r.unmarked.verb = .get := get
    rw [if_pos get, if_pos get']
  tells on on' _ _ _ same := by
    have alike : on = on' := by
      revert on on'
      decide
    rw [alike]
    exact ⟨rfl, rfl⟩

/-- A label is read, put on by a client, read again under the tag that it was kept with, and taken
off by hand. -/
def exampleTurns : List (Turn Bool) :=
  [.step none 0 (.labels exampleRef.issue),
    .step (some (.token "t")) 0 (.ran (.executed exampleRef false [.addLabel "approved"] none)),
    .step none 1 (.labels exampleRef.issue), .step none 2 (.labels exampleRef.issue),
    .edit fun _ => false, .step none 3 (.labels exampleRef.issue)]

/-- What the steps give: the label that was taken off by hand is not read again. -/
def exampleValues : List (Option Remote.Value) :=
  [some (.labels []), some (.ran (.actions [.addLabel "approved"])),
    some (.labels [⟨"approved", none, none⟩]), some (.labels [⟨"approved", none, none⟩]),
    some (.labels [])]

theorem edit_read_with_kept_pages :
    ∃ seen, exampleServer.Runs false (.start none true []) exampleTurns seen false ∧
      exampleServer.Runs false (.start none false []) exampleTurns seen false ∧
      seen.map (·.outcome.toOption) = exampleValues := by
  let asks (mark : Option String) : Request :=
    ⟨.get, "https://api.github.com/u/issues/7/labels", none, mark, none⟩
  let adds : Request :=
    Remote.addition "https://api.github.com/u/issues/7/labels" ["approved"] (some (.token "t"))
  obtain ⟨same, -⟩ := exampleServer.kept_pages_unseen false exampleTurns
  obtain ⟨seen, runs, values⟩ : ∃ seen,
      exampleServer.Runs false (.start none true []) exampleTurns seen false ∧
        seen.map (·.outcome.toOption) = exampleValues :=
    ⟨_, .take _ _ _ [asks none] rfl (by decide +kernel)
      (.take _ _ _ [adds] rfl (by decide +kernel)
      (.take _ _ _ [asks (some "off")] rfl (by decide +kernel)
      (.take _ _ _ [asks (some "on")] rfl (by decide +kernel)
      (.edit (.take _ _ _ [asks (some "on")] rfl (by decide +kernel) .done))))),
      by decide +kernel⟩
  exact ⟨seen, runs, (same seen false).1 runs, values⟩

end Http.TaggedServer

end SuiteTrigger
