import SuiteTrigger.Command.Run
import SuiteTrigger.Proofs.Exchanges
import SuiteTrigger.Proofs.Lockstep
import SuiteTrigger.Proofs.RemoteSessions

/-!
# Credentials

How requests are authorized is told to the code host and to no one else. Two clients that differ in
nothing but the authorization, their own and that of the requests they sent (`Client.Alike`), get
the same out of every reply (`receive_alike`), and so every step of a session is in lockstep on them
(`alike_upholds`). With one token or another, a session over HTTP and a run of the command line come
to the same (`token_unseen`, `command_token_unseen`).
-/

namespace SuiteTrigger.Http

/-- A request without its authorization. -/
def Request.unsigned (r : Request) : Request := { r with authorization := none }

namespace Client

/-- Two clients that differ in nothing but the authorization of themselves and of the requests they
sent. -/
structure Alike (c c' : Client) : Prop where
  replies : c.replies = c'.replies
  requests : c.requests.map Request.unsigned = c'.requests.map Request.unsigned
  pages : c.pages = c'.pages
  tokens : c.tokens = c'.tokens
  callCount : c.callCount = c'.callCount

namespace Alike

variable {c c' : Client} {r r' : Request}

theorem record (alike : c.Alike c') (same : r.unsigned = r'.unsigned) :
    (c.record r).Alike (c'.record r') where
  replies := alike.replies
  requests := by
    have last : [r].map Request.unsigned = [r'].map Request.unsigned := congrArg ([·]) same
    rw [Client.record, Client.record, List.map_append, List.map_append, alike.requests, last]
  pages := alike.pages
  tokens := alike.tokens
  callCount := alike.callCount

theorem fed (alike : c.Alike c') (replies : List Reply) :
    Client.Alike { c with replies } { c' with replies } where
  replies := rfl
  requests := alike.requests
  pages := alike.pages
  tokens := alike.tokens
  callCount := alike.callCount

theorem keep (alike : c.Alike c') (url : String) (headers : Headers) (page : Page) :
    (c.keep url headers page).Alike (c'.keep url headers page) := by
  unfold Client.keep
  dsimp only
  split
  · exact ⟨alike.replies, alike.requests, congrArg (Option.map _) alike.pages, alike.tokens,
      alike.callCount⟩
  · exact alike

theorem kept (alike : c.Alike c') (url : String) : c.kept? url = c'.kept? url := by
  rw [Client.kept?, Client.kept?, alike.pages]

theorem pageRequest (alike : c.Alike c') (url : String) :
    (c.pageRequest url).unsigned = (c'.pageRequest url).unsigned := by
  rw [Client.pageRequest, Client.pageRequest, alike.kept]
  rfl

end Alike

variable {c c' : Client} {r r' : Request}

theorem receive_alike (alike : c.Alike c') (same : r.unsigned = r'.unsigned) (reply : Reply) :
    (c.receive r reply).1 = (c'.receive r' reply).1 ∧
      (c.receive r reply).2.Alike (c'.receive r' reply).2 := by
  have recorded := alike.record same
  have verb : r.verb = r'.verb := congrArg (·.verb) same
  have url : r.url = r'.url := congrArg (·.url) same
  cases reply with
  | lost error => exact ⟨rfl, recorded⟩
  | failed failure => exact ⟨rfl, recorded⟩
  | answered answer =>
    unfold receive
    dsimp only
    rw [recorded.kept, verb, url]
    split
    · exact ⟨rfl, recorded⟩
    · cases answer.page with
      | error e => exact ⟨rfl, recorded⟩
      | ok page =>
        refine ⟨rfl, ?_⟩
        dsimp only
        split
        · exact recorded.keep _ _ _
        · exact recorded

theorem send_alike (alike : c.Alike c') (same : r.unsigned = r'.unsigned) :
    (c.send r).1 = (c'.send r').1 ∧ (c.send r).2.Alike (c'.send r').2 := by
  unfold send
  rw [alike.replies]
  cases c'.replies with
  | nil => exact ⟨rfl, alike.record same⟩
  | cons reply replies => exact receive_alike (alike.fed replies) same reply

theorem call_alike (alike : c.Alike c') (verb : Verb) (values : Template.Values)
    (reference : String) (own own' : Option Authorization) (body : Option Json) :
    (c.call verb values reference own body).1 = (c'.call verb values reference own' body).1 ∧
      (c.call verb values reference own body).2.Alike
        (c'.call verb values reference own' body).2 := by
  cases led : target values reference with
  | error failure =>
    unfold call
    rw [led]
    exact ⟨rfl, alike⟩
  | ok url =>
    rw [call_eq c verb led, call_eq c' verb led]
    obtain ⟨outcome, after⟩ := send_alike alike
      (show Request.unsigned ⟨verb, url, own, none, body⟩ =
        Request.unsigned ⟨verb, url, own', none, body⟩ from rfl)
    exact ⟨congrArg (Except.map _) outcome, after⟩

theorem scan_alike {β : Type} (visit : β → Json → Except Failure (Visit β)) (reference : String)
    (state : β) (alike : c.Alike c') :
    (scan visit reference state c).1 = (scan visit reference state c').1 ∧
      (scan visit reference state c).2.Alike (scan visit reference state c').2 := by
  unfold scan
  rw [alike.replies]
  generalize c'.replies = replies
  induction replies generalizing reference state c c' with
  | nil =>
    unfold scanFrom
    cases target [] reference with
    | error failure => exact ⟨rfl, alike⟩
    | ok url => exact ⟨rfl, alike.record (alike.pageRequest url)⟩
  | cons reply replies ih =>
    unfold scanFrom
    cases target [] reference with
    | error failure => exact ⟨rfl, alike⟩
    | ok url =>
      obtain ⟨outcome, after⟩ :=
        receive_alike (alike.fed replies) (alike.pageRequest url) reply
      dsimp only
      generalize receive { c with replies } (c.pageRequest url) reply = received at outcome after
      generalize receive { c' with replies } (c'.pageRequest url) reply = received'
        at outcome after
      obtain ⟨came, d⟩ := received
      obtain ⟨came', d'⟩ := received'
      obtain rfl : came = came' := outcome
      cases came with
      | error e => exact ⟨rfl, after⟩
      | ok page =>
        dsimp only
        cases page.items.bind (visitAll visit state) with
        | error failure => exact ⟨rfl, after⟩
        | ok visited =>
          cases visited with
          | stop state => exact ⟨rfl, after⟩
          | proceed state =>
            cases page.next with
            | none => exact ⟨rfl, after⟩
            | some next => exact ih next state after

end Client

end SuiteTrigger.Http

namespace SuiteTrigger.Remote

open Http

/-- Two scenes with clients that are alike and the same journal. -/
def Alike (s s' : Scene Client) : Prop := s.platform.Alike s'.platform ∧ s.journal = s'.journal

theorem alike_composes : Work.Composes Client.callCount fun _ work => work.Lockstep Alike := by
  refine Work.lockstep_composes ?_ ?_ ?_
  · rintro level text ⟨c, j⟩ ⟨c', j'⟩ ⟨alike, same⟩
    obtain rfl : j = j' := same
    exact ⟨rfl, alike, rfl⟩
  · rintro counter ⟨c, j⟩ ⟨c', j'⟩ ⟨alike, same⟩
    obtain rfl : j = j' := same
    exact ⟨rfl, alike, rfl⟩
  · rintro level text ⟨c, j⟩ ⟨c', j'⟩ ⟨alike, same⟩
    obtain rfl : j = j' := same
    rw [Work.on_platform, Work.on_platform, alike.callCount]
    exact ⟨rfl, alike, rfl⟩

theorem change_alike {α : Type} {step : Client → Except Failure α × Client}
    (steps : ∀ c c', c.Alike c' → (step c).1 = (step c').1 ∧ (step c).2.Alike (step c').2) :
    (Work.change step).Lockstep Alike := by
  refine Work.lockstep_change fun s s' alike => ?_
  obtain ⟨outcome, after⟩ := steps _ _ alike.1
  exact ⟨outcome, after, alike.2⟩

theorem run_alike {α : Type} (call : String) {step : Client → Except CallError α × Client}
    (steps : ∀ c c', c.Alike c' → (step c).1 = (step c').1 ∧ (step c).2.Alike (step c').2) :
    (run call step).Lockstep Alike := by
  refine change_alike fun c c' alike => ?_
  obtain ⟨outcome, after⟩ := steps c c' alike
  exact ⟨congrArg (Except.mapError _) outcome, after⟩

theorem alike_upholds : Upholds fun _ work => work.Lockstep Alike where
  toComposes := alike_composes
  counts url := by
    refine alike_composes.bind (change_alike fun c c' alike => ⟨rfl, ?_⟩) fun _ =>
      alike_composes.count _
    exact ⟨alike.replies, alike.requests, alike.pages, alike.tokens,
      congrArg (· + 1) alike.callCount⟩
  scans call visit reference state :=
    run_alike call fun _ _ => Client.scan_alike visit reference state
  changes call verb values reference body told _ := by
    refine run_alike call fun c c' alike => ?_
    obtain ⟨outcome, after⟩ := Client.call_alike alike verb values reference c.authorization
      c'.authorization body
    exact ⟨congrArg told outcome, after⟩
  fetches call reference := run_alike call fun _ _ alike => Client.call_alike alike _ _ _ _ _ _
  knows text next holds := by
    rintro ⟨c, j⟩ ⟨c', j'⟩ ⟨alike, same⟩
    rw [Work.on_platform, Work.on_platform, alike.tokens]
    exact holds _ _ _ ⟨alike, same⟩
  learns text token := by
    refine change_alike fun c c' alike => ⟨rfl, ?_⟩
    exact ⟨alike.replies, alike.requests, alike.pages, congrArg (· ++ [(text, token)]) alike.tokens,
      alike.callCount⟩
  authorizes authorization := by
    refine change_alike fun c c' alike => ⟨rfl, ?_⟩
    exact ⟨alike.replies, alike.requests, alike.pages, alike.tokens, rfl⟩

namespace Step

/-- What is seen of a step besides how its requests are authorized. -/
def report (step : Step) (c : Client) : Report where
  outcome := (step.run c).1
  journal := (step.run c).2.journal
  callCount := (step.run c).2.platform.callCount
  requests := ((step.run c).2.platform.requests.drop c.requests.length).map Request.unsigned

def trace : List Step → Client → List Report
  | [], _ => []
  | step :: steps, c => step.report c :: trace steps (step.run c).2.platform

variable {c c' : Client}

/-- The same is seen of a step with clients that are alike, and they stay alike. -/
theorem report_alike (alike : c.Alike c') (step : Step) :
    step.report c = step.report c' ∧
      (step.run c).2.platform.Alike (step.run c').2.platform := by
  have lockstep := alike_upholds.step step
  obtain ⟨outcome, after, journal⟩ := lockstep ⟨c, .empty⟩ ⟨c', .empty⟩ ⟨alike, rfl⟩
  have sent : c.requests.length = c'.requests.length := by
    simpa using congrArg List.length alike.requests
  refine ⟨?_, after⟩
  rw [report, report, run, run, outcome, journal, after.callCount, List.map_drop, List.map_drop,
    after.requests, sent]

theorem trace_alike (steps : List Step) (alike : c.Alike c') : trace steps c = trace steps c' := by
  induction steps generalizing c c' with
  | nil => rfl
  | cons step steps ih =>
    obtain ⟨report, after⟩ := step.report_alike alike
    rw [trace, trace, report, ih after]

end Step

theorem start_alike (own own' : Option Authorization) (keeps : Bool) (replies : List Reply) :
    (Client.start own keeps replies).Alike (Client.start own' keeps replies) :=
  ⟨rfl, rfl, rfl, rfl, rfl⟩

/-- With one token or another, the same is seen of any session over HTTP, whatever the replies and
whether pages are kept or not: the outcomes, the counters and the log, the numbers of calls, and the
requests but for their authorization. -/
theorem token_unseen (token token' : String) (keeps : Bool) (replies : List Reply)
    (steps : List Step) :
    Step.trace steps (Client.start (some (.token token)) keeps replies) =
      Step.trace steps (Client.start (some (.token token')) keeps replies) :=
  Step.trace_alike steps (start_alike _ _ keeps replies)

end SuiteTrigger.Remote

namespace SuiteTrigger.Command

open Http

section Upheld

variable {P : (α : Type) → Work Client α → Prop}

theorem handle_upheld (upholds : Remote.Upholds P) (settings : Settings) (name path : String)
    (bytes : List UInt8) (dryRun : Bool) : P Outcome (handle settings name path bytes dryRun) := by
  unfold handle
  refine upholds.bind (upholds.attempt ?_) fun outcome => ?_
  · refine upholds.bind (upholds.ofExcept _) fun payload => ?_
    exact upholds.ops.handlePayload _ name _
  · cases outcome with
    | ok applied => exact upholds.pure _
    | error failure =>
      dsimp only
      cases failure.isMalformed with
      | true => exact upholds.logged _ _ (upholds.pure _)
      | false =>
        cases failure.isTransient with
        | true => exact upholds.logged _ _ (upholds.pure _)
        | false => exact upholds.pure _

theorem plan_upheld (upholds : Remote.Upholds P) (settings : Settings) (name path : String)
    (bytes : List UInt8) (labels : List String) :
    P Outcome (plan settings name path bytes labels) := by
  unfold plan
  cases readEvent name path bytes with
  | ok event => exact upholds.logged _ _ (upholds.pure _)
  | error failure =>
    dsimp only
    cases failure.isMalformed with
    | true => exact upholds.pure _
    | false => exact upholds.pure _

theorem runTask_upheld (upholds : Remote.Upholds P) (settings : Settings) (files : Files)
    (name path : String) (task : Task) : P Outcome (runTask settings files name path task) := by
  cases task with
  | handle dryRun =>
    dsimp only [runTask]
    split
    · exact handle_upheld upholds settings name path _ dryRun
    · exact upholds.pure _
  | plan labels =>
    dsimp only [runTask]
    split
    · exact plan_upheld upholds settings name path _ labels
    · exact upholds.pure _

theorem runCommand_upheld (upholds : Remote.Upholds P) (settings : Settings) (files : Files)
    (name : String) (args : List String) :
    P Outcome (runCommand settings files name args) := by
  unfold runCommand
  split
  · exact upholds.pure _
  · exact upholds.pure _
  · split
    · exact upholds.pure _
    · exact upholds.pure _
    · split
      · exact upholds.pure _
      · exact runTask_upheld upholds settings files _ _ _

/-- What is upheld by the steps of the client is upheld by every run of the command line. -/
theorem run_upheld (upholds : Remote.Upholds P) (settings : Settings) (files : Files)
    (args : List String) : P Outcome (run settings files args) := by
  unfold run
  split
  · exact upholds.pure _
  · exact upholds.pure _
  · exact upholds.pure _
  · exact runCommand_upheld upholds settings files _ _

end Upheld

/-- A token that is there decides nothing but how requests are authorized. -/
theorem run_token (settings : Settings) (token token' : String) (files : Files)
    (args : List String) :
    run { settings with token := some token } files args =
      run { settings with token := some token' } files args := by
  have task (name path : String) (task : Task) :
      runTask { settings with token := some token } files name path task =
        runTask { settings with token := some token' } files name path task := by
    cases task with
    | handle dryRun =>
      unfold runTask
      cases files path with
      | none => rfl
      | some bytes => rfl
    | plan labels => rfl
  unfold run runCommand
  simp only [task]

/-- With one token or another, a run of the command line comes to the same, with the same counters
and log, and sends the same requests but for their authorization. -/
theorem command_token_unseen (settings : Settings) (token token' : String) (files : Files)
    (args : List String) (replies : List Reply) :
    let run (token : String) :=
      let settings := { settings with token := some token }
      (run settings files args).on ⟨client settings replies, .empty⟩
    (run token).1 = (run token').1 ∧ (run token).2.journal = (run token').2.journal ∧
      (run token).2.platform.requests.map Request.unsigned =
        (run token').2.platform.requests.map Request.unsigned := by
  intro run
  let own := { settings with token := some token }
  let other := { settings with token := some token' }
  have first : run token = (Command.run other files args).on ⟨client own replies, .empty⟩ :=
    congrArg (Work.on · _) (run_token settings token token' files args)
  obtain ⟨outcome, after, journal⟩ := run_upheld Remote.alike_upholds other files args
    ⟨client own replies, .empty⟩ ⟨client other replies, .empty⟩
    ⟨Remote.start_alike _ _ false replies, rfl⟩
  rw [first]
  exact ⟨outcome, journal, after.requests⟩

end SuiteTrigger.Command
