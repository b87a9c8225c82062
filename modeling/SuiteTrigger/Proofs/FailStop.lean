import SuiteTrigger.Proofs.Attempts
import SuiteTrigger.Proofs.Sending

/-!
# Requests for one event

For one event a client that keeps no pages asks for pages of labels, then changes one label at most,
and then posts one comment at most (`Conversation`). It goes on only after an exchange that went
well, and no change is asked for twice, whatever the replies are (`payload_conversation`).
-/

namespace SuiteTrigger.Remote

open Http

variable {auth : Option Authorization}

/-- The request of an action that may be repeated. -/
def IsFor (auth : Option Authorization) (issue : IssueRef) : Action → Request → Prop
  | .addLabel name => Adds auth issue [name]
  | .removeLabel name => Removes auth issue name
  | .postComment body _ => Posts auth issue body

theorem applyOne_sends (pr : PullRequestRef) {a : Action}
    (repeats : ∀ body, a ≠ .postComment body false) :
    (Execution.applyOne ops pr a).Sends auth (Once (IsFor auth pr.issue a)) := by
  cases a with
  | addLabel name =>
    refine .after (Work.ends_log · _ _) ?_
    exact once_then (addLabels_sends pr.issue [name]) fun _ => Work.quiet_pure _
  | removeLabel name =>
    refine .after (Work.ends_log · _ _) ?_
    exact once_then (removeLabel_sends pr.issue name) fun _ => Work.quiet_pure _
  | postComment body allowRepeats =>
    cases allowRepeats with
    | false => exact absurd rfl (repeats body)
    | true =>
      refine .after (Work.ends_pure · false) ?_
      refine once_then (postComment_sends pr.issue body) fun comment => ?_
      exact (Work.quiet_log _ _).bind fun _ => Work.quiet_pure _

theorem step_sends (pr : PullRequestRef) (applied : List Action) {a : Action}
    (repeats : ∀ body, a ≠ .postComment body false) :
    (Execution.step ops pr false applied a).Sends auth (Once (IsFor auth pr.issue a)) := by
  intro c unkept authorized
  obtain ⟨outcome, calls, sent, d, moves, ends, leads, orderly, once⟩ :=
    applyOne_sends pr repeats c unkept authorized
  rw [Execution.step, if_neg Bool.false_ne_true]
  cases outcome with
  | ok result =>
    exact ⟨_, _, _, d, _, ends.attempt.bind (Work.ends_count _ _), leads, orderly, once⟩
  | error f =>
    have stops : ∃ g moves', ((if f.isTransient then do
        Work.count (.action a.kind .failed)
        Work.log .error
          s!"{pr.describe}: {a.describe} failed after {applied.length} applied action(s)"
        Work.fail (.actionFailed f.message a applied)
      else Work.fail f : Work Client Unit)).Ends d ⟨.error g, d, moves'⟩ := by
      cases f.isTransient with
      | true =>
        exact ⟨_, _, (Work.ends_count d _).bind
          ((Work.ends_log d _ _).andThen (Work.ends_fail d _))⟩
      | false => exact ⟨_, _, Work.ends_fail d _⟩
    obtain ⟨g, moves', stops⟩ := stops
    exact ⟨_, _, _, d, _, ends.attempt.bind stops, leads, orderly, once⟩

/-- Exchanges for a first part of a list of actions, one for each. -/
def Follows (auth : Option Authorization) (issue : IssueRef) : List Action → List Exchange → Prop
  | _, [] => True
  | [], _ :: _ => False
  | a :: actions, x :: xs => IsFor auth issue a x.request ∧ Follows auth issue actions xs

theorem follows_nil (issue : IssueRef) (actions : List Action) : Follows auth issue actions [] := by
  cases actions <;> trivial

/-- Actions are carried out one after another, up to the first that fails. -/
theorem applyAfter_sends (pr : PullRequestRef) (applied : List Action) {actions : List Action}
    (repeats : ∀ body, .postComment body false ∉ actions) :
    (Execution.applyAfter ops pr false applied actions).Sends auth fun _ xs =>
      Follows auth pr.issue actions xs := by
  induction actions generalizing applied with
  | nil => exact (Work.quiet_pure applied).sends fun _ => trivial
  | cons a actions ih =>
    have first : (Execution.step ops pr false applied a).Sends auth
        (Once (IsFor auth pr.issue a)) :=
      step_sends pr applied fun body same => repeats body (same ▸ List.mem_cons_self)
    refine first.bind ?_ ?_
    · rintro f xs (rfl | ⟨x, rfl, request⟩)
      · trivial
      · exact ⟨request, follows_nil _ _⟩
    · rintro value xs ⟨x, rfl, request⟩
      have later := ih (applied ++ [a]) fun body inside =>
        repeats body (List.mem_cons_of_mem a inside)
      exact later.weaken fun outcome ys follows => ⟨request, follows⟩

theorem apply_sends (pr : PullRequestRef) (dryRun : Bool) {actions : List Action}
    (repeats : ∀ body, .postComment body false ∉ actions) :
    (Execution.apply ops pr dryRun actions).Sends auth fun _ xs =>
      Follows auth pr.issue actions xs := by
  cases dryRun with
  | false => exact applyAfter_sends pr [] repeats
  | true =>
    have quiet : (Execution.apply ops pr true actions).Quiet :=
      fun c => ⟨_, _, Memory.applyAfter_dry ops pr [] actions c⟩
    exact quiet.sends fun _ => follows_nil _ _

theorem readLabels_sends (pr : PullRequestRef) :
    (ops.readLabels pr).Sends auth fun _ xs => Pages auth (labelsUrl pr.issue) xs := by
  refine (labels_sends pr.issue).bind (fun f xs pages => pages) fun labels xs pages => ?_
  refine Work.Quiet.sends ?_ fun outcome => by rwa [List.append_nil]
  exact (Work.quiet_log _ _).bind fun _ => Work.quiet_pure _

/-- A decision posts only comments that may be repeated. -/
theorem repeats_of_decided (config : TriggerConfig) (labels : LabelSet) (event : Event)
    (body : String) : .postComment body false ∉ config.actionsFor labels event := by
  unfold TriggerConfig.actionsFor
  split
  · split <;> simp
  · split <;> simp
  · simp
  · simp

/-- Pages of labels come first, and then the exchanges for a first part of a decision. -/
def Answers (auth : Option Authorization) (config : TriggerConfig) (event : Event)
    (xs : List Exchange) : Prop :=
  ∃ reads acts labels, xs = reads ++ acts ∧ Pages auth (labelsUrl event.pr.issue) reads ∧
    Follows auth event.pr.issue (config.actionsFor labels event) acts

theorem act_sends (options : Options) (event : Event) :
    (Pipeline.act ops options event).Sends auth fun _ xs =>
      Answers auth options.config event xs := by
  refine (readLabels_sends event.pr).bind ?_ fun labels reads pages => ?_
  · intro f xs pages
    exact ⟨xs, [], .empty, (List.append_nil _).symm, pages, follows_nil _ _⟩
  · refine .after (Work.ends_log · _ _) ?_
    have nothing : Answers auth options.config event (reads ++ []) :=
      ⟨reads, [], labels, rfl, pages, follows_nil _ _⟩
    split
    · refine Work.Quiet.sends ?_ fun _ => nothing
      exact (Work.quiet_log _ _).bind fun _ => Work.quiet_pure _
    · refine (apply_sends event.pr options.dryRun
        (repeats_of_decided options.config labels event)).bind ?_ fun applied acts follows => ?_
      · exact fun f acts follows => ⟨reads, acts, labels, rfl, pages, follows⟩
      · refine Work.Quiet.sends ?_ fun _ => ?_
        · exact (Work.quiet_platform).bind fun _ =>
            (Work.quiet_log _ _).bind fun _ => Work.quiet_pure _
        · rw [List.append_nil]
          exact ⟨reads, acts, labels, rfl, pages, follows⟩

theorem handleEvent_sends (options : Options) (event : Event) :
    (Pipeline.handleEvent ops options event).Sends auth fun _ xs =>
      Answers auth options.config event xs := by
  unfold Pipeline.handleEvent
  refine .after (Work.ends_log · _ _) ?_
  cases event with
  | codePush pr action => exact act_sends options _
  | reviewSubmitted pr outcome => exact act_sends options _
  | ignored pr kind action =>
    have quiet := (Work.quiet_log .debug s!"Ignoring {kind} action {action} on {pr.describe}").bind
      fun _ => (Work.quiet_count (.skipped kind .action)).bind fun _ =>
        Work.quiet_pure ([] : List Action)
    exact quiet.sends fun _ => ⟨[], [], .empty, rfl, .none _, follows_nil _ _⟩

/-- The label change that an event may lead to: an approval sets the marker, and new code takes it
off. -/
def MayChange (auth : Option Authorization) (config : TriggerConfig) : Event → Request → Prop
  | .reviewSubmitted pr .approved => Adds auth pr.issue [config.approvedLabel]
  | .codePush pr _ => Removes auth pr.issue config.approvedLabel
  | _ => fun _ => False

/-- The comment that an event may lead to. -/
def MayPost (auth : Option Authorization) (config : TriggerConfig) : Event → Request → Prop
  | .reviewSubmitted pr .approved => Posts auth pr.issue config.fullTrigger
  | .codePush pr _ => Posts auth pr.issue config.fastTrigger
  | _ => fun _ => False

/-- The exchanges for one event, in three parts. -/
structure Conversation (auth : Option Authorization) (config : TriggerConfig) (event : Event)
    (reads changes posts : List Exchange) : Prop where
  isRead : Pages auth (labelsUrl event.pr.issue) reads
  oneChange : changes.length ≤ 1
  isChange : ∀ x ∈ changes, MayChange auth config event x.request
  onePost : posts.length ≤ 1
  isPost : ∀ x ∈ posts, MayPost auth config event x.request
  marked : ∀ pr, event = .reviewSubmitted pr .approved → posts ≠ [] → changes ≠ []

theorem follows_none {issue : IssueRef} {xs : List Exchange} (follows : Follows auth issue [] xs) :
    xs = [] := by
  cases xs with
  | nil => rfl
  | cons x xs => exact absurd follows id

theorem follows_one {issue : IssueRef} {a : Action} {xs : List Exchange}
    (follows : Follows auth issue [a] xs) :
    xs.length ≤ 1 ∧ ∀ x ∈ xs, IsFor auth issue a x.request := by
  cases xs with
  | nil => simp
  | cons x xs =>
    obtain ⟨request, more⟩ := follows
    obtain rfl := follows_none more
    simpa using request

/-- Exchanges for two actions are those for the first and then those for the second. -/
theorem follows_two {issue : IssueRef} {a b : Action} {xs : List Exchange}
    (follows : Follows auth issue [a, b] xs) :
    ∃ first second, xs = first ++ second ∧
      first.length ≤ 1 ∧ (∀ x ∈ first, IsFor auth issue a x.request) ∧
      second.length ≤ 1 ∧ (∀ x ∈ second, IsFor auth issue b x.request) ∧
      (second ≠ [] → first ≠ []) := by
  cases xs with
  | nil => exact ⟨[], [], rfl, by simp⟩
  | cons x xs =>
    obtain ⟨request, more⟩ := follows
    obtain ⟨one, later⟩ := follows_one more
    exact ⟨[x], xs, rfl, by simp, by simpa using request, one, later, by simp⟩

/-- What answers an event falls into the three parts of a conversation. -/
theorem Answers.conversation {config : TriggerConfig} {event : Event} {xs : List Exchange}
    (answers : Answers auth config event xs) :
    ∃ reads changes posts, xs = reads ++ (changes ++ posts) ∧
      Conversation auth config event reads changes posts := by
  obtain ⟨reads, acts, labels, rfl, pages, follows⟩ := answers
  have silent (none : Follows auth event.pr.issue [] acts) : ∃ reads' changes posts,
      reads ++ acts = reads' ++ (changes ++ posts) ∧
        Conversation auth config event reads' changes posts := by
    obtain rfl := follows_none none
    exact ⟨reads, [], [], rfl, pages, by simp, by simp, by simp, by simp, by simp⟩
  cases event with
  | codePush pr action =>
    by_cases marked : config.approvedLabel ∈ labels
    · rw [TriggerConfig.actionsFor, if_pos marked] at follows
      obtain ⟨changes, posts, rfl, oneChange, isChange, onePost, isPost, -⟩ := follows_two follows
      exact ⟨reads, changes, posts, rfl, pages, oneChange, isChange, onePost, isPost, by simp⟩
    · rw [TriggerConfig.actionsFor, if_neg marked] at follows
      obtain ⟨onePost, isPost⟩ := follows_one follows
      exact ⟨reads, [], acts, rfl, pages, by simp, by simp, onePost, isPost, by simp⟩
  | reviewSubmitted pr outcome =>
    cases outcome with
    | approved =>
      by_cases marked : config.approvedLabel ∈ labels
      · rw [TriggerConfig.actionsFor, if_pos marked] at follows
        exact silent follows
      · rw [TriggerConfig.actionsFor, if_neg marked] at follows
        obtain ⟨changes, posts, rfl, oneChange, isChange, onePost, isPost, both⟩ :=
          follows_two follows
        exact ⟨reads, changes, posts, rfl, pages, oneChange, isChange, onePost, isPost,
          fun _ _ => both⟩
    | changesRequested => exact silent follows
    | commented => exact silent follows
  | ignored pr kind action => exact silent follows

def handled (options : Options) (name : String) (data : Json) (c : Client) : Client :=
  ((Pipeline.handlePayload ops options name data).on ⟨c, .empty⟩).2.platform

theorem handled_leads {options : Options} {name : String} {data : Json} {c : Client}
    {post : Except Failure (List Action) → List Exchange → Prop}
    (sends : (Pipeline.handlePayload ops options name data).Sends auth post)
    (unkept : c.pages = none) (authorized : c.authorization = auth) :
    ∃ outcome calls sent, c.Leads calls sent (handled options name data c) ∧
      Orderly outcome (exchanges sent c.replies) ∧ post outcome (exchanges sent c.replies) := by
  obtain ⟨outcome, calls, sent, d, moves, ends, others⟩ := sends c unkept authorized
  have left : handled options name data c = d := ends.on_eq.2.1
  rw [left]
  exact ⟨outcome, calls, sent, others⟩

theorem handlePayload_sends (options : Options) {name : String} {data : Json} {event : Event}
    (parsed : Event.ofDelivered name data = .ok event) :
    (Pipeline.handlePayload ops options name data).Sends auth fun _ xs =>
      Answers auth options.config event xs := by
  rw [Pipeline.handlePayload, parsed]
  exact .after (Work.ends_ofExcept · (.ok event)) (handleEvent_sends options event)

theorem handlePayload_refused (options : Options) {name : String} {data : Json} {failure : Failure}
    (refused : Event.ofDelivered name data = .error failure) :
    (Pipeline.handlePayload ops options name data).Sends auth fun _ xs => xs = [] := by
  have quiet : (Pipeline.handlePayload ops options name data).Quiet := by
    intro c
    rw [Pipeline.handlePayload, refused]
    exact ⟨_, _, (Work.ends_ofExcept c (.error failure)).stop⟩
  exact quiet.sends fun _ => rfl

/-- No request is both the label change and the comment of an event. -/
theorem change_ne_post {config : TriggerConfig} {event : Event} {r : Request}
    (changes : MayChange auth config event r) : ¬ MayPost auth config event r := by
  intro posts
  cases event with
  | codePush pr action =>
    obtain ⟨url, -, rfl⟩ := changes
    obtain ⟨url', -, same⟩ := posts
    nomatch congrArg Request.verb same
  | reviewSubmitted pr outcome =>
    cases outcome with
    | approved =>
      obtain ⟨url, -, rfl⟩ := changes
      obtain ⟨url', -, same⟩ := posts
      exact absurd (congrArg Request.body same) (by simp [labelsBody, commentBody])
    | changesRequested => exact changes
    | commented => exact changes
  | ignored pr kind action => exact changes

/-- Nothing that changes something is sent twice in a conversation. -/
theorem Conversation.nodup {config : TriggerConfig} {event : Event}
    {reads changes posts : List Exchange}
    (talk : Conversation auth config event reads changes posts) :
    (((reads ++ (changes ++ posts)).map (·.request)).filter fun r => r.verb ≠ .get).Nodup := by
  have noRead : (reads.map (·.request)).filter (fun r => r.verb ≠ .get) = [] := by
    rw [List.filter_eq_nil_iff]
    intro r inside
    obtain ⟨x, read, rfl⟩ := List.mem_map.1 inside
    simpa using talk.isRead.gets x read
  have rest : ((changes ++ posts).map (·.request)).Nodup := by
    obtain ⟨-, oneChange, isChange, onePost, isPost, -⟩ := talk
    match changes, posts with
    | [], [] => simp
    | [], [y] => simp
    | [x], [] => simp
    | [x], [y] =>
      have differs : x.request ≠ y.request := fun same =>
        change_ne_post (isChange x List.mem_cons_self) (same ▸ isPost y List.mem_cons_self)
      simpa using differs
    | _ :: _ :: _, _ => simp at oneChange
    | _, _ :: _ :: _ => simp at onePost
  rw [List.map_append, List.filter_append, noRead, List.nil_append]
  exact rest.filter _

/-- A comment is posted for an approval only after the marker was set. -/
theorem Conversation.marked_first {config : TriggerConfig} {pr : PullRequestRef}
    {reads changes posts : List Exchange}
    (talk : Conversation auth config (.reviewSubmitted pr .approved) reads changes posts)
    (inOrder : ∀ x ∈ (reads ++ (changes ++ posts)).dropLast, x.GoesOn) (posted : posts ≠ []) :
    ∃ x answer, changes = [x] ∧ Adds auth pr.issue [config.approvedLabel] x.request ∧
      x.reply? = some (.answered answer) ∧ isSuccess answer.status = true := by
  obtain ⟨x, rest, rfl⟩ := List.exists_cons_of_ne_nil (talk.marked pr rfl posted)
  have alone : rest = [] := List.length_eq_zero_iff.1 (by simpa using talk.oneChange)
  subst alone
  have before : x ∈ (reads ++ ([x] ++ posts)).dropLast := by
    rw [← List.append_assoc, List.dropLast_append_of_ne_nil posted]
    simp
  have change : Adds auth pr.issue [config.approvedLabel] x.request :=
    talk.isChange x List.mem_cons_self
  obtain ⟨answer, answered, success | ⟨deletes, -⟩⟩ := inOrder x before
  · exact ⟨x, answer, rfl, change, answered, success⟩
  · obtain ⟨url, -, request⟩ := change
    rw [request] at deletes
    nomatch deletes

/-- What a client that keeps no pages sends for a payload, whatever the payload and the replies are:
pages of labels, then one label change at most, then one comment at most, each only after all
exchanges before it went well. Nothing that changes something is sent twice. The full trigger is
posted only after the marker was set. A payload that tells of no event leads to no request. -/
theorem payload_conversation (options : Options) (name : String) (data : Json) (c : Client)
    (unkept : c.pages = none) :
    ∃ reads changes posts,
      (handled options name data c).requests =
        c.requests ++ (reads ++ (changes ++ posts)).map (·.request) ∧
      c.exchangesTo (handled options name data c) = reads ++ (changes ++ posts) ∧
      (∀ x ∈ (reads ++ (changes ++ posts)).dropLast, x.GoesOn) ∧
      (((reads ++ (changes ++ posts)).map (·.request)).filter fun r => r.verb ≠ .get).Nodup ∧
      (∀ event, Event.ofDelivered name data = .ok event →
        Conversation c.authorization options.config event reads changes posts) ∧
      (∀ pr, Event.ofDelivered name data = .ok (.reviewSubmitted pr .approved) → posts ≠ [] →
        ∃ x answer, changes = [x] ∧
          Adds c.authorization pr.issue [options.config.approvedLabel] x.request ∧
          x.reply? = some (.answered answer) ∧ isSuccess answer.status = true) ∧
      (∀ failure, Event.ofDelivered name data = .error failure →
        reads ++ (changes ++ posts) = []) := by
  cases parsed : Event.ofDelivered name data with
  | error failure =>
    obtain ⟨outcome, calls, sent, leads, orderly, none⟩ :=
      handled_leads (handlePayload_refused options parsed) unkept rfl
    refine ⟨[], [], [], ?_, ?_, by simp, by simp, by simp, by simp, by simp⟩
    · rw [leads.requests, ← exchanges_requests sent c.replies, none]
      rfl
    · rw [leads.exchangesTo_eq, none]
      rfl
  | ok event =>
    obtain ⟨outcome, calls, sent, leads, orderly, answers⟩ :=
      handled_leads (handlePayload_sends options parsed) unkept rfl
    obtain ⟨reads, changes, posts, split, talk⟩ := answers.conversation
    have inOrder := orderly.weaken
    rw [split] at inOrder
    refine ⟨reads, changes, posts, ?_, ?_, inOrder, talk.nodup, ?_, ?_, by simp⟩
    · rw [leads.requests, ← split, exchanges_requests]
    · rw [leads.exchangesTo_eq, split]
    · rintro _ ⟨⟩
      exact talk
    · rintro pr ⟨⟩ posted
      exact talk.marked_first inOrder posted

def exampleReply (status : Int) (data : Json) : Reply :=
  .answered ⟨status, [("content-type", "application/json")], .json data⟩

/-- A client that finds no labels, sets the marker and posts a comment. -/
def exampleClient : Client :=
  .start none false [exampleReply 200 (.arr []),
    exampleReply 200 (.arr [.obj [("name", .str "approved")]]),
    exampleReply 201 (.obj [("id", .int 1)])]

/-- An approval for which everything goes well. -/
theorem approval_conversation :
    exampleClient.pages = none ∧ ∃ reads changes posts,
      Conversation none exampleConfig (.reviewSubmitted exampleRef .approved) reads changes posts ∧
        (reads ++ (changes ++ posts)).map (·.request.verb) = [.get, .post, .post] := by
  obtain ⟨reads, changes, posts, -, sent, -, -, talk, -, -⟩ := payload_conversation
    ⟨exampleConfig, false⟩ exampleApproval.name exampleApproval.data exampleClient rfl
  refine ⟨rfl, reads, changes, posts, talk _ exampleApproval_tells, ?_⟩
  rw [← sent]
  decide +kernel

end SuiteTrigger.Remote
