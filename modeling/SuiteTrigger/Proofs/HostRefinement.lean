import SuiteTrigger.Proofs.Attempts
import SuiteTrigger.Proofs.MemoryEvents
import SuiteTrigger.Proofs.PercentEncoding
import SuiteTrigger.Proofs.Serving

/-!
# The code host and the platform in memory

Work on an honest code host whose answers can be read comes to what the same work on a platform in
memory with the same labels and comments comes to (`Host.refines_memory`). The operations agree one
by one; what is built from them, from a single action to the handling of a payload, mirrors the
ending it has in memory (`Host.Mirrors`). Honesty without readable answers, or behind an address
that is none, is not enough (`Host.honest_hosts_baffle`).
-/

namespace SuiteTrigger.Host

open Http Work

variable {S α β : Type} {host : Host S} {repo : RepositoryUrl} {n : Int} {s : S} {m : Memory}

theorem labels_serves (legible : host.Legible (repo.rootIssue n)) :
    host.Serves s (Remote.ops.labels (repo.issue n)) 1 [] fun found s' =>
      LabelSet.ofList (found.map (·.name)) = host.labels s n ∧ host.Keeps s s' := by
  obtain ⟨pages, listed, lists, labels⟩ := legible.showsLabels s
  refine Serves.counted (.silently (ends_log · _ _) ?_)
  refine ((lists.collect (repo.labels_target n)).serves _).weaken ?_
  rintro found s' ⟨rfl, kept⟩
  exact ⟨labels, kept⟩

theorem anyComment_serves (legible : host.Legible (repo.rootIssue n)) (body : String) :
    host.Serves s (Remote.ops.anyComment (repo.issue n) (Execution.sameText body)) 1 []
      fun found s' =>
        found = ((host.comments s n).any fun comment => Text.strip comment = Text.strip body) ∧
          host.Keeps s s' := by
  obtain ⟨pages, listed, lists, comments⟩ := legible.showsComments s
  refine Serves.counted (.silently (ends_log · _ _) ?_)
  refine ((lists.seek (repo.comments_target n) _).serves _).weaken ?_
  rintro found s' ⟨rfl, kept⟩
  refine ⟨?_, kept⟩
  have number : (repo.rootIssue n).number = n := rfl
  rw [← number, ← comments, List.any_map]
  rfl

theorem mapM_checked {read : Json → Except Refusal α} {items : List Json} {values : List α}
    (reads : items.mapM read = .ok values) :
    (items.mapM fun item => Remote.checked (read item)) = .ok values := by
  induction items generalizing values with
  | nil =>
    cases reads
    rfl
  | cons item items ih =>
    obtain ⟨value, others, first, rest, rfl⟩ := mapM_cons_ok reads
    rw [List.mapM_cons, first, ih rest]
    rfl

/-- Labels that an answer lists, if it lists any, can be read. -/
theorem ListsLabels.ends {data : Json} (lists : ListsLabels data) :
    ∃ listed, ∀ c : Client, (do
      let items ← Work.ofExcept (if data.isTruthy then itemsOf data else .ok [])
      Work.ofExcept (items.mapM fun item => Remote.checked (Label.read item))).Ends c
        ⟨.ok listed, c, []⟩ := by
  cases truthy : data.isTruthy with
  | false =>
    rw [if_neg Bool.false_ne_true]
    exact ⟨[], fun c => (ends_ofExcept c (.ok [])).andThen (ends_ofExcept c (.ok []))⟩
  | true =>
    obtain ⟨items, listed, holds, reads⟩ := lists.resolve_left (by rw [truthy]; decide)
    rw [if_pos rfl, holds]
    refine ⟨listed, fun c => (ends_ofExcept c (.ok items)).andThen ?_⟩
    rw [mapM_checked reads]
    exact ends_ofExcept c (.ok listed)

theorem addLabels_serves (legible : host.Legible (repo.rootIssue n)) (names : List String) :
    host.Serves s (Remote.ops.addLabels (repo.issue n) names) 1 [] fun _ s' =>
      host.SetsLabels s s' n ((host.labels s n).insertMany names) := by
  have answers : host.Answers s (Remote.change .post [] (Remote.labelsUrl (repo.issue n))
      (some (Remote.labelsBody names))) fun data s' =>
        ListsLabels data ∧ host.SetsLabels s s' n ((host.labels s n).insertMany names) := by
    refine change_answers (repo.labels_target n) id fun authorization answer s' answered => ?_
    obtain ⟨ok, sets⟩ := legible.adds answered
    obtain ⟨page, carries, lists⟩ := legible.added answered
    exact ⟨by rw [ok]; decide, page.data, by rw [carries]; rfl, lists, sets⟩
  refine Serves.andThen ?_ fun _ s' sets => ⟨(), fun c => ends_pure c (), sets⟩
  refine Serves.counted (.silently (ends_log · _ _) ?_)
  refine (answers.serves _).andThen ?_
  rintro data s' ⟨lists, sets⟩
  obtain ⟨listed, ends⟩ := lists.ends
  exact ⟨listed, ends, sets⟩

/-- An answer with 404 that can be read is a rejection. -/
theorem page_absent {answer : Answer} {content : Content} (absent : answer.status = 404)
    (readable : answer.body.content (answer.headers.lookup "content-type") = .ok content) :
    ∃ j, answer.page = .error (.rejected j) := by
  have failed : isSuccess answer.status ≠ true := by
    rw [absent]
    decide
  have found : phrase? 404 = some "Not Found" := by decide
  rw [Answer.page, readable]
  dsimp only
  rw [if_neg failed, reject, absent, if_neg (by decide), if_neg (by decide), if_neg (by decide),
    if_pos (by decide), rejectAs, found]
  exact ⟨_, rfl⟩

/-- A label is off an issue, and it is told whether it was on it before. -/
def TakesOff (host : Host S) (s s' : S) (n : Int) (name : String) (attached : Bool) : Prop :=
  attached = decide (name ∈ host.labels s n) ∧
    if name ∈ host.labels s n then host.SetsLabels s s' n ((host.labels s n).erase name)
    else host.Keeps s s'

/-- Only a rejection with 404 tells that there was no label to take off. -/
theorem removal_answers (legible : host.Legible (repo.rootIssue n)) (name : String) :
    host.Answers s (fun c =>
      let (outcome, c) := Remote.change .delete [("name".toList, name.toList)]
        (Remote.labelReference (repo.issue n)) none c
      (Remote.removal outcome, c)) fun attached s' => host.TakesOff s s' n name attached := by
  refine change_answers (repo.label_target n name) Remote.removal
    fun authorization answer s' answered => ?_
  have told := legible.removes answered (Percent.slash_not_mem_encode _) (Percent.decode?_encode _)
  have reads := legible.removed answered (Percent.slash_not_mem_encode _) (Percent.decode?_encode _)
  by_cases attached : name ∈ host.labels s n
  · obtain ⟨ok, sets⟩ := (if_pos attached).mp told
    obtain ⟨page, carries⟩ := (if_pos attached).mp reads
    refine ⟨by rw [ok]; decide, true, by rw [carries]; rfl, by simp [attached], ?_⟩
    rw [if_pos attached]
    exact sets
  · obtain ⟨absent, kept⟩ := (if_neg attached).mp told
    obtain ⟨content, readable⟩ := (if_neg attached).mp reads
    obtain ⟨j, rejected⟩ := page_absent absent readable
    refine ⟨by rw [absent]; decide, false, ?_, by simp [attached], ?_⟩
    · rw [rejected]
      exact if_pos ((Answer.page_rejected rejected).trans absent)
    · rw [if_neg attached]
      exact kept

theorem removeLabel_serves (legible : host.Legible (repo.rootIssue n)) (name : String) :
    host.Serves s (Remote.ops.removeLabel (repo.issue n) name) 1 [] fun attached s' =>
      host.TakesOff s s' n name attached := by
  refine Serves.counted (.silently (ends_log · _ _) ?_)
  refine ((removal_answers legible name).serves _).andThen ?_
  intro attached s' told
  refine ⟨attached, fun c => ?_, told⟩
  cases attached with
  | false => exact (ends_log _ _ _).andThen (ends_pure _ _)
  | true => exact ends_pure c true

theorem postComment_serves (legible : host.Legible (repo.rootIssue n)) (body : String) :
    host.Serves s (Remote.ops.postComment (repo.issue n) body) 1 [] fun _ s' =>
      host.SetsComments s s' n (host.comments s n ++ [body]) := by
  have answers : host.Answers s (Remote.change .post [] (Remote.commentsUrl (repo.issue n))
      (some (Remote.commentBody body))) fun data s' =>
        (∃ comment, Comment.read data = .ok comment) ∧
          host.SetsComments s s' n (host.comments s n ++ [body]) := by
    refine change_answers (repo.comments_target n) id fun authorization answer s' answered => ?_
    obtain ⟨created, -, sets⟩ := legible.posts answered
    obtain ⟨page, comment, carries, reads⟩ := legible.posted answered
    exact ⟨by rw [created]; decide, page.data, by rw [carries]; rfl, ⟨comment, reads⟩, sets⟩
  refine Serves.counted (.silently (ends_log · _ _) ?_)
  refine (answers.serves _).andThen ?_
  rintro data s' ⟨⟨comment, reads⟩, sets⟩
  refine ⟨comment, fun c => ?_, sets⟩
  rw [reads]
  exact ends_ofExcept c _

variable {pr : PullRequestRef}

theorem readLabels_serves (legible : host.Legible (repo.rootIssue n))
    (about : pr.issue = repo.issue n) :
    host.Serves s (Remote.ops.readLabels pr) 1 [] fun labels s' =>
      labels = host.labels s n ∧ host.Keeps s s' := by
  rw [Platform.readLabels, about]
  refine (labels_serves legible).andThen ?_
  rintro found s' ⟨labels, kept⟩
  refine ⟨_, fun c => (ends_log _ _ _).andThen (ends_pure _ _), labels, kept⟩

/-- What a comment's action does once the comment is known to be no repeat. -/
theorem post_serves (legible : host.Legible (repo.rootIssue n)) (agrees : host.Agrees s m)
    (about : pr.issue = repo.issue n) (body : String) :
    host.Serves s (Execution.post Remote.ops pr body) 1 [] fun result s' =>
      result = .applied ∧ host.Agrees s' (m.setComments n (m.commentsOf n ++ [body])) := by
  rw [Execution.post, about]
  refine (postComment_serves legible body).andThen ?_
  intro comment s' sets
  rw [agrees.comments] at sets
  exact ⟨_, fun c => (ends_log _ _ _).andThen (ends_pure _ _), rfl, agrees.setComments sets⟩

/-- A comment that may not be repeated is posted when no comment says the same. -/
theorem noRepeat_serves (legible : host.Legible (repo.rootIssue n)) (agrees : host.Agrees s m)
    (about : pr.issue = repo.issue n) (body : String) :
    host.Serves s (Execution.applyOne Remote.ops pr (.postComment body false))
      (m.methodsFor n (.postComment body false)).length [] fun result s' =>
        result = (if m.isIdle n (.postComment body false) then .noop else .applied) ∧
          host.Agrees s' (m.perform n (.postComment body false)) := by
  have looked : host.Serves s (Execution.isRepeat Remote.ops pr body false) 1 [] fun found s' =>
      found = m.stands n body ∧ host.Agrees s' m := by
    rw [Execution.isRepeat, if_neg Bool.false_ne_true, about]
    refine (anyComment_serves legible body).weaken ?_
    rintro found s' ⟨rfl, kept⟩
    exact ⟨by rw [agrees.comments]; rfl, agrees.keeps kept⟩
  rw [Execution.applyOne]
  cases stands : m.stands n body with
  | true =>
    have methods : m.methodsFor n (.postComment body false) = [.getComments] := by
      simp [Memory.methodsFor, stands]
    have idle : m.isIdle n (.postComment body false) = true := by
      simp [Memory.isIdle, stands]
    have same : m.perform n (.postComment body false) = m := by
      simp [Memory.perform, stands]
    rw [methods, idle, same]
    refine looked.andThen ?_
    rintro found s' ⟨rfl, agrees'⟩
    rw [stands]
    exact ⟨.noop, fun c => (ends_log _ _ _).andThen (ends_pure _ _), rfl, agrees'⟩
  | false =>
    have methods : m.methodsFor n (.postComment body false) = [.getComments, .postComment] := by
      simp [Memory.methodsFor, stands]
    have busy : m.isIdle n (.postComment body false) = false := by
      simp [Memory.isIdle, stands]
    have posts : m.perform n (.postComment body false) =
        m.setComments n (m.commentsOf n ++ [body]) := by
      simp [Memory.perform, stands]
    rw [methods, busy, posts]
    refine looked.bind ?_
    rintro found s' ⟨rfl, agrees'⟩
    rw [stands]
    exact post_serves legible agrees' about body

theorem applyOne_serves (legible : host.Legible (repo.rootIssue n)) (agrees : host.Agrees s m)
    (about : pr.issue = repo.issue n) (a : Action) :
    host.Serves s (Execution.applyOne Remote.ops pr a) (m.methodsFor n a).length []
      fun result s' => result = (if m.isIdle n a then .noop else .applied) ∧
        host.Agrees s' (m.perform n a) := by
  cases a with
  | addLabel name =>
    refine Serves.silently (ends_log · _ _) ?_
    rw [about]
    refine (addLabels_serves legible [name]).andThen ?_
    intro _ s' sets
    rw [agrees.labels] at sets
    exact ⟨_, fun c => ends_pure _ _, rfl, agrees.setLabels sets⟩
  | removeLabel name =>
    refine Serves.silently (ends_log · _ _) ?_
    rw [about]
    refine (removeLabel_serves legible name).andThen ?_
    rintro attached s' ⟨told, changed⟩
    rw [agrees.labels] at told changed
    subst told
    refine ⟨_, fun c => ends_pure _ _, ?_⟩
    by_cases attached : name ∈ m.labelsOf n
    · rw [if_pos attached] at changed
      exact ⟨by simp [Memory.isIdle, attached], agrees.setLabels changed⟩
    · rw [if_neg attached] at changed
      exact ⟨by simp [Memory.isIdle, attached], (agrees.keeps changed).eraseAbsent attached⟩
  | postComment body allowRepeats =>
    cases allowRepeats with
    | true =>
      refine Serves.silently (ends_pure · false) ?_
      exact post_serves legible agrees about body
    | false => exact noRepeat_serves legible agrees about body

theorem step_serves (legible : host.Legible (repo.rootIssue n)) (agrees : host.Agrees s m)
    (about : pr.issue = repo.issue n) (applied : List Action) (a : Action) :
    host.Serves s (Execution.step Remote.ops pr false applied a) (m.methodsFor n a).length
      [.action a.kind (if m.isIdle n a then .noop else .applied)]
      fun _ s' => host.Agrees s' (m.perform n a) := by
  rw [Execution.step, if_neg Bool.false_ne_true]
  show host.Serves s _ ((m.methodsFor n a).length + 0)
    ([] ++ [.action a.kind (if m.isIdle n a then .noop else .applied)]) _
  refine (applyOne_serves legible agrees about a).attempt.bind ?_
  rintro outcome s' ⟨result, rfl, rfl, agrees'⟩
  exact Serves.of_ends (ends_count · _) agrees'

/-! ## Work that mirrors what happens in memory -/

/-- From every state that agrees with the platform in memory the work on the host comes to the
ending: it gives the same value with as many calls, moves the same counters but those of calls, and
leaves the same labels and comments. -/
def Mirrors (host : Host S) (m : Memory) (work : Work Client α) (e : Ending Memory α) : Prop :=
  ∃ value calls, e.outcome = .ok value ∧ e.platform.calls.length = m.calls.length + calls ∧
    ∀ s, host.Agrees s m → host.Serves s work calls e.moves fun given s' =>
      given = value ∧ host.Agrees s' e.platform

theorem applyAfter_mirrors (legible : host.Legible (repo.rootIssue n))
    (about : pr.issue = repo.issue n) (applied actions : List Action) (working : m.failing = []) :
    host.Mirrors m (Execution.applyAfter Remote.ops pr false applied actions)
      (Memory.listEnding n applied actions m) := by
  induction actions generalizing applied m with
  | nil =>
    exact ⟨applied, 0, rfl, rfl, fun s agrees => .of_ends (ends_pure · applied) ⟨rfl, agrees⟩⟩
  | cons a actions ih =>
    have stillWorking : ((m.perform n a).record (m.methodsFor n a)).failing = [] := by
      rw [Memory.failing_record, Memory.failing_perform, working]
    obtain ⟨value, calls, ok, longer, serves⟩ := ih (applied ++ [a]) stillWorking
    rw [Memory.listEnding_works (Memory.not_blocks working n a)]
    refine ⟨value, (m.methodsFor n a).length + calls, ok, ?_, fun s agrees => ?_⟩
    · dsimp only
      rw [longer, Memory.record, Memory.calls_perform, List.length_append, Nat.add_assoc]
    · rw [Execution.applyAfter]
      exact (step_serves legible agrees about applied a).bind fun _ s' agrees' =>
        serves s' (agrees'.record _)

theorem act_mirrors (legible : host.Legible (repo.rootIssue n)) (config : TriggerConfig)
    {event : Event} (about : event.pr.issue = repo.issue n) (working : m.failing = []) :
    host.Mirrors m (Pipeline.act Remote.ops ⟨config, false⟩ event)
      (m.actEnding ⟨config, false⟩ event) := by
  have number : event.pr.number = n := congrArg IssueRef.number about
  have read : Method.getLabels ∉ m.failing := by
    rw [working]
    exact List.not_mem_nil
  rw [Memory.actEnding, if_neg read, number]
  dsimp only
  rw [if_neg Bool.false_ne_true]
  cases actions : config.actionsFor (m.labelsOf n) event with
  | nil =>
    refine ⟨[], 1, rfl, List.length_append, fun s agrees => ?_⟩
    rw [Pipeline.act]
    refine (readLabels_serves legible about).andThen ?_
    rintro labels s' ⟨rfl, kept⟩
    rw [agrees.labels, actions]
    refine ⟨[], fun c => (ends_log _ _ _).andThen ?_, rfl, (agrees.keeps kept).record _⟩
    rw [if_pos List.isEmpty_nil]
    exact (ends_log _ _ _).andThen (ends_pure _ _)
  | cons a rest =>
    have recorded : (m.record [.getLabels]).failing = [] := working
    obtain ⟨value, calls, ok, longer, serves⟩ :=
      applyAfter_mirrors legible about [] (a :: rest) recorded
    refine ⟨value, 1 + calls, ok, ?_, fun s agrees => ?_⟩
    · rw [longer, Memory.record, List.length_append, Nat.add_assoc]
      rfl
    · rw [Pipeline.act]
      show host.Serves s _ (1 + calls) ([] ++ _) _
      refine (readLabels_serves legible about).bind ?_
      rintro labels s' ⟨rfl, kept⟩
      rw [agrees.labels, actions]
      refine Serves.silently (ends_log · _ _) ?_
      rw [if_neg (by simp)]
      refine (serves s' ((agrees.keeps kept).record _)).andThen ?_
      rintro applied s'' ⟨rfl, agrees''⟩
      exact ⟨_, fun c => (ends_platform c).andThen ((ends_log _ _ _).andThen (ends_pure _ _)), rfl,
        agrees''⟩

theorem handleEvent_mirrors (legible : host.Legible (repo.rootIssue n)) (config : TriggerConfig)
    {event : Event} (about : event.pr.issue = repo.issue n) (working : m.failing = []) :
    host.Mirrors m (Pipeline.handleEvent Remote.ops ⟨config, false⟩ event)
      (m.eventEnding ⟨config, false⟩ event) := by
  have acts (acting : Event) (about : acting.pr.issue = repo.issue n) : host.Mirrors m (do
      Work.log .info s!"Begin handling {acting.typeName} for {acting.pr.describe}"
      Pipeline.act Remote.ops ⟨config, false⟩ acting) (m.actEnding ⟨config, false⟩ acting) := by
    obtain ⟨value, calls, ok, longer, serves⟩ := act_mirrors legible config about working
    exact ⟨value, calls, ok, longer, fun s agrees =>
      .silently (ends_log · _ _) (serves s agrees)⟩
  cases event with
  | codePush pr action => exact acts _ about
  | reviewSubmitted pr outcome => exact acts _ about
  | ignored pr kind action =>
    refine ⟨[], 0, rfl, rfl, fun s agrees => ?_⟩
    refine Serves.silently (ends_log · _ _) (.silently (ends_log · _ _) ?_)
    have counted (c : Client) : (do
        Work.count (.skipped kind .action)
        return ([] : List Action)).Ends c ⟨.ok [], c, [.skipped kind .action]⟩ :=
      (ends_count c _).bind (ends_pure c _)
    exact Serves.of_ends counted ⟨rfl, agrees⟩

/-- A client that takes the answers of the host to all that it sends comes to the same outcome as
work on the platform in memory. The same counters move but those of calls, as many calls are made,
and then the labels and comments of all issues are the same. Replies behind the answers are left. -/
def Refines (host : Host S) (s : S) (m : Memory) (far : Work Client α) (near : Work Memory α)
    (outcome : Except Failure α) : Prop :=
  ∀ c : Client, ∃ sent, ∀ rest,
    let remote := far.on ⟨c.fed (host.answers s sent ++ rest), .empty⟩
    let inMemory := near.on ⟨m, .empty⟩
    remote.2.platform.requests = c.requests ++ sent ∧
    remote.2.platform.replies = rest ∧
    remote.1 = outcome ∧ inMemory.1 = outcome ∧
    Counter.others remote.2.journal.moves = inMemory.2.journal.moves ∧
    (∃ calls, Remote.ops.callCount remote.2.platform = Remote.ops.callCount c + calls ∧
      Memory.ops.callCount inMemory.2.platform = Memory.ops.callCount m + calls) ∧
    host.Agrees (host.after s sent) inMemory.2.platform

theorem Mirrors.refines {far : Work Client α} {near : Work Memory α} {e : Ending Memory α}
    (mirrors : host.Mirrors m far e) (ends : near.Ends m e) (agrees : host.Agrees s m) :
    host.Refines s m far near e.outcome := by
  obtain ⟨value, calls, ok, longer, serves⟩ := mirrors
  intro c
  obtain ⟨sent, given, d, moves, run, requests, callCount, besides, rfl, agrees'⟩ :=
    serves s agrees c
  refine ⟨sent, fun rest => ?_⟩
  obtain ⟨outcome, platform, moved⟩ := (run rest).on_eq
  obtain ⟨outcome', platform', moved'⟩ := ends.on_eq
  dsimp only
  rw [outcome, platform, moved, outcome', platform', moved', ok]
  exact ⟨requests, rfl, rfl, rfl, besides, ⟨calls, callCount, longer⟩, agrees'⟩

theorem outcome_listEnding (working : m.failing = []) (n : Int) (applied actions : List Action) :
    (Memory.listEnding n applied actions m).outcome = .ok (applied ++ actions) := by
  have same : m.contents = m.contents := rfl
  rcases Memory.listEnding_cases same rfl n applied actions with
    ⟨-, succeeds⟩ | ⟨done, ⟨a, rest, -, -, blocked⟩, -⟩
  · exact succeeds.outcome
  · have stillWorking : (m.performAll n done).failing = [] := by
      rw [Memory.failing_performAll, working]
    exact absurd blocked (Memory.not_blocks stillWorking n a)

/-- A payload that tells of no event is refused before anything is sent. -/
theorem refines_refused {name : String} {data : Json} {failure : Failure}
    (refused : Event.ofDelivered name data = .error failure) (agrees : host.Agrees s m)
    (options : Options) :
    host.Refines s m (Pipeline.handlePayload Remote.ops options name data)
      (Pipeline.handlePayload Memory.ops options name data) (.error failure) := by
  have stops {σ : Type} (p : Platform σ) (q : σ) :
      (Pipeline.handlePayload p options name data).Ends q ⟨.error failure, q, []⟩ := by
    rw [Pipeline.handlePayload, refused]
    exact (ends_ofExcept q (.error failure)).stop
  intro c
  refine ⟨[], fun rest => ?_⟩
  obtain ⟨outcome, platform, moved⟩ := (stops Remote.ops (c.fed rest)).on_eq
  obtain ⟨outcome', platform', moved'⟩ := (stops Memory.ops m).on_eq
  rw [answers, List.nil_append]
  dsimp only
  rw [outcome, platform, moved, outcome', platform', moved']
  exact ⟨(List.append_nil _).symm, rfl, rfl, rfl, rfl, ⟨0, rfl, rfl⟩, agrees⟩

/-- A code host that is honest and can be read refines the platform in memory. From labels and
comments that are the same, carrying out any actions on an issue, and handling any payload about it,
comes to the same over HTTP and in memory: all actions are carried out, and a payload that tells of
no event is refused alike. -/
theorem refines_memory {S : Type} {host : Host S} {repo : RepositoryUrl} {n : Int}
    (legible : host.Legible (repo.rootIssue n)) {s : S} {m : Memory} (agrees : host.Agrees s m)
    (working : m.failing = []) :
    (∀ pr actions, pr.issue = repo.issue n →
      host.Refines s m (Execution.apply Remote.ops pr false actions)
        (Execution.apply Memory.ops pr false actions) (.ok actions)) ∧
    ∀ config name data,
      (∀ event, Event.ofDelivered name data = .ok event → event.pr.issue = repo.issue n) →
      host.Refines s m (Pipeline.handlePayload Remote.ops ⟨config, false⟩ name data)
        (Pipeline.handlePayload Memory.ops ⟨config, false⟩ name data)
        ((Event.ofDelivered name data).map (m.decided config)) := by
  constructor
  · intro pr actions about
    have number : pr.number = n := congrArg IssueRef.number about
    have ends := Memory.applyAfter_ends pr [] actions m
    rw [number] at ends
    have refines := (applyAfter_mirrors legible about [] actions working).refines ends agrees
    rwa [outcome_listEnding working] at refines
  · intro config name data about
    cases parsed : Event.ofDelivered name data with
    | error failure => exact refines_refused parsed agrees ⟨config, false⟩
    | ok event =>
      have ends := Memory.handlePayload_ends parsed ⟨config, false⟩ m
      obtain ⟨value, calls, ok, longer, serves⟩ :=
        handleEvent_mirrors legible config (about event parsed) working
      have mirrors : host.Mirrors m (Pipeline.handlePayload Remote.ops ⟨config, false⟩ name data)
          (m.eventEnding ⟨config, false⟩ event) := by
        refine ⟨value, calls, ok, longer, fun s agrees => ?_⟩
        rw [Pipeline.handlePayload, parsed]
        exact .silently (ends_ofExcept · (.ok event)) (serves s agrees)
      have refines := mirrors.refines ends agrees
      rwa [(Memory.eventEnding_succeeds working config event).outcome] at refines

def exampleRepo : RepositoryUrl where
  scheme := "https".toList
  authority := "api.github.com".toList
  path := "/repos/org/repo".toList
  https := by decide
  hosted := by decide
  holds := by rfl
  ends := by decide
  rooted := .inr ⟨"repos/org/repo".toList, by decide⟩
  plain := Text.forall_of_all (by decide)

def examplePr : PullRequestRef := ⟨exampleRepo.text, 7, none, none, some .empty⟩

def exampleState : Memory := ⟨[(7, .ofList ["ready"])], [(7, ["@slab-ci cpu_test"])], [], []⟩

def exampleReview : Json :=
  .obj [("action", .str "submitted"),
    ("repository", .obj [("id", .int 1), ("name", .str "r"), ("url", .str exampleRepo.text)]),
    ("pull_request", .obj [("number", .int 7)]), ("review", .obj [("state", .str "approved")])]

/-- Two actions and an approval on a host that keeps what a platform in memory keeps. -/
theorem approval_refined :
    let host := Memory.host .plain (exampleRepo.rootIssue 7)
    host.Legible (exampleRepo.rootIssue 7) ∧ host.Agrees exampleState exampleState ∧
      exampleState.failing = [] ∧
      host.Refines exampleState exampleState
        (Execution.apply Remote.ops examplePr false
          [.removeLabel "ready", .postComment "@slab-ci cpu_test " false])
        (Execution.apply Memory.ops examplePr false
          [.removeLabel "ready", .postComment "@slab-ci cpu_test " false])
        (.ok [.removeLabel "ready", .postComment "@slab-ci cpu_test " false]) ∧
      host.Refines exampleState exampleState
        (Pipeline.handlePayload Remote.ops ⟨exampleConfig, false⟩ "pull_request_review"
          exampleReview)
        (Pipeline.handlePayload Memory.ops ⟨exampleConfig, false⟩ "pull_request_review"
          exampleReview)
        (.ok [.addLabel "approved", .postComment exampleConfig.fullTrigger true]) := by
  have legible := Memory.host_legible (exampleRepo.rootIssue 7)
  have agrees : (Memory.host .plain (exampleRepo.rootIssue 7)).Agrees exampleState exampleState :=
    ⟨fun _ => rfl, fun _ => rfl⟩
  have tells : Event.ofDelivered "pull_request_review" exampleReview =
      .ok (.reviewSubmitted examplePr .approved) := rfl
  obtain ⟨applies, handles⟩ := refines_memory legible agrees rfl
  refine ⟨legible, agrees, rfl, applies examplePr _ rfl, ?_⟩
  have handled := handles exampleConfig "pull_request_review" exampleReview ?_
  · rwa [tells] at handled
  · rw [tells]
    rintro event ⟨⟩
    rfl

/-- On an honest host that keeps what a platform in memory keeps, actions that are all carried out
in memory come to a failure over HTTP. The client takes exactly the answers to what it sends. -/
structure Baffles (host : Host Memory) (m : Memory) (pr : PullRequestRef) (actions : List Action) :
    Prop where
  honest : host.Honest pr.issue
  agrees : host.Agrees m m
  working : m.failing = []
  near : ((Execution.apply Memory.ops pr false actions).on ⟨m, .empty⟩).1 = .ok actions
  far : ∃ sent failure,
    let remote := (Execution.apply Remote.ops pr false actions).on
      ⟨.start none false (host.answers m sent), .empty⟩
    remote.2.platform.requests = sent ∧ remote.2.platform.replies = [] ∧ remote.1 = .error failure

/-- Comments are listed by their texts, without numbers. -/
def numberless : Memory.Wording :=
  { Memory.Wording.plain with listed := fun comment => .obj [("body", .str comment.body)] }

/-- The comment that was posted is named by its number, and its text is left out. -/
def untold : Memory.Wording :=
  { Memory.Wording.plain with
    posted := fun id _ => Memory.answerWith 201 (.obj [("id", .int id), ("body", .null)]) }

/-- That labels were put on is confirmed, and no label is listed. -/
def confirming : Memory.Wording :=
  { Memory.Wording.plain with
    added := fun _ => Memory.answerWith 200 (.obj [("ok", .bool true)]) }

/-- That labels were put on is answered with a limit of requests that is no number. -/
def unlimited : Memory.Wording :=
  { Memory.Wording.plain with
    added := fun labels =>
      { Memory.answerLabels labels with
        headers := [("content-type", "application/json"), ("x-ratelimit-limit", "many")] } }

/-- The answer to a label that is taken off breaks off. -/
def brokenOff : Memory.Wording :=
  { Memory.Wording.plain with
    removed := fun _ => ⟨200, [("content-type", "application/json")], .bytes [0x5B]⟩ }

theorem numberless_fits : numberless.Fits :=
  { Memory.Wording.plain_fits with listed := fun _ => rfl }

theorem untold_fits : untold.Fits :=
  { Memory.Wording.plain_fits with
    created := fun _ _ => rfl
    posted := fun _ _ => ⟨_, _, _, Memory.page_answerWith rfl _, rfl, rfl⟩ }

theorem confirming_fits : confirming.Fits :=
  { Memory.Wording.plain_fits with added := fun _ => rfl }

theorem unlimited_fits : unlimited.Fits :=
  { Memory.Wording.plain_fits with added := fun _ => rfl }

theorem brokenOff_fits : brokenOff.Fits :=
  { Memory.Wording.plain_fits with removed := fun _ => rfl }

/-- A pull request in a repository whose address has a bracket that is not closed. -/
def bracketedPr : PullRequestRef :=
  ⟨"https://[api.github.com/repos/org/repo", 7, none, none, some .empty⟩

/-- A host that keeps what a platform in memory keeps baffles the client when its wording is that of
an honest host and the two runs differ. -/
theorem baffles_of_runs {w : Memory.Wording} (fits : w.Fits) {pr : PullRequestRef}
    {actions : List Action} (working : m.failing = [])
    (near : ((Execution.apply Memory.ops pr false actions).on ⟨m, .empty⟩).1 = .ok actions)
    (sent : List Request) (failure : Failure)
    (far :
      let remote := (Execution.apply Remote.ops pr false actions).on
        ⟨.start none false ((Memory.host w pr.issue).answers m sent), .empty⟩
      remote.2.platform.requests = sent ∧ remote.2.platform.replies = [] ∧
        remote.1 = .error failure) :
    Baffles (Memory.host w pr.issue) m pr actions :=
  ⟨Memory.host_honest fits pr.issue, ⟨fun _ => rfl, fun _ => rfl⟩, working, near, sent, failure, far⟩

/-- Honesty alone does not make a host refine the platform in memory. Comments are listed without
numbers, a comment is answered with its number alone, labels that are put on with an object of
something else or with a limit that is no number, a label that is taken off with JSON that breaks
off, or a bracket in the address of the repository is not closed. -/
theorem honest_hosts_baffle :
    Baffles (Memory.host numberless examplePr.issue) exampleState examplePr
        [.postComment "@slab-ci gpu_test" false] ∧
      Baffles (Memory.host untold examplePr.issue) exampleState examplePr
        [.postComment "@slab-ci cpu_test" true] ∧
      Baffles (Memory.host confirming examplePr.issue) exampleState examplePr
        [.addLabel "approved"] ∧
      Baffles (Memory.host unlimited examplePr.issue) exampleState examplePr
        [.addLabel "approved"] ∧
      Baffles (Memory.host brokenOff examplePr.issue) exampleState examplePr
        [.removeLabel "ready"] ∧
      Baffles (Memory.host .plain bracketedPr.issue) exampleState bracketedPr
        [.postComment "@slab-ci cpu_test" true] := by
  let comments := Remote.commentsUrl examplePr.issue
  let labels := Remote.labelsUrl examplePr.issue
  refine ⟨?_, ?_, ?_, ?_, ?_, ?_⟩
  · exact baffles_of_runs numberless_fits rfl rfl [(Client.start none false []).pageRequest comments]
      (.refused ⟨"Comment", [⟨[.field "id"], .missing⟩]⟩) (by decide +kernel)
  · exact baffles_of_runs untold_fits rfl rfl [Remote.posting comments "@slab-ci cpu_test" none]
      (.refused ⟨"Comment", [⟨[.field "body"], .notText⟩]⟩) (by decide +kernel)
  · exact baffles_of_runs confirming_fits rfl rfl [Remote.addition labels ["approved"] none]
      (.refused ⟨"Label", [⟨[], .notRecord "Label"⟩]⟩) (by decide +kernel)
  · exact baffles_of_runs unlimited_fits rfl rfl [Remote.addition labels ["approved"] none]
      (.badNumeral (.notInteger "many")) (by decide +kernel)
  · exact baffles_of_runs brokenOff_fits rfl rfl [removal examplePr.issue "ready".toList none]
      (.content (.unreadable (.syntaxError ⟨.expectingValue, 1, 2, 1⟩))) (by decide +kernel)
  · exact baffles_of_runs Memory.Wording.plain_fits rfl rfl [] (.badAddress .brackets)
      (by decide +kernel)

end SuiteTrigger.Host
