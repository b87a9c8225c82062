import SuiteTrigger.Proofs.AddedRequests
import SuiteTrigger.Proofs.CallClasses
import SuiteTrigger.Proofs.HostRefinement

/-!
# Labels on pages

Labels come on pages, each of which names the next one. When all pages come with valid labels, the
labels are read as one set and decided on (`ReadWhole`). When the request for a page fails or an
item on it is no label, nothing is decided: what reads the labels fails and sends nothing that
changes something (`InVain`). Both hold whatever the number of pages, and wherever the marker
stands on them (`labels_whole_or_none`).
-/

namespace SuiteTrigger

open Http

namespace Remote

/-- A page of labels: its address, the answer that it comes with, and the labels on it. -/
structure LabelPage where
  url : String
  answer : Answer
  labels : List Label

def LabelPage.reply (p : LabelPage) : Reply := .answered p.answer

def labelsOn (pages : List LabelPage) : List Label := pages.flatMap (·.labels)

/-- Pages each of which comes with 200 and a list of valid labels and names the next one. The first
is named by `start`, and `stop` is what the last one names. -/
def Chained : Option String → List LabelPage → Option String → Prop
  | start, [], stop => start = stop
  | none, _ :: _, _ => False
  | some reference, p :: pages, stop =>
    target [] reference = .ok p.url ∧ p.answer.status = 200 ∧
      ∃ page items, p.answer.page = .ok page ∧ page.items = .ok items ∧
        items.mapM Label.read = .ok p.labels ∧ Chained page.next pages stop

/-- The client after it asked for pages. -/
def follow (c : Client) (pages : List LabelPage) : Client :=
  pages.foldl (fun c p => (c.send (c.pageRequest p.url)).2) c

/-- Requests ask for pages, one for each and in their order. -/
def Asks (requests : List Request) (pages : List LabelPage) : Prop :=
  requests.map (fun r => (r.verb, r.url, r.body)) = pages.map fun p => (.get, p.url, none)

/-- The page that a reference leads to is not given, or it is no list of valid labels. -/
inductive Fails (c : Client) (reference : String) : Prop
  | unled (failure : Failure) (led : target [] reference = .error failure)
  | unanswered (url : String) (e : CallError) (led : target [] reference = .ok url)
      (fails : (c.send (c.pageRequest url)).1 = .error e)
  | noList (url : String) (page : Page) (failure : Failure) (led : target [] reference = .ok url)
      (gives : (c.send (c.pageRequest url)).1 = .ok page) (holds : page.items = .error failure)
  | noLabel (url : String) (page : Page) (items : List Json) (item : Json)
      (led : target [] reference = .ok url) (gives : (c.send (c.pageRequest url)).1 = .ok page)
      (holds : page.items = .ok items) (there : item ∈ items)
      (invalid : ∀ label, Label.read item ≠ .ok label)

variable {c d : Client} {pages : List LabelPage} {rest : List Reply} {stop : Option String}
  {reference next : String}

theorem follow_leads (c : Client) (pages : List LabelPage) :
    ∃ gets, Asks gets pages ∧ c.Leads 0 gets (follow c pages) := by
  induction pages generalizing c with
  | nil => exact ⟨[], rfl, .refl c⟩
  | cons p pages ih =>
    obtain ⟨gets, asks, leads⟩ := ih (c.send (c.pageRequest p.url)).2
    refine ⟨c.pageRequest p.url :: gets, ?_, (c.send_leads _).trans leads⟩
    rw [Asks, List.map_cons, List.map_cons, asks]
    rfl

/-- What a scan that found some labels comes to behind a page: it is done, or it goes on with the
page that is named. -/
def goOn (stop : Option String) (found : List Label) (c : Client) :
    Except CallError (List Label) × Client :=
  match stop with
  | none => (.ok found, c)
  | some next => Client.scan (collect Label.read) next found c

/-- A scan gathers the labels on the pages of a chain, and goes on behind them. -/
theorem scan_chained (chained : Chained (some reference) pages stop)
    (script : c.replies = pages.map LabelPage.reply ++ rest) (found : List Label) :
    Client.scan (collect Label.read) reference found c =
      goOn stop (found ++ labelsOn pages) (follow c pages) := by
  induction pages generalizing reference c found with
  | nil =>
    obtain rfl : some reference = stop := chained
    exact congrArg (Client.scan _ reference · c) (List.append_nil found).symm
  | cons p pages ih =>
    obtain ⟨led, ok, page, items, carries, holds, reads, later⟩ := chained
    have fresh : ∀ answer, p.reply = .answered answer → answer.status ≠ 304 := by
      rintro answer ⟨⟩
      rw [ok]
      decide
    have gives : (c.send (c.pageRequest p.url)).1 = .ok page :=
      (Client.send_page _ script (.inr fresh)).trans carries
    have begins := Host.scan_begins led (Prod.ext gives rfl) holds reads Host.gather found
    have left : (c.send (c.pageRequest p.url)).2.replies = pages.map LabelPage.reply ++ rest := by
      rw [(c.send_leads _).replies, script]
      rfl
    have all : found ++ labelsOn (p :: pages) = found ++ p.labels ++ labelsOn pages :=
      (List.append_assoc ..).symm
    rw [Host.gather_proceeds] at begins
    refine begins.trans ?_
    rw [all]
    cases names : page.next with
    | none =>
      rw [names] at later
      cases pages with
      | nil =>
        obtain rfl : none = stop := later
        exact congrArg (goOn none · _) (List.append_nil _).symm
      | cons q pages => exact later.elim
    | some next =>
      rw [names] at later
      exact ih later left (found ++ p.labels)

theorem visitAll_invalid {items : List Json} {item : Json} (there : item ∈ items)
    (invalid : ∀ label, Label.read item ≠ .ok label) (found : List Label) :
    ∃ failure, Client.visitAll (collect Label.read) found items = .error failure := by
  induction items generalizing found with
  | nil => exact absurd there List.not_mem_nil
  | cons first items ih =>
    cases read : Label.read first with
    | error refusal =>
      exact ⟨.refused refusal, by simp only [Client.visitAll, collect, read, checked, Except.map]⟩
    | ok label =>
      have later : item ∈ items := by
        rcases List.mem_cons.1 there with rfl | later
        · exact absurd read (invalid label)
        · exact later
      obtain ⟨failure, fails⟩ := ih later (found ++ [label])
      refine ⟨failure, ?_⟩
      simpa only [Client.visitAll, collect, read, checked, Except.map] using fails

/-- A scan stops at a page whose items cannot all be visited. -/
theorem scan_unread {β : Type} {visit : β → Json → Except Failure (Client.Visit β)} {state : β}
    {url : String} {page : Page} {failure : Failure} (led : target [] reference = .ok url)
    (gives : (c.send (c.pageRequest url)).1 = .ok page)
    (fails : page.items.bind (Client.visitAll visit state) = .error failure) :
    Client.scan visit reference state c =
      (.error (.failure failure), (c.send (c.pageRequest url)).2) := by
  have sends : c.send (c.pageRequest url) = (.ok page, (c.send (c.pageRequest url)).2) :=
    Prod.ext gives rfl
  rw [Client.scan_eq, led]
  dsimp only
  rw [sends]
  dsimp only
  rw [fails]

/-- A scan stops at a page that fails, and leaves what the client is without the page or behind it.
-/
theorem scan_fails (fails : Fails c reference) (found : List Label) :
    ∃ e d, Client.scan (collect Label.read) reference found c = (.error e, d) ∧
      (d = c ∨ ∃ url, d = (c.send (c.pageRequest url)).2) := by
  cases fails with
  | unled failure led => exact ⟨_, c, by rw [Client.scan_eq, led], .inl rfl⟩
  | unanswered url e led fails =>
    have sends : c.send (c.pageRequest url) = (.error e, _) := Prod.ext fails rfl
    refine ⟨e, _, ?_, .inr ⟨url, rfl⟩⟩
    rw [Client.scan_eq, led]
    dsimp only
    rw [sends]
  | noList url page failure led gives holds =>
    have unread : page.items.bind (Client.visitAll (collect Label.read) found) =
        .error failure := by
      rw [holds, Except.bind]
    exact ⟨_, _, scan_unread led gives unread, .inr ⟨url, rfl⟩⟩
  | noLabel url page items item led gives holds there invalid =>
    obtain ⟨failure, fails⟩ := visitAll_invalid there invalid found
    have unread : page.items.bind (Client.visitAll (collect Label.read) found) =
        .error failure := by
      rw [holds, Except.bind, fails]
    exact ⟨_, _, scan_unread led gives unread, .inr ⟨url, rfl⟩⟩

theorem Asks.gets {requests : List Request} (asks : Asks requests pages) :
    ∀ r ∈ requests, r.verb = .get := by
  intro r inside
  have there := List.mem_map_of_mem (f := fun r : Request => (r.verb, r.url, r.body)) inside
  rw [asks] at there
  obtain ⟨p, -, same⟩ := List.mem_map.1 there
  exact (congrArg Prod.fst same).symm

/-- Only pages are asked for up to a page that fails. -/
theorem scan_in_vain (chained : Chained (some reference) pages (some next))
    (script : c.replies = pages.map LabelPage.reply ++ rest)
    (fails : Fails (follow c pages) next) (found : List Label) :
    ∃ e d gets, Client.scan (collect Label.read) reference found c = (.error e, d) ∧
      d.requests = c.requests ++ gets ∧ ∀ r ∈ gets, r.verb = .get := by
  obtain ⟨gets, asks, leads⟩ := follow_leads c pages
  obtain ⟨e, d, scanned, left⟩ := scan_fails fails (found ++ labelsOn pages)
  have whole : Client.scan (collect Label.read) reference found c = (.error e, d) :=
    (scan_chained chained script found).trans scanned
  rcases left with rfl | ⟨url, rfl⟩
  · exact ⟨e, _, gets, whole, leads.requests, asks.gets⟩
  · have more := leads.trans ((follow c pages).send_leads ((follow c pages).pageRequest url))
    refine ⟨e, _, _, whole, more.requests, ?_⟩
    intro r inside
    rcases List.mem_append.1 inside with asked | last
    · exact asks.gets r asked
    · rw [List.mem_singleton.1 last]
      rfl

variable {pr : PullRequestRef} {labels : LabelSet} {moves : List Counter}

theorem labels_ends {issue : IssueRef} {outcome : Except CallError (List Label)}
    (scanned : Client.scan (collect Label.read) (labelsUrl issue) [] (called c) = (outcome, d)) :
    (Remote.labels issue).Ends c
      ⟨outcome.mapError (CallError.toFailure s!"GET {labelsUrl issue}"), d,
        [.apiCall (Endpoint.ofUrl (labelsUrl issue))]⟩ := by
  rw [Remote.labels]
  refine (countCall_ends c _).bind ?_
  refine (Work.ends_log _ _ _).andThen (Work.ends_change ?_)
  rw [scanned]

theorem readLabels_chained (chained : Chained (some (labelsUrl pr.issue)) pages none)
    (script : c.replies = pages.map LabelPage.reply ++ rest) :
    (ops.readLabels pr).Ends c
      ⟨.ok (LabelSet.ofList ((labelsOn pages).map (·.name))), follow (called c) pages,
        [.apiCall (Endpoint.ofUrl (labelsUrl pr.issue))]⟩ := by
  have scanned := scan_chained (c := called c) chained script []
  rw [List.nil_append, goOn] at scanned
  refine Work.Ends.bind (labels_ends scanned) ?_
  exact (Work.ends_log _ _ _).andThen (Work.ends_pure _ _)

/-- No labels are read when a page fails. -/
theorem readLabels_in_vain (chained : Chained (some (labelsUrl pr.issue)) pages (some next))
    (script : c.replies = pages.map LabelPage.reply ++ rest)
    (fails : Fails (follow (called c) pages) next) :
    ∃ failure d gets, (ops.readLabels pr).Ends c
        ⟨.error failure, d, [.apiCall (Endpoint.ofUrl (labelsUrl pr.issue))]⟩ ∧
      d.requests = c.requests ++ gets ∧ ∀ r ∈ gets, r.verb = .get := by
  obtain ⟨e, d, gets, scanned, requests, get⟩ :=
    scan_in_vain (c := called c) chained script fails []
  exact ⟨_, d, gets, (labels_ends scanned).stop, requests, get⟩

theorem mem_labelsOn {name : String} :
    name ∈ LabelSet.ofList ((labelsOn pages).map (·.name)) ↔
      ∃ p ∈ pages, ∃ label ∈ p.labels, label.name = name := by
  simp only [LabelSet.mem_ofList, labelsOn, List.mem_map, List.mem_flatMap]
  constructor
  · rintro ⟨label, ⟨p, there, on⟩, named⟩
    exact ⟨p, there, label, on, named⟩
  · rintro ⟨p, there, label, on, named⟩
    exact ⟨label, ⟨p, there, on⟩, named⟩

/-- What becomes of an event that is not ignored is decided on the labels. -/
theorem handleEvent_acts {options : Options} {event : Event} (acts : event.isIgnored = false) :
    Pipeline.handleEvent ops options event =
      Work.log .info s!"Begin handling {event.typeName} for {event.pr.describe}" >>= fun _ =>
        Pipeline.act ops options event := by
  cases event with
  | ignored pr kind action => nomatch acts
  | _ => rfl

/-- An event on which nothing is decided sends nothing after the labels were read. -/
theorem handleEvent_nothing {options : Options} {event : Event} (acts : event.isIgnored = false)
    (reads : (ops.readLabels event.pr).Ends c ⟨.ok labels, d, moves⟩)
    (none : options.config.actionsFor labels event = []) :
    (Pipeline.handleEvent ops options event).Ends c ⟨.ok [], d, moves⟩ := by
  rw [handleEvent_acts acts, Pipeline.act]
  refine (Work.ends_log _ _ _).andThen (reads.onward ?_)
  refine (Work.ends_log _ _ _).andThen ?_
  rw [none]
  exact (Work.ends_log _ _ _).andThen (Work.ends_pure _ _)

theorem handleEvent_unread {options : Options} {event : Event} {failure : Failure}
    (acts : event.isIgnored = false)
    (unread : (ops.readLabels event.pr).Ends c ⟨.error failure, d, moves⟩) :
    (Pipeline.handleEvent ops options event).Ends c ⟨.error failure, d, moves⟩ := by
  rw [handleEvent_acts acts, Pipeline.act]
  exact (Work.ends_log _ _ _).andThen unread.stop

variable {issue : IssueRef} {name url : String} {failure : Failure}

theorem removeLabel_reaches
    (led : target [("name".toList, name.toList)] (labelReference issue) = .ok url) (c : Client) :
    (Remote.removeLabel issue name).Reaches c (c.requests ++ [deletion url c.authorization]) := by
  rw [Remote.removeLabel]
  refine Work.Reaches.after (countCall_ends c _) (.after (Work.ends_log _ _ _) (.stays ?_ ?_))
  · have ran : (run s!"DELETE {labelsUrl issue}/{name}" fun c =>
        (removal (change .delete [("name".toList, name.toList)] (labelReference issue) none c).1,
          (change .delete [("name".toList, name.toList)] (labelReference issue) none c).2)).Ends
        (called c) _ := Work.ends_change rfl
    have sent : (change .delete [("name".toList, name.toList)] (labelReference issue) none
        (called c)).2.requests = c.requests ++ [deletion url c.authorization] := by
      rw [change, Client.call_eq (called c) .delete led]
      exact (Client.send_leads (called c) _).requests
    rw [← sent]
    exact ran.reaches
  · intro attached
    cases attached with
    | true => exact Work.appends_composes.pure true
    | false => exact Work.appends_composes.logged _ _ (Work.appends_composes.pure false)

/-- Nothing is sent to take a label off whose address cannot be built. -/
theorem removeLabel_unled
    (led : target [("name".toList, name.toList)] (labelReference issue) = .error failure)
    (c : Client) : (Remote.removeLabel issue name).StopsAt c (called c) := by
  have still : change .delete [("name".toList, name.toList)] (labelReference issue) none
      (called c) = (.error (.failure failure), called c) := by
    rw [change, Client.call, led]
  have stops : (run s!"DELETE {labelsUrl issue}/{name}" fun c =>
      (removal (change .delete [("name".toList, name.toList)] (labelReference issue) none c).1,
        (change .delete [("name".toList, name.toList)] (labelReference issue) none c).2)).Ends
      (called c) ⟨.error failure, called c, []⟩ := by
    refine Work.ends_change ?_
    dsimp only
    rw [still]
    rfl
  rw [Remote.removeLabel]
  exact .after (countCall_ends c _) (.after (Work.ends_log _ _ _) ⟨_, _, stops.stop⟩)

/-- What comes after the attempt of an action only adds to the requests. -/
theorem step_reaches {a : Action} {sent : List Request} (applied : List Action)
    (reaches : (Execution.applyOne ops pr a).Reaches c sent) :
    (Execution.step ops pr false applied a).Reaches c sent := by
  rw [Execution.step, if_neg Bool.false_ne_true]
  refine reaches.attempt.stays fun outcome => ?_
  cases outcome with
  | ok result => exact Work.appends_composes.count _
  | error failure =>
    dsimp only
    cases failure.isTransient with
    | true =>
      exact Work.appends_composes.counted _
        (Work.appends_composes.logged _ _ (Work.appends_composes.fail _))
    | false => exact Work.appends_composes.fail failure

/-- A step whose action fails comes to a failure. -/
theorem step_stops {a : Action} (applied : List Action)
    (stops : (Execution.applyOne ops pr a).StopsAt c d) :
    (Execution.step ops pr false applied a).StopsAt c d := by
  obtain ⟨failure, moves, ends⟩ := stops
  rw [Execution.step, if_neg Bool.false_ne_true]
  refine .after ends.attempt ?_
  dsimp only
  cases failure.isTransient with
  | true =>
    refine .after (Work.ends_count _ _) (.after (Work.ends_log _ _ _) ?_)
    exact ⟨_, _, Work.ends_fail _ _⟩
  | false => exact ⟨_, _, Work.ends_fail _ _⟩

variable {config : TriggerConfig} {a : Action} {actions : List Action}

/-- What the first action of a decision reaches, the event reaches. -/
theorem handleEvent_reaches {sent : List Request} (event : Event)
    (acts : event.isIgnored = false)
    (reads : (ops.readLabels event.pr).Ends c ⟨.ok labels, d, moves⟩)
    (decides : config.actionsFor labels event = a :: actions)
    (reaches : (Execution.applyOne ops event.pr a).Reaches d sent) :
    (Pipeline.handleEvent ops ⟨config, false⟩ event).Reaches c sent := by
  have upholds := upholds_appends.ops
  rw [handleEvent_acts acts, Pipeline.act]
  refine .after (Work.ends_log _ _ _) (.after reads (.after (Work.ends_log _ _ _) ?_))
  dsimp only
  rw [decides, if_neg (by simp), Execution.apply, Execution.applyAfter]
  refine .stays (.stays (step_reaches [] reaches) fun _ => upholds.applyAfter _ _ _ _) ?_
  intro applied
  exact upholds.told _ (fun n => s!"Finished handling {event.pr.describe}, API calls: {n}")
    (upholds.pure applied)

/-- Where the first action of a decision fails, the event fails. -/
theorem handleEvent_stops {e : Client} (event : Event) (acts : event.isIgnored = false)
    (reads : (ops.readLabels event.pr).Ends c ⟨.ok labels, d, moves⟩)
    (decides : config.actionsFor labels event = a :: actions)
    (stops : (Execution.applyOne ops event.pr a).StopsAt d e) :
    (Pipeline.handleEvent ops ⟨config, false⟩ event).StopsAt c e := by
  rw [handleEvent_acts acts, Pipeline.act]
  refine .after (Work.ends_log _ _ _) (.after reads (.after (Work.ends_log _ _ _) ?_))
  dsimp only
  rw [decides, if_neg (by simp), Execution.apply, Execution.applyAfter]
  exact (step_stops [] stops).bind.bind

/-- What the labels on a whole chain of pages are read as. -/
structure ReadWhole (c : Client) (pr : PullRequestRef) (j : Journal) (pages : List LabelPage)
    (gets : List Request) : Prop where
  labels : ∃ labels, ((ops.readLabels pr).on ⟨c, j⟩).1 = .ok labels ∧
    ∀ name, name ∈ labels ↔ ∃ p ∈ pages, ∃ label ∈ p.labels, label.name = name
  requests : ((ops.readLabels pr).on ⟨c, j⟩).2.platform.requests = c.requests ++ gets
  callCount : ((ops.readLabels pr).on ⟨c, j⟩).2.platform.callCount = c.callCount + 1
  moves : ((ops.readLabels pr).on ⟨c, j⟩).2.journal.moves =
    j.moves ++ [.apiCall (Endpoint.ofUrl (labelsUrl pr.issue))]

/-- What a marker on some page leads to: an approval sends nothing more, and a push takes the marker
off, unless its address cannot be built. -/
structure Marked (c : Client) (pr : PullRequestRef) (j : Journal) (gets : List Request)
    (config : TriggerConfig) : Prop where
  approval : ∀ dryRun,
    let run := (Pipeline.handleEvent ops ⟨config, dryRun⟩ (.reviewSubmitted pr .approved)).on ⟨c, j⟩
    run.1 = .ok [] ∧ run.2.platform.requests = c.requests ++ gets
  push : ∀ action url,
    target [("name".toList, config.approvedLabel.toList)] (labelReference pr.issue) = .ok url →
    c.requests ++ gets ++ [deletion url c.authorization] <+:
      ((Pipeline.handleEvent ops ⟨config, false⟩ (.codePush pr action)).on
        ⟨c, j⟩).2.platform.requests
  unledPush : ∀ action failure,
    target [("name".toList, config.approvedLabel.toList)] (labelReference pr.issue) =
      .error failure →
    let run := (Pipeline.handleEvent ops ⟨config, false⟩ (.codePush pr action)).on ⟨c, j⟩
    (∃ failure, run.1 = .error failure) ∧ run.2.platform.requests = c.requests ++ gets

/-- Work that fails and sends nothing that changes something. -/
def InVain {α : Type} (work : Work Client α) (c : Client) (j : Journal) : Prop :=
  (∃ failure, (work.on ⟨c, j⟩).1 = .error failure) ∧
    ∃ gets, (work.on ⟨c, j⟩).2.platform.requests = c.requests ++ gets ∧ ∀ r ∈ gets, r.verb = .get

theorem readWhole (chained : Chained (some (labelsUrl pr.issue)) pages none)
    (script : c.replies = pages.map LabelPage.reply ++ rest) {gets : List Request}
    (leads : (called c).Leads 0 gets (follow (called c) pages)) (j : Journal) :
    ReadWhole c pr j pages gets := by
  obtain ⟨outcome, platform, moves⟩ := (readLabels_chained chained script).ran j
  refine ⟨⟨_, outcome, fun name => mem_labelsOn⟩, ?_, ?_, moves⟩
  · rw [platform]
    exact leads.requests
  · rw [platform]
    exact leads.callCount

theorem marked (chained : Chained (some (labelsUrl pr.issue)) pages none)
    (script : c.replies = pages.map LabelPage.reply ++ rest) {gets : List Request}
    (leads : (called c).Leads 0 gets (follow (called c) pages)) (j : Journal)
    (marks : ∃ p ∈ pages, ∃ label ∈ p.labels, label.name = config.approvedLabel) :
    Marked c pr j gets config := by
  have reads := readLabels_chained chained script
  have there := mem_labelsOn.2 marks
  have decides (action : String) : config.actionsFor
      (LabelSet.ofList ((labelsOn pages).map (·.name))) (.codePush pr action) =
        [.removeLabel config.approvedLabel, .postComment config.fastTrigger true] := by
    rw [TriggerConfig.actionsFor, if_pos there, List.singleton_append]
  have requests : (follow (called c) pages).requests = c.requests ++ gets := leads.requests
  constructor
  · intro dryRun
    have nothing : config.actionsFor (LabelSet.ofList ((labelsOn pages).map (·.name)))
        (.reviewSubmitted pr .approved) = [] := by
      rw [TriggerConfig.actionsFor, if_pos there]
    have ends : (Pipeline.handleEvent ops ⟨config, dryRun⟩ (.reviewSubmitted pr .approved)).Ends
        c _ := handleEvent_nothing rfl reads nothing
    obtain ⟨outcome, platform, -⟩ := ends.ran j
    exact ⟨outcome, by rw [platform, requests]⟩
  · intro action url led
    have reaches : (Execution.applyOne ops pr (.removeLabel config.approvedLabel)).Reaches
        (follow (called c) pages) _ :=
      .after (Work.ends_log _ _ _) (.stays (removeLabel_reaches led _) fun attached =>
        Work.appends_composes.pure _)
    have whole := handleEvent_reaches (.codePush pr action) rfl reads (decides action)
      reaches j
    have same : (follow (called c) pages).authorization = c.authorization := leads.authorization
    rwa [requests, same] at whole
  · intro action failure led
    have stops : (Execution.applyOne ops pr (.removeLabel config.approvedLabel)).StopsAt
        (follow (called c) pages) _ :=
      .after (Work.ends_log _ _ _) (removeLabel_unled led _).bind
    obtain ⟨failure, moves, ends⟩ :=
      handleEvent_stops (.codePush pr action) rfl reads (decides action) stops
    obtain ⟨outcome, platform, -⟩ := ends.ran j
    exact ⟨⟨failure, outcome⟩, by rw [platform]; exact requests⟩

/-- The labels on all pages are read, or none are, whatever the client and its journal.

When every page of a chain comes with valid labels, all of them are read with one request for each
page, and a marker on any of the pages counts: an approval sends nothing more, and the next request
of a push takes the marker off. When a page fails behind those that came, reading the labels fails,
and so does every event that needs them, with nothing sent but requests for pages. The one call that
is counted is about labels, and the marker has an address, for the address of any repository that
looks like one. -/
theorem labels_whole_or_none (c : Client) (pr : PullRequestRef) (j : Journal)
    (pages : List LabelPage) (rest : List Reply)
    (script : c.replies = pages.map LabelPage.reply ++ rest) :
    (Chained (some (labelsUrl pr.issue)) pages none →
      ∃ gets, Asks gets pages ∧ ReadWhole c pr j pages gets ∧
        ∀ config : TriggerConfig,
          (∃ p ∈ pages, ∃ label ∈ p.labels, label.name = config.approvedLabel) →
          Marked c pr j gets config) ∧
      (∀ next, Chained (some (labelsUrl pr.issue)) pages (some next) →
        Fails (follow (called c) pages) next →
        InVain (ops.readLabels pr) c j ∧
          ∀ (options : Options) (event : Event), event.pr = pr → event.isIgnored = false →
            InVain (Pipeline.handleEvent ops options event) c j) ∧
      (0 ≤ pr.number → ¬ "access_tokens".toList <:+: pr.repoUrl.toList →
        ¬ "/issues/".toList <:+: pr.repoUrl.toList →
        Endpoint.ofUrl (labelsUrl pr.issue) = .labels) ∧
      ∀ (repo : RepositoryUrl) (marker : String), repo.text = pr.repoUrl →
        target [("name".toList, marker.toList)] (labelReference pr.issue) =
          .ok (RepositoryUrl.labelUrl (repo.rootIssue pr.number) marker) := by
  refine ⟨?_, ?_, ?_, ?_⟩
  · intro chained
    obtain ⟨gets, asks, leads⟩ := follow_leads (called c) pages
    exact ⟨gets, asks, readWhole chained script leads j,
      fun config marks => marked chained script leads j marks⟩
  · intro next chained fails
    obtain ⟨failure, d, gets, unread, requests, get⟩ := readLabels_in_vain chained script fails
    have inVain {α : Type} {work : Work Client α} {moves : List Counter}
        (ends : work.Ends c ⟨.error failure, d, moves⟩) : InVain work c j := by
      obtain ⟨outcome, platform, -⟩ := ends.ran j
      exact ⟨⟨failure, outcome⟩, gets, by rw [platform, requests], get⟩
    refine ⟨inVain unread, ?_⟩
    rintro options event rfl acts
    exact inVain (handleEvent_unread acts unread)
  · intro positive noToken noIssue
    exact ofUrl_labelsUrl positive noToken noIssue
  · intro repo marker same
    have led := repo.label_target pr.number marker
    rw [RepositoryUrl.issue, same] at led
    exact led

/-- What is computed to succeed succeeds. -/
theorem ok_of_toOption {ε α : Type} {e : Except ε α} {value : α}
    (holds : e.toOption = some value) : e = .ok value := by
  cases e with
  | ok computed => exact congrArg Except.ok (Option.some.inj holds)
  | error failure => nomatch holds

def examplePage (url : String) (headers : Headers) (name : String) : LabelPage where
  url
  answer := ⟨200, ("content-type", "application/json") :: headers,
    .json (.arr [.obj [("name", .str name)]])⟩
  labels := [⟨name, none, none⟩]

def firstPage : LabelPage :=
  examplePage "https://api.github.com/repos/org/repo/issues/7/labels"
    [("link", "<next>; rel=\"next\"")] "bug"

def markedPage : LabelPage := examplePage "https://api.github.com/next" [] "approved"

theorem firstPage_chained {pages : List LabelPage} {stop : Option String}
    (later : Chained (some "next") pages stop) :
    Chained (some (labelsUrl Host.examplePr.issue)) (firstPage :: pages) stop :=
  ⟨ok_of_toOption (by decide +kernel), rfl, ⟨.arr [.obj [("name", .str "bug")]], some "next"⟩, _,
    ok_of_toOption (by decide +kernel), rfl, rfl, later⟩

theorem markedPage_chained : Chained (some "next") [markedPage] none :=
  ⟨ok_of_toOption (by decide +kernel), rfl, _, _, rfl, rfl, rfl, rfl⟩

/-- The marker stands on the second page. An approval does nothing more, and a push takes the marker
off; when the second page does not come, the approval fails. -/
theorem marker_on_second_page :
    let whole : Client := .start none false ([firstPage, markedPage].map LabelPage.reply)
    let cut : Client := .start none false [firstPage.reply, .broken .timeout "gone"]
    let url := RepositoryUrl.labelUrl (Host.exampleRepo.rootIssue 7) "approved"
    let approval := Pipeline.handleEvent ops ⟨exampleConfig, false⟩
      (.reviewSubmitted Host.examplePr .approved)
    let push := Pipeline.handleEvent ops ⟨exampleConfig, false⟩ (.codePush Host.examplePr "opened")
    (∃ gets, Asks gets [firstPage, markedPage] ∧
        ReadWhole whole Host.examplePr .empty [firstPage, markedPage] gets) ∧
      Endpoint.ofUrl (labelsUrl Host.examplePr.issue) = .labels ∧
      (approval.on ⟨whole, .empty⟩).1 = .ok [] ∧
      deletion url whole.authorization ∈ (push.on ⟨whole, .empty⟩).2.platform.requests ∧
      InVain approval cut .empty := by
  intro whole cut url approval push
  obtain ⟨reads, -, classed, led⟩ := labels_whole_or_none whole Host.examplePr .empty
    [firstPage, markedPage] [] rfl
  obtain ⟨gets, asks, read, marks⟩ := reads (firstPage_chained markedPage_chained)
  have marked := marks exampleConfig
    ⟨markedPage, by simp, ⟨"approved", none, none⟩, List.mem_singleton.2 rfl, rfl⟩
  obtain ⟨-, vain, -, -⟩ := labels_whole_or_none cut Host.examplePr .empty [firstPage]
    [.broken .timeout "gone"] rfl
  have fails : Fails (follow (called cut) [firstPage]) "next" :=
    .unanswered "https://api.github.com/next" _ (ok_of_toOption (by decide +kernel)) rfl
  refine ⟨⟨gets, asks, read⟩, ?_, (marked.approval false).1, ?_, ?_⟩
  · exact classed (by decide) (by decide +kernel) (by decide +kernel)
  · have starts := marked.push "opened" url (led Host.exampleRepo "approved" rfl)
    exact starts.subset (List.mem_append_right _ (List.mem_singleton.2 rfl))
  · exact (vain "next" (firstPage_chained rfl) fails).2 ⟨exampleConfig, false⟩ _ rfl rfl

/-- Not every address of a repository looks like one. For a repository that is named like the
address of a token, labels that come whole are counted as a token; and where a brace opens in the
address, a push leaves the marker on, as the address to take it off at cannot be built. -/
theorem odd_repository_addresses :
    (¬ ∀ (c : Client) (pr : PullRequestRef) (pages : List LabelPage),
        c.replies = pages.map LabelPage.reply → Chained (some (labelsUrl pr.issue)) pages none →
        ((ops.readLabels pr).on ⟨c, .empty⟩).2.journal.moves = [.apiCall .labels]) ∧
      ¬ ∀ (c : Client) (pr : PullRequestRef) (pages : List LabelPage),
        (∃ rest, c.replies = pages.map LabelPage.reply ++ rest) →
        Chained (some (labelsUrl pr.issue)) pages none →
        (∃ p ∈ pages, ∃ label ∈ p.labels, label.name = exampleConfig.approvedLabel) →
        ∃ r ∈ ((Pipeline.handleEvent ops ⟨exampleConfig, false⟩ (.codePush pr "opened")).on
          ⟨c, .empty⟩).2.platform.requests, r.verb = .delete := by
  constructor
  · intro counts
    let repoUrl := "https://api.github.com/repos/o/access_tokens"
    let page := examplePage (repoUrl ++ "/issues/7/labels") [] "approved"
    have moves := counts (.start none false [page.reply])
      ⟨repoUrl, 7, none, none, some .empty⟩ [page] rfl
      ⟨ok_of_toOption (by decide +kernel), rfl, _, _, rfl, rfl, rfl, rfl⟩
    exact absurd moves (by decide +kernel)
  · intro deletes
    let page := examplePage "https://x/\x7ba:/issues/7/labels" [] "approved"
    obtain ⟨r, sent, delete⟩ := deletes (.start none false [page.reply])
      ⟨"https://x/\x7ba:", 7, none, none, some .empty⟩ [page] ⟨[], rfl⟩
      ⟨ok_of_toOption (by decide +kernel), rfl, _, _, rfl, rfl, rfl, rfl⟩
      ⟨page, by simp, ⟨"approved", none, none⟩, List.mem_singleton.2 rfl, rfl⟩
    revert r
    decide +kernel

end Remote

end SuiteTrigger
