import SuiteTrigger.Proofs.ErrorClasses

/-!
# Looking for a comment

A comment that may not be repeated is looked for on the pages of comments, one item after another,
up to the first that says the same (`Search`). When there is one nothing is posted, whatever comes
behind it; when all pages come and none says it, it is posted; and when something fails before one
is found, it is not posted (`comment_search`).
-/

namespace SuiteTrigger.Remote

open Http

/-- A comment says the same as a text, blanks at their ends aside. -/
def Matches (body : String) (comment : Comment) : Prop := Text.strip comment.body = Text.strip body

instance (body : String) (comment : Comment) : Decidable (Matches body comment) :=
  inferInstanceAs (Decidable (_ = _))

/-- All items are comments that say something else. -/
def Others (body : String) (items : List Json) : Prop :=
  ∀ item ∈ items, ∃ comment, Comment.read item = .ok comment ∧ ¬ Matches body comment

abbrev look (body : String) : Bool → Json → Except Failure (Client.Visit Bool) :=
  seek Comment.read (Execution.sameText body)

variable {body : String} {items before after : List Json} {item : Json} {comment : Comment}

theorem others_nil (body : String) : Others body [] :=
  fun _ inside => absurd inside List.not_mem_nil

theorem Others.cons (read : Comment.read item = .ok comment) (other : ¬ Matches body comment)
    (others : Others body items) : Others body (item :: items) := by
  intro first inside
  rcases List.mem_cons.1 inside with rfl | later
  · exact ⟨comment, read, other⟩
  · exact others first later

theorem look_same (read : Comment.read item = .ok comment) (same : Matches body comment)
    (state : Bool) : look body state item = .ok (.stop true) := by
  have wanted : Execution.sameText body comment = true := decide_eq_true same
  rw [look, seek, read, checked, Except.map, if_pos wanted]

theorem look_other (read : Comment.read item = .ok comment) (other : ¬ Matches body comment)
    (state : Bool) : look body state item = .ok (.proceed false) := by
  have unwanted : ¬ Execution.sameText body comment = true := by
    simpa [Execution.sameText, Matches] using other
  rw [look, seek, read, checked, Except.map, if_neg unwanted]

theorem look_invalid {refusal : Refusal} (invalid : Comment.read item = .error refusal)
    (state : Bool) : look body state item = .error (.refused refusal) := by
  rw [look, seek, invalid, checked, Except.map]

/-- Items that say something else are passed. -/
theorem visitAll_others (others : Others body before) (rest : List Json) :
    Client.visitAll (look body) false (before ++ rest) =
      Client.visitAll (look body) false rest := by
  induction before with
  | nil => rfl
  | cons item before ih =>
    obtain ⟨comment, read, other⟩ := others item List.mem_cons_self
    rw [List.cons_append, Client.visitAll, look_other read other]
    exact ih fun item later => others item (List.mem_cons_of_mem _ later)

theorem visitAll_found (others : Others body before) (read : Comment.read item = .ok comment)
    (same : Matches body comment) (after : List Json) :
    Client.visitAll (look body) false (before ++ item :: after) = .ok (.stop true) := by
  rw [visitAll_others others, Client.visitAll, look_same read same]

theorem visitAll_invalid_item {refusal : Refusal} (others : Others body before)
    (invalid : Comment.read item = .error refusal) (after : List Json) :
    Client.visitAll (look body) false (before ++ item :: after) = .error (.refused refusal) := by
  rw [visitAll_others others, Client.visitAll, look_invalid invalid]

theorem visitAll_absent (others : Others body items) :
    Client.visitAll (look body) false items = .ok (.proceed false) := by
  have all := visitAll_others others []
  rwa [List.append_nil] at all

/-- The first item that is not another comment says the same or is no comment. -/
theorem items_cases (body : String) (items : List Json) :
    Others body items ∨
      (∃ before item after comment, items = before ++ item :: after ∧ Others body before ∧
        Comment.read item = .ok comment ∧ Matches body comment) ∨
      ∃ before item after refusal, items = before ++ item :: after ∧ Others body before ∧
        Comment.read item = .error refusal := by
  induction items with
  | nil => exact .inl (others_nil body)
  | cons item items ih =>
    cases read : Comment.read item with
    | error refusal => exact .inr (.inr ⟨[], item, items, refusal, rfl, others_nil body, read⟩)
    | ok comment =>
      by_cases same : Matches body comment
      · exact .inr (.inl ⟨[], item, items, comment, rfl, others_nil body, read, same⟩)
      have onward {before : List Json} (others : Others body before) :
          Others body (item :: before) := others.cons read same
      rcases ih with others | ⟨before, found, after, which, rfl, others, rest⟩ |
        ⟨before, bad, after, refusal, rfl, others, rest⟩
      · exact .inl (onward others)
      · exact .inr (.inl ⟨item :: before, found, after, which, rfl, onward others, rest⟩)
      · exact .inr (.inr ⟨item :: before, bad, after, refusal, rfl, onward others, rest⟩)

/-- What looking for a comment comes to. -/
inductive Verdict where
  | found
  | absent
  | broken (error : CallError)

/-- What a scan gives that comes to a verdict. -/
def Verdict.outcome : Verdict → Except CallError Bool
  | .found => .ok true
  | .absent => .ok false
  | .broken e => .error e

/-- What looking for a comment comes to from a client and a reference on, how many pages it asks
for, and the client that it leaves. The first page on which an item says the same or something
fails is the last one that is asked for. -/
inductive Search (body : String) : Client → String → Verdict → Nat → Client → Prop
  | found {c d : Client} {reference : String} {page : Page} {before after : List Json}
      {item : Json} {comment : Comment} (gives : c.Gives reference page d)
      (lists : page.items = .ok (before ++ item :: after)) (others : Others body before)
      (read : Comment.read item = .ok comment) (same : Matches body comment) :
      Search body c reference .found 1 d
  | absent {c d : Client} {reference : String} {page : Page} {items : List Json}
      (gives : c.Gives reference page d) (lists : page.items = .ok items)
      (others : Others body items) (ends : page.next = none) :
      Search body c reference .absent 1 d
  | unled {c : Client} {reference : String} {f : Failure}
      (led : target [] reference = .error f) :
      Search body c reference (.broken (.failure f)) 0 c
  | unanswered {c d : Client} {reference url : String} {e : CallError}
      (led : target [] reference = .ok url) (raises : c.send (c.pageRequest url) = (.error e, d)) :
      Search body c reference (.broken e) 1 d
  | unlisted {c d : Client} {reference : String} {page : Page} {f : Failure}
      (gives : c.Gives reference page d) (lists : page.items = .error f) :
      Search body c reference (.broken (.failure f)) 1 d
  | invalid {c d : Client} {reference : String} {page : Page} {before after : List Json}
      {item : Json} {refusal : Refusal} (gives : c.Gives reference page d)
      (lists : page.items = .ok (before ++ item :: after)) (others : Others body before)
      (unread : Comment.read item = .error refusal) :
      Search body c reference (.broken (.failure (.refused refusal))) 1 d
  | later {c d e : Client} {reference next : String} {page : Page} {items : List Json}
      {verdict : Verdict} {n : Nat} (gives : c.Gives reference page d)
      (lists : page.items = .ok items) (others : Others body items)
      (names : page.next = some next) (rest : Search body d next verdict n e) :
      Search body c reference verdict (n + 1) e

variable {c d : Client} {reference : String} {verdict : Verdict} {n : Nat}

theorem Search.scans (search : Search body c reference verdict n d) :
    Client.Scans (look body) c reference false verdict.outcome n d := by
  have visited {page : Page} {items : List Json} (lists : page.items = .ok items) :
      page.items.bind (Client.visitAll (look body) false) =
        Client.visitAll (look body) false items := by
    rw [lists, Except.bind]
  induction search with
  | found gives lists others read same =>
    exact .stopped gives ((visited lists).trans (visitAll_found others read same _))
  | absent gives lists others ends =>
    exact .last gives ((visited lists).trans (visitAll_absent others)) ends
  | unled led => exact .unled led
  | unanswered led raises => exact .unanswered led raises
  | unlisted gives lists => exact .unread gives (by rw [lists, Except.bind])
  | invalid gives lists others unread =>
    exact .unread gives ((visited lists).trans (visitAll_invalid_item others unread _))
  | later gives lists others names rest ih =>
    exact .later gives ((visited lists).trans (visitAll_absent others)) names ih

theorem search_exists (body : String) (c : Client) (reference : String) :
    ∃ verdict n d, Search body c reference verdict n d := by
  -- the replies become fewer with every page
  induction left : c.replies.length using Nat.strongRecOn generalizing c reference with
  | ind size ih =>
  cases led : target [] reference with
  | error f => exact ⟨_, _, _, .unled led⟩
  | ok url =>
    cases sent : c.send (c.pageRequest url) with
    | mk answered d =>
    cases answered with
    | error e => exact ⟨_, _, _, .unanswered led sent⟩
    | ok page =>
      have gives : c.Gives reference page d := ⟨url, led, sent⟩
      cases lists : page.items with
      | error f => exact ⟨_, _, _, .unlisted gives lists⟩
      | ok items =>
        rcases items_cases body items with others |
          ⟨before, item, after, comment, rfl, others, read, same⟩ |
          ⟨before, item, after, refusal, rfl, others, unread⟩
        · cases names : page.next with
          | none => exact ⟨_, _, _, .absent gives lists others names⟩
          | some next =>
            obtain ⟨reply, script, -⟩ := gives.taken
            have fewer : d.replies.length < size := by
              rw [← left, script]
              exact Nat.lt_succ_self _
            obtain ⟨verdict, n, e, rest⟩ := ih _ fewer d next rfl
            exact ⟨verdict, n + 1, e, .later gives lists others names rest⟩
        · exact ⟨_, _, _, .found gives lists others read same⟩
        · exact ⟨_, _, _, .invalid gives lists others unread⟩

/-- Comments are what items are read as. -/
abbrev Reads : List Json → List Comment → Prop :=
  List.Forall₂ fun item comment => Comment.read item = .ok comment

variable {comments all found : List Comment}

/-- What is collected from items are all of their comments. -/
theorem reads_of_collect {result : Client.Visit (List Comment)}
    (visited : Client.visitAll (collect Comment.read) found items = .ok result) :
    ∃ comments, Reads items comments ∧ result = .proceed (found ++ comments) := by
  induction items generalizing found with
  | nil =>
    cases visited
    exact ⟨[], .nil, by rw [List.append_nil]⟩
  | cons item items ih =>
    rw [Client.visitAll, collect] at visited
    cases read : Comment.read item with
    | error refusal =>
      rw [read] at visited
      cases visited
    | ok comment =>
      rw [read] at visited
      obtain ⟨comments, reads, rfl⟩ := ih visited
      exact ⟨comment :: comments, .cons read reads, by rw [List.append_assoc]; rfl⟩

theorem others_of_reads (reads : Reads items comments)
    (other : ∀ comment ∈ comments, ¬ Matches body comment) : Others body items := by
  induction reads with
  | nil => exact others_nil body
  | cons read reads ih =>
    refine .cons read (other _ List.mem_cons_self) (ih ?_)
    exact fun comment there => other comment (List.mem_cons_of_mem _ there)

/-- The first comment that says the same stands behind others. -/
theorem found_of_reads (reads : Reads items comments)
    (some : ∃ comment ∈ comments, Matches body comment) :
    ∃ before item after comment, items = before ++ item :: after ∧ Others body before ∧
      Comment.read item = .ok comment ∧ Matches body comment := by
  induction reads with
  | nil =>
    obtain ⟨comment, inside, -⟩ := some
    exact absurd inside List.not_mem_nil
  | @cons first comment items comments read reads ih =>
    by_cases same : Matches body comment
    · exact ⟨[], first, items, comment, rfl, others_nil body, read, same⟩
    · have later : ∃ comment ∈ comments, Matches body comment := by
        obtain ⟨other, inside, matching⟩ := some
        rcases List.mem_cons.1 inside with rfl | later
        · exact absurd matching same
        · exact ⟨other, later, matching⟩
      obtain ⟨before, item, after, found, rfl, others, rest⟩ := ih later
      exact ⟨first :: before, item, after, found, rfl, others.cons read same, rest⟩

/-- Where all comments can be read, one is found exactly when it is among them, on one of the pages
that they are on. -/
theorem search_of_full {outcome : Except CallError (List Comment)}
    (scans : Client.Scans (collect Comment.read) c reference found outcome n d)
    (whole : outcome = .ok all) (body : String) :
    ∃ comments, all = found ++ comments ∧
      ((∃ comment ∈ comments, Matches body comment) →
        ∃ k e, k ≤ n ∧ Search body c reference .found k e) ∧
      ((∀ comment ∈ comments, ¬ Matches body comment) → Search body c reference .absent n d) := by
  have listed {page : Page} {found : List Comment} {result : Client.Visit (List Comment)}
      (visited : page.items.bind (Client.visitAll (collect Comment.read) found) = .ok result) :
      ∃ items comments, page.items = .ok items ∧ Reads items comments ∧
        result = .proceed (found ++ comments) := by
    cases lists : page.items with
    | error f =>
      rw [lists] at visited
      nomatch visited
    | ok items =>
      rw [lists] at visited
      obtain ⟨comments, reads, rest⟩ := reads_of_collect visited
      exact ⟨items, comments, rfl, reads, rest⟩
  induction scans with
  | unled led | unanswered led raises | unread gives visited => nomatch whole
  | stopped gives visited =>
    obtain ⟨items, comments, -, -, proceeds⟩ := listed visited
    nomatch proceeds
  | last gives visited ends =>
    obtain ⟨items, comments, lists, reads, ⟨⟩⟩ := listed visited
    refine ⟨comments, (Except.ok.inj whole).symm, ?_, ?_⟩
    · intro some
      obtain ⟨before, item, after, comment, rfl, others, read, same⟩ := found_of_reads reads some
      exact ⟨1, _, Nat.le_refl 1, .found gives lists others read same⟩
    · intro none
      exact .absent gives lists (others_of_reads reads none) ends
  | @later _ _ _ _ _ _ _ _ _ n gives visited names rest ih =>
    obtain ⟨items, comments, lists, reads, ⟨⟩⟩ := listed visited
    obtain ⟨more, rfl, found, absent⟩ := ih whole
    refine ⟨comments ++ more, List.append_assoc .., ?_, ?_⟩
    · rintro ⟨comment, inside, same⟩
      by_cases here : ∃ comment ∈ comments, Matches body comment
      · obtain ⟨before, item, after, comment, rfl, others, read, same⟩ := found_of_reads reads here
        exact ⟨1, _, Nat.succ_le_succ (Nat.zero_le n), .found gives lists others read same⟩
      · have none : ∀ comment ∈ comments, ¬ Matches body comment :=
          fun comment there matching => here ⟨comment, there, matching⟩
        have later : comment ∈ more :=
          (List.mem_append.1 inside).resolve_left fun there => none comment there same
        obtain ⟨k, e, fewer, search⟩ := found ⟨comment, later, same⟩
        exact ⟨k + 1, e, Nat.succ_le_succ fewer,
          .later gives lists (others_of_reads reads none) names search⟩
    · intro none
      refine .later gives lists (others_of_reads reads ?_) names (absent ?_)
      · exact fun comment there => none comment (List.mem_append_left _ there)
      · exact fun comment there => none comment (List.mem_append_right _ there)

variable {pr : PullRequestRef} {applied : List Action}

abbrev lookCall (body : String) : Call := .anyComment (Execution.sameText body)

theorem anyComment_search (search : Search body (called c) (commentsUrl pr.issue) verdict n d) :
    ((lookCall body).work pr.issue).Ends c
      ⟨verdict.outcome.mapError (CallError.toFailure ((lookCall body).name pr.issue)), d,
        [(lookCall body).move pr.issue]⟩ :=
  Call.scan_ends search.scans _ _ _

theorem step_found (search : Search body (called c) (commentsUrl pr.issue) .found n d)
    (applied : List Action) :
    (Execution.step ops pr false applied (.postComment body false)).Ends c
      ⟨.ok (), d, [(lookCall body).move pr.issue, .action .postComment .noop]⟩ := by
  have stands : (Execution.isRepeat ops pr body false).Ends c _ := anyComment_search search
  have noop : (Execution.applyOne ops pr (.postComment body false)).Ends c
      ⟨.ok .noop, d, [(lookCall body).move pr.issue]⟩ :=
    stands.onward ((Work.ends_log d _ _).andThen (Work.ends_pure d _))
  exact Execution.step_done noop applied

/-- Pages of comments lead to where comments are posted. -/
theorem Search.led (search : Search body c reference .absent n d) :
    ∃ url, target [] reference = .ok url := by
  cases search with
  | absent gives lists others ends =>
    obtain ⟨url, led, -⟩ := gives
    exact ⟨url, led⟩
  | later gives lists others names rest =>
    obtain ⟨url, led, -⟩ := gives
    exact ⟨url, led⟩

theorem step_absent {url : String}
    (search : Search body (called c) (commentsUrl pr.issue) .absent n d)
    (led : target [] (commentsUrl pr.issue) = .ok url) (applied : List Action) :
    ∃ e, (Execution.step ops pr false applied (.postComment body false)).Ends c e ∧
      e.platform.requests = d.requests ++ [posting url body d.authorization] := by
  obtain ⟨outcome, d', changes⟩ := changes_exist .post [] (commentsUrl pr.issue)
    (some (commentBody body)) (called d)
  have requests : d'.requests = d.requests ++ [posting url body d.authorization] :=
    changes.requests led
  have sought : (Execution.isRepeat ops pr body false).Ends c _ := anyComment_search search
  have posts : (ops.postComment pr.issue body).Ends d _ := Call.postComment_ends changes
  have applies : ∃ outcome, (Execution.applyOne ops pr (.postComment body false)).Ends c
      ⟨outcome, d',
        [(lookCall body).move pr.issue] ++ [(Call.postComment body).move pr.issue]⟩ := by
    cases answered : (outcome.mapError (CallError.toFailure
        ((Call.postComment body).name pr.issue))).bind fun data => checked (Comment.read data) with
    | error f =>
      rw [answered] at posts
      exact ⟨.error f, sought.bind posts.stop⟩
    | ok comment =>
      rw [answered] at posts
      refine ⟨.ok .applied, sought.bind (posts.onward ?_)⟩
      exact (Work.ends_log d' _ _).andThen (Work.ends_pure d' _)
  obtain ⟨outcome, applies⟩ := applies
  cases outcome with
  | ok result => exact ⟨_, Execution.step_done applies applied, requests⟩
  | error f =>
    obtain ⟨g, counted, stops⟩ := Execution.stops_exist (.postComment body false) applied f
    exact ⟨_, Execution.step_stops applies stops, requests⟩

/-- Where something fails before a comment is found, the list of actions stops. -/
theorem applyAfter_broken {e : CallError} {f g : Failure} {counted : List Counter}
    (search : Search body (called c) (commentsUrl pr.issue) (.broken e) n d)
    (becomes : e.Becomes ((lookCall body).name pr.issue) f)
    (stops : Execution.Stops (.postComment body false) applied f g counted) (rest : List Action) :
    (Execution.applyAfter ops pr false applied (.postComment body false :: rest)).Ends c
      ⟨.error g, d, (lookCall body).move pr.issue :: counted⟩ := by
  have fails : (Execution.applyOne ops pr (.postComment body false)).Ends c
      ⟨.error (e.toFailure ((lookCall body).name pr.issue)), d, [(lookCall body).move pr.issue]⟩ :=
    (anyComment_search search).stop
  rw [← CallError.becomes_iff.1 becomes] at fails
  exact (Execution.step_stops fails stops).stop

/-- What comes of a comment that may not be repeated, after other actions were applied, when looking
for it takes `n` replies, comes to a verdict and leaves a client. -/
def Concludes (c : Client) (pr : PullRequestRef) (body : String) (applied : List Action) (n : Nat)
    (d : Client) : Verdict → Prop
  | .found =>
    let step := Execution.step ops pr false applied (.postComment body false)
    let counted := [(lookCall body).move pr.issue, .action .postComment .noop]
    step.Ends c ⟨.ok (), d, counted⟩ ∧
      ∀ rest, step.Ends (c.fed (c.replies.take n ++ rest)) ⟨.ok (), d.fed rest, counted⟩
  | .absent =>
    ∃ url e, target [] (commentsUrl pr.issue) = .ok url ∧
      (Execution.step ops pr false applied (.postComment body false)).Ends c e ∧
      e.platform.requests = d.requests ++ [posting url body c.authorization]
  | .broken error =>
    ∃ f g counted, error.Becomes ((lookCall body).name pr.issue) f ∧
      Execution.Stops (.postComment body false) applied f g counted ∧
      .action .postComment .applied ∉ counted ∧
      ∀ rest, (Execution.applyAfter ops pr false applied (.postComment body false :: rest)).Ends c
        ⟨.error g, d, (lookCall body).move pr.issue :: counted⟩

theorem Search.concludes (search : Search body (called c) (commentsUrl pr.issue) verdict n d)
    (applied : List Action) : Concludes c pr body applied n d verdict := by
  cases verdict with
  | found =>
    refine ⟨step_found search applied, fun rest => ?_⟩
    have stands : ((lookCall body).work pr.issue).Ends (c.fed (c.replies.take n ++ rest)) _ :=
      Call.scan_ends (search.scans.fed rfl rest) _ _ _
    have noop : (Execution.applyOne ops pr (.postComment body false)).Ends
        (c.fed (c.replies.take n ++ rest))
        ⟨.ok .noop, d.fed rest, [(lookCall body).move pr.issue]⟩ :=
      Work.Ends.onward stands ((Work.ends_log _ _ _).andThen (Work.ends_pure _ _))
    exact Execution.step_done noop applied
  | absent =>
    obtain ⟨url, led⟩ := search.led
    obtain ⟨e, ends, requests⟩ := step_absent search led applied
    obtain ⟨gets, leads, -⟩ := search.scans.leads
    have same : d.authorization = c.authorization := leads.authorization
    exact ⟨url, e, led, ends, by rw [requests, same]⟩
  | broken error =>
    obtain ⟨g, counted, stops⟩ := Execution.stops_exist (.postComment body false) applied
      (error.toFailure ((lookCall body).name pr.issue))
    have becomes : error.Becomes ((lookCall body).name pr.issue) _ := CallError.becomes_iff.2 rfl
    refine ⟨_, g, counted, becomes, stops, ?_, applyAfter_broken search becomes stops⟩
    cases stops <;> simp

/-- A comment that may not be repeated is looked for in one way, whatever the client and its replies
are, and whatever was applied before.

It asks for the pages up to the first on which a comment says the same or something fails, and for
no other. When one says the same nothing more is sent, and the action counts as idle; the items
behind that comment and the replies behind that page play no part. When all pages come and none
says it, the next request posts the text as it stands. When something fails before, nothing is
posted, by this action or those behind it, and the action does not count as applied. Where all
comments can be read, one is found exactly when it is among them. -/
theorem comment_search (c : Client) (pr : PullRequestRef) (body : String)
    (applied : List Action) :
    (∃ verdict n d, Search body (called c) (commentsUrl pr.issue) verdict n d) ∧
      (∀ verdict n d, Search body (called c) (commentsUrl pr.issue) verdict n d →
        (∃ gets, gets.length = n ∧ (∀ r ∈ gets, r.verb = .get) ∧
          d.requests = c.requests ++ gets) ∧ Concludes c pr body applied n d verdict) ∧
      ∀ all d moves, (Remote.comments pr.issue).Ends c ⟨.ok all, d, moves⟩ →
        ((∃ comment ∈ all, Matches body comment) →
          ∃ n e, Search body (called c) (commentsUrl pr.issue) .found n e ∧
            c.requests.length + n ≤ d.requests.length) ∧
        ((∀ comment ∈ all, ¬ Matches body comment) →
          ∃ n, Search body (called c) (commentsUrl pr.issue) .absent n d) := by
  refine ⟨search_exists body _ _, ?_, ?_⟩
  · intro verdict n d search
    obtain ⟨gets, leads, length, get⟩ := search.scans.leads
    exact ⟨⟨gets, length, get, leads.requests⟩, search.concludes applied⟩
  · intro all d moves reads
    obtain ⟨outcome, m, d', scans⟩ :=
      Client.scans_exist (collect Comment.read) (called c) (commentsUrl pr.issue) []
    have ends : (Remote.comments pr.issue).Ends c _ := Call.scan_ends scans _ _ _
    cases outcome with
    | error e => nomatch congrArg Ending.outcome (reads.unique ends)
    | ok found =>
      cases reads.unique ends
      obtain ⟨comments, rfl, there, absent⟩ := search_of_full scans rfl body
      obtain ⟨gets, leads, length, -⟩ := scans.leads
      refine ⟨?_, fun none => ⟨m, absent none⟩⟩
      intro some
      obtain ⟨n, e, fewer, search⟩ := there some
      have requests : d.requests = c.requests ++ gets := leads.requests
      exact ⟨n, e, search, by rw [requests, List.length_append, length]; omega⟩

def exampleComments (headers : Headers) (items : List Json) : Reply :=
  .answered ⟨200, ("content-type", "application/json") :: headers, .json (.arr items)⟩

def exampleComment (body : String) : Json := .obj [("id", .int 1), ("body", .str body)]

/-- A client that is given a page with another comment first, and then some reply. -/
def exampleReader (second : Reply) : Client :=
  .start none false [exampleComments [("link", "<next>; rel=\"next\"")] [exampleComment "hello"],
    second]

def exampleReading (second : Reply) : Client where
  replies := [second]
  requests := [⟨.get, "https://api.github.com/u/issues/7/comments", none, none, none⟩]
  authorization := none
  pages := none
  tokens := []
  callCount := 1

/-- The same text on the second page, with blanks around it and before an item that is no comment,
holds the comment back. Without the second page nothing is posted either, and the action fails. -/
theorem trigger_on_second_page :
    let repeated := exampleReader (exampleComments [] [exampleComment " @slab-ci x\n", .null])
    let cut := exampleReader (.broken .timeout "slow")
    let post := Action.postComment "@slab-ci x" false
    (∃ gets d, gets.length = 2 ∧ (∀ r ∈ gets, r.verb = .get) ∧ d.requests = gets ∧
        (Execution.step ops exampleRef false [] post).Ends repeated
          ⟨.ok (), d, [.apiCall .comments, .action .postComment .noop]⟩) ∧
      ∃ gets f d, (∀ r ∈ gets, r.verb = .get) ∧ d.requests = gets ∧
        (Execution.apply ops exampleRef false [post]).Ends cut
          ⟨.error f, d, [.apiCall .comments, .action .postComment .failed]⟩ := by
  intro repeated cut post
  have other : Others "@slab-ci x" [exampleComment "hello"] := by
    intro item inside
    rw [List.mem_singleton.1 inside]
    exact ⟨⟨1, "hello", none⟩, rfl, by decide⟩
  have led : target [] (commentsUrl exampleRef.issue) =
      .ok "https://api.github.com/u/issues/7/comments" := ok_of_toOption (by decide +kernel)
  have ledOn : target [] "next" = .ok "https://api.github.com/next" :=
    ok_of_toOption (by decide +kernel)
  have onward {second : Reply} {verdict : Verdict} {n : Nat} {d : Client}
      (rest : Search "@slab-ci x" (exampleReading second) "next" verdict n d) :
      Search "@slab-ci x" (called (exampleReader second)) (commentsUrl exampleRef.issue) verdict
        (n + 1) d := by
    have gives : (called (exampleReader second)).Gives (commentsUrl exampleRef.issue)
        ⟨.arr [exampleComment "hello"], some "next"⟩ (exampleReading second) := ⟨_, led, rfl⟩
    exact .later gives rfl other rfl rest
  have isCall : (lookCall "@slab-ci x").move exampleRef.issue = .apiCall .comments := by
    decide +kernel
  constructor
  · obtain ⟨-, searches, -⟩ := comment_search repeated exampleRef "@slab-ci x" []
    have gives : (exampleReading (exampleComments [] [exampleComment " @slab-ci x\n",
        .null])).Gives "next" ⟨.arr [exampleComment " @slab-ci x\n", .null], none⟩ _ :=
      ⟨_, ledOn, rfl⟩
    have same : Matches "@slab-ci x" ⟨1, " @slab-ci x\n", none⟩ := by decide
    obtain ⟨⟨gets, length, get, requests⟩, held, -⟩ :=
      searches .found 2 _ (onward (.found gives rfl (others_nil _) rfl same))
    rw [isCall] at held
    exact ⟨gets, _, length, get, requests, held⟩
  · obtain ⟨-, searches, -⟩ := comment_search cut exampleRef "@slab-ci x" []
    have raises : (exampleReading (.broken .timeout "slow")).send
        ((exampleReading (.broken .timeout "slow")).pageRequest "https://api.github.com/next") =
          (.error (.lost (Break.timeout.error "slow")), _) := rfl
    obtain ⟨⟨gets, length, get, requests⟩, f, g, counted, becomes, stops, -, fails⟩ :=
      searches _ 2 _ (onward (.unanswered ledOn raises))
    cases becomes
    cases stops with
    | transient again =>
      have ends := fails []
      rw [isCall] at ends
      exact ⟨gets, _, _, get, requests, ends⟩
    | passed other => nomatch other

end SuiteTrigger.Remote
