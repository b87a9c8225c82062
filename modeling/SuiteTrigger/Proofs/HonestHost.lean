import SuiteTrigger.Platform.Memory
import SuiteTrigger.Proofs.Addresses
import SuiteTrigger.Proofs.Exchanges
import SuiteTrigger.Proofs.MemoryCalls
import SuiteTrigger.Proofs.ValidRecords

/-!
# Honest code hosts

A code host answers requests one after another and keeps a set of labels and a list of comments for
every issue. It is honest about an issue when it lists what it keeps, in any number of pages, and
when a request that changes something is carried out and answered with the status that says so
(`Host.Honest`). That leaves it free how to word an answer; a host whose wording the client can read
is `Host.Legible`. A platform in memory behind the addresses of an issue is honest however it words
its answers (`Memory.host_honest`), and in plain wording it can be read (`Memory.host_legible`).
-/

namespace SuiteTrigger

open Http

/-- A code host: its answer to a request, and what it keeps of issues by their numbers. -/
structure Host (S : Type) where
  answer : S → Request → Answer × S
  labels : S → Int → LabelSet
  comments : S → Int → List String

namespace Host

variable {S α : Type}

def after (host : Host S) : S → List Request → S
  | s, [] => s
  | s, r :: sent => host.after (host.answer s r).2 sent

def answers (host : Host S) : S → List Request → List Reply
  | _, [] => []
  | s, r :: sent => .answered (host.answer s r).1 :: host.answers (host.answer s r).2 sent

theorem after_append (host : Host S) (s : S) (first second : List Request) :
    host.after s (first ++ second) = host.after (host.after s first) second := by
  induction first generalizing s with
  | nil => rfl
  | cons r first ih => exact ih (host.answer s r).2

theorem answers_append (host : Host S) (s : S) (first second : List Request) :
    host.answers s (first ++ second) =
      host.answers s first ++ host.answers (host.after s first) second := by
  induction first generalizing s with
  | nil => rfl
  | cons r first ih => exact congrArg (_ :: ·) (ih (host.answer s r).2)

/-- The labels and comments of all issues stay as they are. -/
structure Keeps (host : Host S) (s s' : S) : Prop where
  labels (k : Int) : host.labels s' k = host.labels s k
  comments (k : Int) : host.comments s' k = host.comments s k

theorem Keeps.refl (host : Host S) (s : S) : host.Keeps s s := ⟨fun _ => rfl, fun _ => rfl⟩

theorem Keeps.trans {host : Host S} {s s' s'' : S} (first : host.Keeps s s')
    (second : host.Keeps s' s'') : host.Keeps s s'' :=
  ⟨fun k => (second.labels k).trans (first.labels k),
    fun k => (second.comments k).trans (first.comments k)⟩

/-- An issue gets a set of labels, and all else stays as it is. -/
structure SetsLabels (host : Host S) (s s' : S) (n : Int) (set : LabelSet) : Prop where
  labels (k : Int) : host.labels s' k = if k = n then set else host.labels s k
  comments (k : Int) : host.comments s' k = host.comments s k

/-- An issue gets a list of comments, and all else stays as it is. -/
structure SetsComments (host : Host S) (s s' : S) (n : Int) (bodies : List String) : Prop where
  labels (k : Int) : host.labels s' k = host.labels s k
  comments (k : Int) : host.comments s' k = if k = n then bodies else host.comments s k

/-- The items on the pages from an address on, read one by one, are the values. There are so many
pages, each names the next one, and asking for them changes nothing. -/
def Lists (host : Host S) (read : Json → Except Refusal α) : Nat → S → String → List α → Prop
  | 0, _, _, _ => False
  | pages + 1, s, url, values => ∀ authorization mark answer s',
    host.answer s ⟨.get, url, authorization, mark, none⟩ = (answer, s') →
      answer.status = 200 ∧ host.Keeps s s' ∧ ∃ page items first rest,
        answer.page = .ok page ∧ page.items = .ok items ∧ items.mapM read = .ok first ∧
        values = first ++ rest ∧
        match page.next with
        | none => rest = []
        | some next => ∃ url', target [] next = .ok url' ∧ host.Lists read pages s' url' rest

/-- The request that takes off an issue what the last segment of its address spells. -/
def removal (issue : IssueRef) (segment : List Char) (authorization : Option Authorization) :
    Request :=
  Remote.deletion (Remote.labelsUrl issue ++ "/" ++ String.ofList segment) authorization

def told (key : String) (item : Json) : Except Refusal String :=
  (Reading.record "item" (Reading.required key Reading.text) item).toExcept "item"

/-- How a host that is honest about an issue answers the requests that are about it. -/
structure Honest (host : Host S) (issue : IssueRef) : Prop where
  /-- The names of the labels are told, in any order and as often as the host likes. -/
  listsLabels (s : S) : ∃ pages names,
    host.Lists (told "name") pages s (Remote.labelsUrl issue) names ∧
      LabelSet.ofList names = host.labels s issue.number
  /-- The texts of the comments are told in their order. -/
  listsComments (s : S) : ∃ pages,
    host.Lists (told "body") pages s (Remote.commentsUrl issue) (host.comments s issue.number)
  adds {s s' : S} {answer : Answer} {authorization : Option Authorization} {names : List String}
    (answered : host.answer s (Remote.addition (Remote.labelsUrl issue) names authorization) =
      (answer, s')) :
    answer.status = 200 ∧
      host.SetsLabels s s' issue.number ((host.labels s issue.number).insertMany names)
  /-- The name of the label to take off is percent-encoded behind the last slash. -/
  removes {s s' : S} {answer : Answer} {authorization : Option Authorization} {segment : List Char}
    {name : String} (answered : host.answer s (removal issue segment authorization) = (answer, s'))
    (last : '/' ∉ segment) (spells : Percent.decode? segment = some name.toList) :
    if name ∈ host.labels s issue.number then
      answer.status = 200 ∧
        host.SetsLabels s s' issue.number ((host.labels s issue.number).erase name)
    else answer.status = 404 ∧ host.Keeps s s'
  /-- A comment that is posted is answered with an object that has a number. -/
  posts {s s' : S} {answer : Answer} {authorization : Option Authorization} {body : String}
    (answered : host.answer s (Remote.posting (Remote.commentsUrl issue) body authorization) =
      (answer, s')) :
    answer.status = 201 ∧
      (∃ page fields id, answer.page = .ok page ∧ page.data = .obj fields ∧
        fields.lookup "id" = some (.int id)) ∧
      host.SetsComments s s' issue.number (host.comments s issue.number ++ [body])

/-- Whether a value says nothing or lists labels. -/
def ListsLabels (data : Json) : Prop :=
  data.isTruthy = false ∨
    ∃ items listed, itemsOf data = .ok items ∧ items.mapM Label.read = .ok listed

/-- An honest host whose answers can be read: it lists labels and comments as such, says nothing of
labels that are put on or lists labels, and answers a comment with a comment. -/
structure Legible (host : Host S) (issue : IssueRef) : Prop extends host.Honest issue where
  showsLabels (s : S) : ∃ pages listed,
    host.Lists Label.read pages s (Remote.labelsUrl issue) listed ∧
      LabelSet.ofList (listed.map (·.name)) = host.labels s issue.number
  showsComments (s : S) : ∃ pages listed,
    host.Lists Comment.read pages s (Remote.commentsUrl issue) listed ∧
      listed.map (·.body) = host.comments s issue.number
  added {s s' : S} {answer : Answer} {authorization : Option Authorization} {names : List String}
    (answered : host.answer s (Remote.addition (Remote.labelsUrl issue) names authorization) =
      (answer, s')) : ∃ page, answer.page = .ok page ∧ ListsLabels page.data
  removed {s s' : S} {answer : Answer} {authorization : Option Authorization} {segment : List Char}
    {name : String} (answered : host.answer s (removal issue segment authorization) = (answer, s'))
    (last : '/' ∉ segment) (spells : Percent.decode? segment = some name.toList) :
    if name ∈ host.labels s issue.number then ∃ page, answer.page = .ok page
    else ∃ content, answer.body.content (answer.headers.lookup "content-type") = .ok content
  posted {s s' : S} {answer : Answer} {authorization : Option Authorization} {body : String}
    (answered : host.answer s (Remote.posting (Remote.commentsUrl issue) body authorization) =
      (answer, s')) :
    ∃ page comment, answer.page = .ok page ∧ Comment.read page.data = .ok comment

/-- The host keeps what a platform in memory keeps. -/
structure Agrees (host : Host S) (s : S) (m : Memory) : Prop where
  labels (n : Int) : host.labels s n = m.labelsOf n
  comments (n : Int) : host.comments s n = m.commentsOf n

namespace Agrees

variable {host : Host S} {s s' : S} {m : Memory}

theorem keeps (agrees : host.Agrees s m) (kept : host.Keeps s s') : host.Agrees s' m :=
  ⟨fun n => (kept.labels n).trans (agrees.labels n),
    fun n => (kept.comments n).trans (agrees.comments n)⟩

theorem record (agrees : host.Agrees s m) (methods : List Method) :
    host.Agrees s (m.record methods) :=
  ⟨agrees.labels, agrees.comments⟩

theorem setLabels {n : Int} {set : LabelSet} (agrees : host.Agrees s m)
    (changed : host.SetsLabels s s' n set) : host.Agrees s' (m.setLabels n set) where
  labels k := by rw [changed.labels, agrees.labels, Memory.labelsOf_setLabels]
  comments k := by rw [changed.comments, agrees.comments, Memory.commentsOf_setLabels]

theorem setComments {n : Int} {bodies : List String} (agrees : host.Agrees s m)
    (changed : host.SetsComments s s' n bodies) : host.Agrees s' (m.setComments n bodies) where
  labels k := (changed.labels k).trans (agrees.labels k)
  comments k := by rw [changed.comments, agrees.comments, Memory.commentsOf_setComments]

/-- Taking off a label that is not there changes nothing. -/
theorem eraseAbsent {n : Int} {name : String} (agrees : host.Agrees s m)
    (absent : name ∉ m.labelsOf n) :
    host.Agrees s (m.setLabels n ((m.labelsOf n).erase name)) := by
  refine ⟨fun k => ?_, agrees.comments⟩
  rw [LabelSet.erase_of_not_mem absent, Memory.labelsOf_setLabels, agrees.labels]
  split
  · rename_i same
    rw [same]
  · rfl

end Agrees

end Host

namespace Memory

def answerWith (status : Int) (data : Json) : Answer :=
  ⟨status, [("content-type", "application/json")], .json data⟩

theorem content_answerWith (status : Int) (data : Json) :
    (answerWith status data).body.content ((answerWith status data).headers.lookup "content-type") =
      .ok (.value data) := rfl

theorem page_answerWith {status : Int} (success : isSuccess status = true) (data : Json) :
    (answerWith status data).page = .ok ⟨data, none⟩ := by
  have done : isSuccess (answerWith status data).status = true := success
  rw [Answer.page, content_answerWith]
  dsimp only
  rw [if_pos done]
  rfl

theorem mapM_read {α β : Type} {read : Json → Except Refusal β} {write : α → Json} {f : α → β}
    (reads : ∀ a, read (write a) = .ok (f a)) (values : List α) :
    (values.map write).mapM read = .ok (values.map f) := by
  induction values with
  | nil => rfl
  | cons a values ih =>
    rw [List.map_cons, List.mapM_cons, reads, ih]
    rfl

theorem bodies_commentsFrom (start : Nat) (bodies : List String) :
    (commentsFrom start bodies).map (·.body) = bodies := by
  induction bodies generalizing start with
  | nil => rfl
  | cons body bodies ih => rw [commentsFrom, List.map_cons, ih]

def labelsOfSet (labels : LabelSet) : List Label := labels.names.map fun name => ⟨name, none, none⟩

def answerLabels (labels : LabelSet) : Answer :=
  answerWith 200 (.arr ((labelsOfSet labels).map Label.toJson))

/-- How a host words its answers: how a comment stands in a list, and what is said of labels that
are put on, of a label that is taken off and of a comment that is posted. -/
structure Wording where
  listed : Comment → Json
  added : LabelSet → Answer
  removed : LabelSet → Answer
  posted : Int → String → Answer

namespace Wording

/-- A change of labels is answered with the labels as they are now, and a comment with itself. -/
def plain : Wording where
  listed := Comment.toJson
  added := answerLabels
  removed := answerLabels
  posted id body := answerWith 201 (Comment.toJson ⟨id, body, none⟩)

/-- Answers as an honest host gives them. -/
structure Fits (w : Wording) : Prop where
  listed (comment : Comment) : Host.told "body" (w.listed comment) = .ok comment.body
  added (labels : LabelSet) : (w.added labels).status = 200
  removed (labels : LabelSet) : (w.removed labels).status = 200
  created (id : Int) (body : String) : (w.posted id body).status = 201
  posted (id : Int) (body : String) : ∃ page fields n, (w.posted id body).page = .ok page ∧
    page.data = .obj fields ∧ fields.lookup "id" = some (.int n)

theorem plain_fits : plain.Fits where
  listed _ := rfl
  added _ := rfl
  removed _ := rfl
  created _ _ := rfl
  posted _ _ := ⟨_, _, _, page_answerWith rfl _, rfl, rfl⟩

end Wording

/-- The host that keeps the labels and comments of issues on a platform in memory and answers what
is asked about one issue. -/
def host (w : Wording) (issue : IssueRef) : Host Memory where
  answer m r :=
    let labels := m.labelsOf issue.number
    let bodies := m.commentsOf issue.number
    match r.verb with
    | .get =>
      if r.url = Remote.labelsUrl issue then (answerLabels labels, m)
      else (answerWith 200 (.arr ((commentsFrom 0 bodies).map w.listed)), m)
    | .post =>
      match r.body with
      | some (.obj [("labels", .arr names)]) =>
        let labels := labels.insertMany (names.map Json.text)
        (w.added labels, m.setLabels issue.number labels)
      | some (.obj [("body", .str body)]) =>
        let bodies := bodies ++ [body]
        (w.posted bodies.length body, m.setComments issue.number bodies)
      | _ => (answerWith 422 .null, m)
    | .delete =>
      let before := (Remote.labelsUrl issue ++ "/").toList
      match (Text.afterStart? before r.url.toList).bind Percent.decode? with
      | some name =>
        if String.ofList name ∈ labels then
          let labels := labels.erase (String.ofList name)
          (w.removed labels, m.setLabels issue.number labels)
        else (answerWith 404 .null, m)
      | none => (answerWith 404 .null, m)
  labels := labelsOf
  comments := commentsOf

variable {w : Wording} {issue : IssueRef} {m : Memory}

theorem host_lists {α β : Type} {read : Json → Except Refusal β} {write : α → Json} {f : α → β}
    (reads : ∀ a, read (write a) = .ok (f a)) {url : String} {values : List α}
    (answers : ∀ authorization mark,
      (host w issue).answer m ⟨.get, url, authorization, mark, none⟩ =
        (answerWith 200 (.arr (values.map write)), m)) :
    (host w issue).Lists read 1 m url (values.map f) := by
  rintro authorization mark answer m' answered
  rw [answers] at answered
  cases answered
  exact ⟨rfl, .refl _ _, _, _, _, [], page_answerWith rfl _, rfl, mapM_read reads values,
    (List.append_nil _).symm, rfl⟩

theorem commentsUrl_ne_labelsUrl (issue : IssueRef) :
    Remote.commentsUrl issue ≠ Remote.labelsUrl issue := by
  intro same
  have texts := congrArg String.toList same
  rw [RepositoryUrl.commentsUrl_toList, RepositoryUrl.labelsUrl_toList] at texts
  exact absurd (List.append_cancel_left texts) (by decide)

theorem host_labels (w : Wording) (issue : IssueRef) (m : Memory)
    (authorization : Option Authorization) (mark : Option String) :
    (host w issue).answer m ⟨.get, Remote.labelsUrl issue, authorization, mark, none⟩ =
      (answerLabels (m.labelsOf issue.number), m) :=
  if_pos rfl

theorem host_comments (w : Wording) (issue : IssueRef) (m : Memory)
    (authorization : Option Authorization) (mark : Option String) :
    (host w issue).answer m ⟨.get, Remote.commentsUrl issue, authorization, mark, none⟩ =
      (answerWith 200 (.arr ((commentsFrom 0 (m.commentsOf issue.number)).map w.listed)), m) :=
  if_neg (commentsUrl_ne_labelsUrl issue)

theorem host_setsLabels (n : Int) (set : LabelSet) :
    (host w issue).SetsLabels m (m.setLabels n set) n set :=
  ⟨fun k => labelsOf_setLabels m n k set, fun _ => rfl⟩

theorem host_setsComments (n : Int) (bodies : List String) :
    (host w issue).SetsComments m (m.setComments n bodies) n bodies :=
  ⟨fun _ => rfl, fun k => commentsOf_setComments m n k bodies⟩

/-- A label is taken off at the address that spells its name. -/
theorem host_removal {segment : List Char} {name : String}
    (spells : Percent.decode? segment = some name.toList)
    (authorization : Option Authorization) :
    (host w issue).answer m (Host.removal issue segment authorization) =
      if name ∈ m.labelsOf issue.number then
        (w.removed ((m.labelsOf issue.number).erase name),
          m.setLabels issue.number ((m.labelsOf issue.number).erase name))
      else (answerWith 404 .null, m) := by
  have found : Text.afterStart? (Remote.labelsUrl issue ++ "/").toList
      (Remote.labelsUrl issue ++ "/" ++ String.ofList segment).toList = some segment := by
    rw [Text.afterStart?_eq_some_iff, String.toList_append, String.toList_ofList]
  dsimp only [host, Host.removal, Remote.deletion]
  rw [found, Option.bind_some, spells]
  dsimp only
  rw [String.ofList_toList]

/-- What comes of the request: the label was there and is taken off, or nothing changes. -/
theorem host_removal_cases {m' : Memory} {answer : Answer} {authorization : Option Authorization}
    {segment : List Char} {name : String} (spells : Percent.decode? segment = some name.toList)
    (answered : (host w issue).answer m (Host.removal issue segment authorization) =
      (answer, m')) :
    name ∈ m.labelsOf issue.number ∧
        answer = w.removed ((m.labelsOf issue.number).erase name) ∧
        m' = m.setLabels issue.number ((m.labelsOf issue.number).erase name) ∨
      name ∉ m.labelsOf issue.number ∧ answer = answerWith 404 .null ∧ m' = m := by
  rw [host_removal spells] at answered
  by_cases attached : name ∈ m.labelsOf issue.number
  · rw [if_pos attached] at answered
    cases answered
    exact .inl ⟨attached, rfl, rfl⟩
  · rw [if_neg attached] at answered
    cases answered
    exact .inr ⟨attached, rfl, rfl⟩

theorem texts_strings (names : List String) : (names.map Json.str).map Json.text = names := by
  rw [List.map_map]
  exact List.map_id names

/-- A platform in memory behind the addresses of an issue is an honest host. -/
theorem host_honest (fits : w.Fits) (issue : IssueRef) : (host w issue).Honest issue where
  listsLabels m :=
    ⟨1, _, host_lists (f := Label.name) (fun _ => rfl) (host_labels w issue m), ofList_labels _⟩
  listsComments m := by
    have lists := host_lists fits.listed (host_comments w issue m)
    rw [bodies_commentsFrom] at lists
    exact ⟨1, lists⟩
  adds {m m' answer authorization names} answered := by
    cases answered
    rw [texts_strings]
    exact ⟨fits.added _, host_setsLabels _ _⟩
  removes {m m' answer authorization segment name} answered last spells := by
    rcases host_removal_cases spells answered with ⟨attached, rfl, rfl⟩ | ⟨missing, rfl, rfl⟩
    · exact (if_pos attached).mpr ⟨fits.removed _, host_setsLabels _ _⟩
    · exact (if_neg missing).mpr ⟨rfl, .refl _ _⟩
  posts {m m' answer authorization body} answered := by
    cases answered
    exact ⟨fits.created _ _, fits.posted _ _, host_setsComments _ _⟩

/-- When it says plainly what it did, its answers can be read. -/
theorem host_legible (issue : IssueRef) : (host .plain issue).Legible issue where
  toHonest := host_honest Wording.plain_fits issue
  showsLabels m := by
    have lists := host_lists (f := id) Label.read_toJson (host_labels .plain issue m)
    rw [List.map_id] at lists
    exact ⟨1, _, lists, ofList_labels _⟩
  showsComments m := by
    have lists := host_lists (f := id) Comment.read_toJson (host_comments .plain issue m)
    rw [List.map_id] at lists
    exact ⟨1, _, lists, bodies_commentsFrom 0 _⟩
  added {m m' answer authorization names} answered := by
    cases answered
    exact ⟨_, page_answerWith rfl _,
      .inr ⟨_, _, rfl, mapM_read (f := id) Label.read_toJson _⟩⟩
  removed {m m' answer authorization segment name} answered last spells := by
    rcases host_removal_cases spells answered with ⟨attached, rfl, rfl⟩ | ⟨missing, rfl, rfl⟩
    · exact (if_pos attached).mpr ⟨_, page_answerWith rfl _⟩
    · exact (if_neg missing).mpr ⟨_, content_answerWith _ _⟩
  posted {m m' answer authorization body} answered := by
    cases answered
    exact ⟨_, _, page_answerWith rfl _, Comment.read_toJson _⟩

end Memory

end SuiteTrigger
