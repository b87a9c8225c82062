import SuiteTrigger.Record.Reading

namespace SuiteTrigger

structure Repository where
  id : Int
  name : String
  fullName : Option String
  url : String
  htmlUrl : Option String
  isPrivate : Option Bool
  deriving DecidableEq

structure Label where
  name : String
  id : Option Int
  color : Option String
  deriving DecidableEq

/-- One end of a pull request: a branch and the commit it stands at. -/
structure Branch where
  ref : String
  sha : String
  deriving DecidableEq

structure PullRequest where
  id : Option Int
  number : Int
  state : Option String
  head : Option Branch
  labels : List Label
  htmlUrl : Option String
  deriving DecidableEq

structure Review where
  id : Option Int
  state : String
  commitId : Option String
  htmlUrl : Option String
  deriving DecidableEq

structure Comment where
  id : Int
  body : String
  htmlUrl : Option String
  deriving DecidableEq

open Reading

namespace Repository

def recordName : String := "Repository"

def ofFields (fields : List (String × Json)) : Checked Repository :=
  Repository.mk <$> required "id" integer fields
    <*> required "name" text fields
    <*> optional "full_name" text fields
    <*> required "url" text fields
    <*> optional "html_url" text fields
    <*> optional "private" boolean fields

def check (v : Json) : Checked Repository := record recordName ofFields v

def read (v : Json) : Except Refusal Repository := (check v).toExcept recordName

end Repository

namespace Label

def recordName : String := "Label"

def ofFields (fields : List (String × Json)) : Checked Label :=
  Label.mk <$> required "name" text fields
    <*> optional "id" integer fields
    <*> optional "color" text fields

def check (v : Json) : Checked Label := record recordName ofFields v

def read (v : Json) : Except Refusal Label := (check v).toExcept recordName

end Label

namespace Branch

def recordName : String := "PrConnection"

def ofFields (fields : List (String × Json)) : Checked Branch :=
  Branch.mk <$> required "ref" text fields <*> required "sha" text fields

def check (v : Json) : Checked Branch := record recordName ofFields v

def read (v : Json) : Except Refusal Branch := (check v).toExcept recordName

end Branch

namespace PullRequest

def recordName : String := "PullRequest"

def states : List String := ["open", "closed"]

def ofFields (fields : List (String × Json)) : Checked PullRequest :=
  PullRequest.mk <$> optional "id" integer fields
    <*> required "number" integer fields
    <*> optional "state" (oneOf states) fields
    <*> optional "head" Branch.check fields
    <*> withDefault "labels" (list Label.check) [] fields
    <*> optional "html_url" text fields

def check (v : Json) : Checked PullRequest := record recordName ofFields v

def read (v : Json) : Except Refusal PullRequest := (check v).toExcept recordName

end PullRequest

namespace Review

def recordName : String := "Review"

def ofFields (fields : List (String × Json)) : Checked Review :=
  Review.mk <$> optional "id" integer fields
    <*> required "state" text fields
    <*> optional "commit_id" text fields
    <*> optional "html_url" text fields

def check (v : Json) : Checked Review := record recordName ofFields v

def read (v : Json) : Except Refusal Review := (check v).toExcept recordName

end Review

namespace Comment

def recordName : String := "Comment"

def ofFields (fields : List (String × Json)) : Checked Comment :=
  Comment.mk <$> required "id" integer fields
    <*> withDefault "body" text "" fields
    <*> optional "html_url" text fields

def check (v : Json) : Checked Comment := record recordName ofFields v

def read (v : Json) : Except Refusal Comment := (check v).toExcept recordName

end Comment

/-- A value that may be absent, written as null when it is. -/
def Json.ofOption {α : Type} (write : α → Json) : Option α → Json
  | some a => write a
  | none => .null

def Repository.toJson (r : Repository) : Json :=
  .obj [("id", .int r.id), ("name", .str r.name), ("full_name", .ofOption .str r.fullName),
    ("url", .str r.url), ("html_url", .ofOption .str r.htmlUrl),
    ("private", .ofOption .bool r.isPrivate)]

def Label.toJson (l : Label) : Json :=
  .obj [("name", .str l.name), ("id", .ofOption .int l.id), ("color", .ofOption .str l.color)]

def Branch.toJson (b : Branch) : Json := .obj [("ref", .str b.ref), ("sha", .str b.sha)]

def PullRequest.toJson (p : PullRequest) : Json :=
  .obj [("id", .ofOption .int p.id), ("number", .int p.number), ("state", .ofOption .str p.state),
    ("head", .ofOption Branch.toJson p.head), ("labels", .arr (p.labels.map Label.toJson)),
    ("html_url", .ofOption .str p.htmlUrl)]

def Review.toJson (r : Review) : Json :=
  .obj [("id", .ofOption .int r.id), ("state", .str r.state),
    ("commit_id", .ofOption .str r.commitId), ("html_url", .ofOption .str r.htmlUrl)]

def Comment.toJson (c : Comment) : Json :=
  .obj [("id", .int c.id), ("body", .str c.body), ("html_url", .ofOption .str c.htmlUrl)]

end SuiteTrigger
