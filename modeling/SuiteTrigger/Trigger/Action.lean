import SuiteTrigger.Text.LineBreak
import SuiteTrigger.Text.Quoted

/-!
# Trigger actions

What an event makes the program do on a pull request: put a label on it, take one off, or post a
comment. An action is shown on one line: the name of its label, or the first line of its body,
quoted.
-/

namespace SuiteTrigger

inductive ActionKind where
  | addLabel
  | removeLabel
  | postComment
  deriving DecidableEq

def ActionKind.name : ActionKind → String
  | .addLabel => "add_label"
  | .removeLabel => "remove_label"
  | .postComment => "post_comment"

inductive Action where
  | addLabel (name : String)
  | removeLabel (name : String)
  /-- A comment; without `allowRepeats` it is not posted where the same text stands already. -/
  | postComment (body : String) (allowRepeats : Bool)
  deriving DecidableEq

def boolText (b : Bool) : String := if b then "True" else "False"

namespace Action

def kind : Action → ActionKind
  | .addLabel _ => .addLabel
  | .removeLabel _ => .removeLabel
  | .postComment .. => .postComment

/-- The text that a comment posts. -/
def body? : Action → Option String
  | .postComment body _ => some body
  | _ => none

/-- An action on one line. -/
def describe : Action → String
  | .addLabel name => "AddLabel(name=" ++ Text.quote name ++ ")"
  | .removeLabel name => "RemoveLabel(name=" ++ Text.quote name ++ ")"
  | .postComment body allowRepeats =>
    "PostComment(" ++ Text.quote (Text.firstLine body) ++ ", allow_repeats=" ++
      boolText allowRepeats ++ ")"

def describeAll (actions : List Action) : String :=
  "[" ++ ", ".intercalate (actions.map describe) ++ "]"

end Action

end SuiteTrigger
