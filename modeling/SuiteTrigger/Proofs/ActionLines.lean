import SuiteTrigger.Proofs.Planning
import SuiteTrigger.Proofs.QuotedText
import SuiteTrigger.Proofs.TriggerLines

/-!
# Lines that show actions

Quotation escapes every line break, since none of them is printable (`unprintable_of_lineBreak`), so
an action is shown on one line. From that line it is read back: all of it when it puts a label on or
takes one off, and the first line and the repeats of a comment (`Action.read?_describe`). What a run
of `handle` writes has one such line for each action that was applied
(`Command.lines_writtenOutput`).
-/

namespace SuiteTrigger

namespace Text

/-- No line break is printable: each range of them lies in a range without visible form. -/
theorem unprintable_of_lineBreak {c : Char} (ends : isLineBreak c = true) :
    isPrintable c = false := by
  have covered : ∀ breaks ∈ lineBreakRanges, ∃ range ∈ unprintableRanges,
      range.1 ≤ breaks.1 ∧ breaks.2 ≤ range.2 := by decide +kernel
  obtain ⟨breaks, listed, above, below⟩ := inRanges_iff.1 ends
  obtain ⟨range, among, starts, stops⟩ := covered breaks listed
  have inside : inRanges unprintableRanges c = true :=
    inRanges_iff.2 ⟨range, among, Nat.le_trans starts above, Nat.le_trans below stops⟩
  rw [isPrintable, inside, Bool.not_true]

theorem unbroken_of_visible {s : String} (visible : Visible s.toList) : Unbroken s := by
  intro c inside
  cases ends : isLineBreak c with
  | false => rfl
  | true =>
    have hidden := unprintable_of_lineBreak ends
    rw [visible c inside] at hidden
    nomatch hidden

/-- Texts of one line each are the lines that are written when each has a line end behind it. -/
theorem lines_join {texts : List String} (unbroken : ∀ text ∈ texts, Unbroken text) :
    lines (String.join (texts.map (· ++ "\n"))) = texts := by
  induction texts with
  | nil => rfl
  | cons text texts ih =>
    obtain ⟨first, later⟩ := List.forall_mem_cons.1 unbroken
    have ended : (text ++ "\n" ++ String.join (texts.map (· ++ "\n"))).toList =
        text.toList ++ '\n' :: (String.join (texts.map (· ++ "\n"))).toList := by
      rw [String.toList_append, String.toList_append, List.append_assoc]
      rfl
    rw [List.map_cons, String.join_cons, lines, ended, splitLines_append first, List.map_cons,
      String.ofList_toList]
    exact congrArg (text :: ·) (ih later)

/-- Only the empty text has no first line. -/
theorem head?_lines {s : String} (some : s ≠ "") : (lines s).head? = .some (firstLine s) := by
  have found : lines s ≠ [] := by
    rw [lines, ne_eq, List.map_eq_nil_iff]
    cases cs : s.toList with
    | nil => exact absurd (String.toList_eq_nil_iff.1 cs) some
    | cons c rest => exact splitLines_cons_ne_nil c rest
  obtain ⟨line, others, split⟩ := List.exists_cons_of_ne_nil found
  rw [firstLine, split]
  rfl

end Text

namespace Action

/-- A form in which actions are shown: a quoted text between a beginning and an end. -/
structure Form where
  start : String
  close : String
  /-- The action that is shown with a text. -/
  build : String → Action

namespace Form

def line (form : Form) (text : String) : String := form.start ++ Text.quote text ++ form.close

/-- The action that a line of this form shows. -/
def read? (form : Form) (line : String) : Option Action := do
  let quoted ← Text.afterStart? form.start.toList line.toList
  let (text, rest) ← Text.readQuoted? quoted
  if rest = form.close.toList then some (form.build (String.ofList text)) else none

theorem toList_line (form : Form) (text : String) :
    (form.line text).toList =
      form.start.toList ++ (Text.quoteChars text.toList ++ form.close.toList) := by
  rw [line, Text.quote, String.toList_append, String.toList_append, String.toList_ofList,
    List.append_assoc]

/-- A form reads those of the lines with its beginning that have its end. -/
theorem read?_line {form other : Form} (begins : form.start = other.start) (text : String) :
    form.read? (other.line text) =
      if other.close = form.close then some (form.build text) else none := by
  rw [read?, toList_line, begins, Text.afterStart?_eq_some_iff.2 rfl]
  simp only [Option.bind_eq_bind, Option.bind_some, Text.readQuoted?_quoteChars,
    String.ofList_toList, String.toList_inj]

/-- A form reads no line that begins with another character. -/
theorem read?_apart {form other : Form} {p q : Char} (begins : form.start.toList.head? = some p)
    (otherwise : other.start.toList.head? = some q) (apart : p ≠ q) (text : String) :
    form.read? (other.line text) = none := by
  obtain ⟨ps, begins⟩ := List.head?_eq_some_iff.1 begins
  obtain ⟨qs, otherwise⟩ := List.head?_eq_some_iff.1 otherwise
  rw [read?, toList_line, begins, otherwise, List.cons_append, Text.afterStart?, if_neg apart]
  rfl

end Form

def addForm : Form where
  start := "AddLabel(name="
  close := ")"
  build := .addLabel

def removeForm : Form where
  start := "RemoveLabel(name="
  close := ")"
  build := .removeLabel

def commentForm (allowRepeats : Bool) : Form where
  start := "PostComment("
  close := ", allow_repeats=" ++ boolText allowRepeats ++ ")"
  build := (.postComment · allowRepeats)

def forms : List Form := [addForm, removeForm, commentForm true, commentForm false]

/-- The action that a line shows. -/
def read? (line : String) : Option Action := forms.findSome? (·.read? line)

/-- What the line of an action tells of it: of a comment, only the first line. -/
def shown : Action → Action
  | .postComment body allowRepeats => .postComment (Text.firstLine body) allowRepeats
  | a => a

theorem unbroken_describe (a : Action) : Text.Unbroken a.describe :=
  Text.unbroken_of_visible a.visible_describe

theorem shown_label {a : Action} (label : a.body? = none) : a.shown = a := by
  cases a with
  | addLabel name => rfl
  | removeLabel name => rfl
  | postComment body allowRepeats => nomatch label

/-- A line is read in its form when no form before that one reads it. -/
theorem read?_form {form : Form} {before after : List Form}
    (split : forms = before ++ form :: after) (text : String)
    (unread : ∀ other ∈ before, other.read? (form.line text) = none) :
    read? (form.line text) = some (form.build text) := by
  have own := Form.read?_line (rfl : form.start = form.start) text
  rw [if_pos rfl] at own
  exact List.findSome?_eq_some_iff.2 ⟨before, form, after, split, own, unread⟩

theorem describe_comment (body : String) (allowRepeats : Bool) :
    (postComment body allowRepeats).describe =
      (commentForm allowRepeats).line (Text.firstLine body) := by
  have regroup (a b c d e : String) : a ++ b ++ c ++ d ++ e = a ++ b ++ (c ++ d ++ e) := by
    simp only [String.append_assoc]
  exact regroup _ _ _ _ _

theorem labelForms_read?_comment (allowRepeats : Bool) (text : String) :
    ∀ form ∈ [addForm, removeForm], form.read? ((commentForm allowRepeats).line text) = none := by
  have comment : "PostComment(".toList.head? = some 'P' := rfl
  have add : addForm.start.toList.head? = some 'A' := rfl
  have remove : removeForm.start.toList.head? = some 'R' := rfl
  exact List.forall_mem_cons.2 ⟨Form.read?_apart add comment (by decide) text,
    List.forall_mem_singleton.2 (Form.read?_apart remove comment (by decide) text)⟩

/-- What is shown like an action on a label is that action. -/
theorem eq_of_shown_label {a b : Action} (label : a.body? = none) (same : b.shown = a) : b = a := by
  cases b with
  | addLabel name => exact same
  | removeLabel name => exact same
  | postComment body allowRepeats =>
    rw [← same] at label
    nomatch label

/-- An action is read from its line. -/
theorem read?_describe (a : Action) : read? a.describe = some a.shown := by
  cases a with
  | addLabel name =>
    have split : forms = [] ++ addForm :: [removeForm, commentForm true, commentForm false] := rfl
    exact read?_form split name (List.forall_mem_nil _)
  | removeLabel name =>
    have split : forms = [addForm] ++ removeForm :: [commentForm true, commentForm false] := rfl
    have add : addForm.start.toList.head? = some 'A' := rfl
    have remove : removeForm.start.toList.head? = some 'R' := rfl
    have unread := Form.read?_apart add remove (by decide) name
    exact read?_form split name (List.forall_mem_singleton.2 unread)
  | postComment body allowRepeats =>
    rw [describe_comment]
    have labels := labelForms_read?_comment allowRepeats (Text.firstLine body)
    cases allowRepeats with
    | true =>
      have split : forms = [addForm, removeForm] ++ commentForm true :: [commentForm false] := rfl
      exact read?_form split _ labels
    | false =>
      have split : forms =
        ([addForm, removeForm] ++ [commentForm true]) ++ commentForm false :: [] := rfl
      -- both comments begin alike, so it is the end of the line that tells them apart
      have begins : (commentForm true).start = (commentForm false).start := rfl
      have unread := Form.read?_line begins (Text.firstLine body)
      rw [if_neg (by decide)] at unread
      have others := List.forall_mem_append.2 ⟨labels, List.forall_mem_singleton.2 unread⟩
      exact read?_form split _ others

/-- A label with a line break, a single quote and double quotes. -/
example : (addLabel "it's \"one\"\x85").describe =
    "AddLabel(name='it\\'s \"one\"\\x85')" := by decide +kernel

end Action

namespace Command

open Http (Client)

/-- Reads the payload in a file and handles its event; gives the actions that were applied. -/
def handleFile (settings : Settings) (name path : String) (bytes : List UInt8) (dryRun : Bool) :
    Work Client (List Action) := do
  let payload ← Work.ofExcept (readPayload path bytes)
  let options := { Options.ofSettings settings with dryRun := dryRun || settings.dryRun }
  Pipeline.handlePayload Remote.ops options name (.obj payload)

/-- How a run of `handle` ends when the event was handled with some outcome. -/
def Outcome.ofHandled : Except Failure (List Action) → Outcome
  | .ok applied => .prints (applied.map Action.describe)
  | .error failure =>
    if failure.isMalformed then .quiet 0
    else if failure.isTransient then .quiet 1
    else .crashes failure

/-- A run of `handle` ends, and how it ends is decided by the outcome of handling the event. -/
theorem handle_ends (settings : Settings) (name path : String) (bytes : List UInt8)
    (dryRun : Bool) (scene : Scene Client) :
    ((handle settings name path bytes dryRun).on scene).1 =
      .ok (.ofHandled ((handleFile settings name path bytes dryRun).on scene).1) := by
  unfold handle
  rw [← handleFile, Work.on_bind, Work.on_attempt]
  dsimp only
  cases ((handleFile settings name path bytes dryRun).on scene).1 with
  | ok applied => rfl
  | error failure =>
    dsimp only [Outcome.ofHandled]
    cases failure.isMalformed with
    | true => rfl
    | false =>
      cases failure.isTransient with
      | true => rfl
      | false => rfl

/-- What is printed are the actions that were applied; it is nothing when handling failed. -/
theorem output_ofHandled (outcome : Except Failure (List Action)) :
    (Outcome.ofHandled outcome).output = (outcome.toOption.getD []).map Action.describe := by
  cases outcome with
  | ok applied => rfl
  | error failure =>
    dsimp only [Outcome.ofHandled]
    split
    · rfl
    · split <;> rfl

/-- Each action that is printed is a line of its own in what is written. -/
theorem lines_writtenOutput {o : Outcome} {actions : List Action}
    (shows : o.output = actions.map Action.describe) :
    Text.lines o.writtenOutput = actions.map Action.describe := by
  have unbroken : ∀ line ∈ actions.map Action.describe, Text.Unbroken line := by
    intro line printed
    obtain ⟨a, -, rfl⟩ := List.mem_map.1 printed
    exact a.unbroken_describe
  have same : (actions.map Action.describe).map (fun text => written text ++ "\n") =
      (actions.map Action.describe).map (· ++ "\n") := by
    simp only [List.map_map, Function.comp_def, written_describe]
  rw [Outcome.writtenOutput, shows, same, Text.lines_join unbroken]

/-- Every action is shown on one line, and an action on a label is known from its line.

A body that is not empty has a first line, so every action is shown. Its line has no line break in
it, so a run of `handle` writes one line for each action that was applied, in their order, and none
when handling failed. An action on a label is read back with its name, and no other action has its
line. -/
theorem actions_told_by_lines :
    (Text.firstLine "" = "" ∧
      ∀ body, body ≠ "" → (Text.lines body).head? = some (Text.firstLine body)) ∧
    (∀ a : Action, Text.Unbroken a.describe) ∧
    (∀ settings name path bytes dryRun scene, ∃ o,
      ((handle settings name path bytes dryRun).on scene).1 = .ok o ∧
        Text.lines o.writtenOutput =
          (((handleFile settings name path bytes dryRun).on scene).1.toOption.getD []).map
            Action.describe) ∧
    ∀ a : Action, a.body? = none →
      Action.read? a.describe = some a ∧ ∀ b : Action, b.describe = a.describe ↔ b = a := by
  refine ⟨⟨rfl, fun body some => Text.head?_lines some⟩, Action.unbroken_describe, ?_, ?_⟩
  · intro settings name path bytes dryRun scene
    have ended := handle_ends settings name path bytes dryRun scene
    exact ⟨_, ended, lines_writtenOutput (output_ofHandled _)⟩
  · intro a label
    have read : Action.read? a.describe = some a := by
      rw [Action.read?_describe, Action.shown_label label]
    refine ⟨read, fun b => ⟨fun same => ?_, congrArg Action.describe⟩⟩
    have readToo := b.read?_describe
    rw [same, read] at readToo
    exact Action.eq_of_shown_label label (Option.some.inj readToo).symm

/-- A line break in a name is told apart from the characters that stand for it, and a body that
begins with a line break has an empty first line. -/
theorem odd_actions_told :
    let broken := Action.addLabel "it's \"one\"\x85"
    let spelled := Action.addLabel "it's \"one\"\\x85"
    broken.body? = none ∧ Action.read? broken.describe = some broken ∧
      spelled.describe ≠ broken.describe ∧
      "\x85@slab-ci" ≠ "" ∧ (Text.lines "\x85@slab-ci").head? = some "" := by
  intro broken spelled
  obtain ⟨⟨-, first⟩, -, -, told⟩ := actions_told_by_lines
  obtain ⟨read, alone⟩ := told broken rfl
  refine ⟨rfl, read, fun same => absurd ((alone spelled).1 same) (by decide), by decide, ?_⟩
  exact first "\x85@slab-ci" (by decide)

end Command

end SuiteTrigger
