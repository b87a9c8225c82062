import SuiteTrigger.Command.Arguments
import SuiteTrigger.Command.EventFile
import SuiteTrigger.Pipeline.Handling
import SuiteTrigger.Platform.Remote
import SuiteTrigger.Text.Terminal

/-!
# The command line

`handle` carries an event through the pipeline and prints the actions that were applied. `plan`
prints the actions that an event would lead to and the text of each comment, without any request. A
malformed event is an error of `plan`; `handle` drops it and succeeds, since trying again would not
help.
-/

namespace SuiteTrigger.Command

open Http (Client)

/-- How a run of the program ends. -/
structure Outcome where
  exitCode : Nat
  /-- The texts that are printed, each with the end of a line behind it. -/
  output : List String
  /-- The message on the error output. -/
  complaint : Option String
  /-- The failure that ended the run unforeseen. -/
  crash : Option Failure
  deriving DecidableEq

/-- A text as it is written where no terminal shows it. -/
def written (text : String) : String := String.ofList (Text.dropSequences text.toList)

/-- What a run writes to its output. -/
def Outcome.writtenOutput (o : Outcome) : String :=
  String.join (o.output.map fun text => written text ++ "\n")

/-- A run that ends with an exit code and prints nothing. -/
def Outcome.quiet (exitCode : Nat) : Outcome := ⟨exitCode, [], none, none⟩

def Outcome.prints (output : List String) : Outcome := ⟨0, output, none, none⟩

def Outcome.crashes (failure : Failure) : Outcome := ⟨1, [], none, some failure⟩

/-- The exit code of a wrong use, and of a plan for a malformed event. -/
def usageCode : Nat := 2

/-- The files that can be read, by their paths in the shortest form. -/
abbrev Files := String → Option (List UInt8)

def planLines (action : Action) : List String := action.describe :: action.body?.toList

def planned (actions : List Action) : List String :=
  if actions.isEmpty then ["No action"] else actions.flatMap planLines

/-- The labels that a plan assumes: the given ones, or those in the payload when none is given. -/
def assumedLabels (given : List String) (event : Event) : LabelSet :=
  if given.isEmpty then event.pr.inlineLabels.getD .empty else LabelSet.ofList given

def handle (settings : Settings) (name path : String) (bytes : List UInt8) (dryRun : Bool) :
    Work Client Outcome := do
  let outcome ← Work.attempt do
    let payload ← Work.ofExcept (readPayload path bytes)
    let options := { Options.ofSettings settings with dryRun := dryRun || settings.dryRun }
    Pipeline.handlePayload Remote.ops options name (.obj payload)
  match outcome with
  | .ok applied => return .prints (applied.map Action.describe)
  | .error f =>
    if f.isMalformed then
      Work.log .error s!"Dropping malformed {name} event: {f.message}"
      return .quiet 0
    else if f.isTransient then
      Work.log .error s!"Platform error, nothing further applied: {f.message}"
      return .quiet 1
    else return .crashes f

def readEvent (name path : String) (bytes : List UInt8) : Except Failure Event := do
  let payload ← readPayload path bytes
  Event.ofDelivered name (.obj payload)

def plan (settings : Settings) (name path : String) (bytes : List UInt8)
    (labels : List String) : Work Client Outcome := do
  match readEvent name path bytes with
  | .error f =>
    if f.isMalformed then
      return ⟨usageCode, [], some ("Malformed event: " ++ f.message), none⟩
    else return .crashes f
  | .ok event =>
    let config := TriggerConfig.ofSettings settings
    let labels := assumedLabels labels event
    Work.log .info (config.decisionText labels event)
    return .prints (planned (config.actionsFor labels event))

/-- Runs a task on the file at a path in the shortest form. The file has to be there, and `handle`
needs a token to work with. -/
def runTask (settings : Settings) (files : Files) (name path : String) :
    Task → Work Client Outcome
  | .handle dryRun =>
    match files path, settings.token with
    | some bytes, some _ => handle settings name path bytes dryRun
    | _, _ => return .quiet usageCode
  | .plan labels =>
    match files path with
    | some bytes => plan settings name path bytes labels
    | none => return .quiet usageCode

/-- Runs the command that is named first. The log threshold is set up before the arguments of the
command are read. -/
def runCommand (settings : Settings) (files : Files) (name : String) (args : List String) :
    Work Client Outcome :=
  match commands.lookup name, settings.logThreshold with
  | none, _ => return .quiet usageCode
  | some _, .unknown threshold => return .crashes (.unknownThreshold threshold)
  | some usage, .severity _ =>
    match usage args with
    | .wrong => return .quiet usageCode
    | .help => return .quiet 0
    | .task name path task =>
      if path.toList.contains '\x00' then return .crashes .zeroInPath
      else runTask settings files name (plainPath path) task

def run (settings : Settings) (files : Files) (args : List String) : Work Client Outcome :=
  match splitCommand? args with
  | none => return .quiet usageCode
  | some ⟨true, _⟩ => return .quiet 0
  | some ⟨false, []⟩ => return .quiet usageCode
  | some ⟨false, name :: args⟩ => runCommand settings files name args

def client (settings : Settings) (replies : List Http.Reply) : Client :=
  Client.start (settings.token.map .token) false replies

/-- The entries of a journal that the settings let through. -/
def shownEntries (settings : Settings) (journal : Journal) : List LogEntry :=
  match settings.logThreshold with
  | .severity least => LogEntry.atLeast least journal.entries
  | .unknown _ => []

end SuiteTrigger.Command
