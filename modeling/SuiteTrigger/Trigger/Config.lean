import SuiteTrigger.Record.Reading
import SuiteTrigger.Settings

/-!
# The trigger configuration

Which label marks a pull request whose full test suite was asked for, which bot takes commands, and
which targets the fast and the full run have. Values that a caller gives are checked; the ones that
come from the settings are taken as they are.
-/

namespace SuiteTrigger

structure TriggerConfig where
  approvedLabel : String
  bot : String
  fastTarget : String
  fullTargets : List String
  deriving DecidableEq

namespace TriggerConfig

open Reading

def recordName : String := "TriggerConfig"

def fieldNames : List String := ["approved_label", "bot", "fast_target", "full_targets"]

/-- The targets without surrounding blanks, blank ones left out. -/
def cleanTargets (targets : List String) : List String :=
  (targets.map Text.strip).filter (!·.isEmpty)

/-- A list of targets, at least one of which is not blank. -/
def targets (v : Json) : Checked (List String) :=
  (list text v).andThen fun targets =>
    if targets.isEmpty then .fault .emptyList
    else if (cleanTargets targets).isEmpty then .fault .noTarget
    else .good (cleanTargets targets)

def ofSettings (settings : Settings) : TriggerConfig where
  approvedLabel := settings.approvedLabel
  bot := settings.bot
  fastTarget := settings.fastTarget
  fullTargets := settings.fullTargets

/-- The configuration with the given fields, the others from `absent`. -/
def ofFields (absent : TriggerConfig) (fields : List (String × Json)) : Checked TriggerConfig :=
  TriggerConfig.mk <$> withDefault "approved_label" nonEmptyText absent.approvedLabel fields
    <*> withDefault "bot" nonEmptyText absent.bot fields
    <*> withDefault "fast_target" nonEmptyText absent.fastTarget fields
    <*> withDefault "full_targets" targets absent.fullTargets fields
    <* noOthers fieldNames fields

def read (settings : Settings) (fields : List (String × Json)) : Except Refusal TriggerConfig :=
  (ofFields (ofSettings settings) fields).toExcept recordName

/-- The refusal to change a field of a configuration. -/
def frozen (field : String) : Refusal := ⟨recordName, [⟨[.field field], .frozen⟩]⟩

/-- Why a configuration takes or gives no value under a name. -/
inductive NameFault where
  | absent (name : String)
  | notWritable (name : String)
  | noSetter (name : String)
  deriving DecidableEq

def NameFault.message : NameFault → String
  | .absent name => s!"'{recordName}' object has no attribute '{name}'"
  | .notWritable name => s!"attribute '{name}' of 'Model' objects is not writable"
  | .noSetter name => s!"property '{name}' of '{recordName}' object has no setter"

def command (config : TriggerConfig) (target : String) : String := config.bot ++ " " ++ target

def fastTrigger (config : TriggerConfig) : String := config.command config.fastTarget

/-- The two lines above the commands of a full run. -/
def fullHeader : List String :=
  ["Pull Request has been approved :tada:", "Launching full test suite..."]

/-- The comment that asks for a full run: a command on a line of its own for each target. -/
def fullTrigger (config : TriggerConfig) : String :=
  "\n".intercalate (fullHeader ++ config.fullTargets.map config.command)

end TriggerConfig

end SuiteTrigger
