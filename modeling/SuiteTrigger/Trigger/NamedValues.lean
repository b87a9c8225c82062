import SuiteTrigger.Failure

/-!
# A configuration as values under names

A caller may try to give the names of a configuration new values, one after another. A configuration
does not change: the names of its fields are refused, and so are all public names. Names that begin
with an underscore are free, and a value under most of them has no effect. But under some of them
the configuration keeps what it works with: all its values, the values to fall back to, and the
operations that it is asked for. The texts of a configuration are made from what is then there.
-/

namespace SuiteTrigger.TriggerConfig

/-- The values of a configuration by name, and a value that may have those that are missing. -/
structure NamedValues where
  values : List (String × Json)
  spare : Json
  deriving DecidableEq

def namedValues (config : TriggerConfig) : NamedValues where
  values := [("approved_label", .str config.approvedLabel), ("bot", .str config.bot),
    ("fast_target", .str config.fastTarget), ("full_targets", .arr (config.fullTargets.map .str))]
  spare := .null

/-- Whether a name may be that of a field. -/
def isPublic (name : String) : Bool := name.toList.head? ≠ some '_'

/-- What a name that begins with an underscore stands for. -/
inductive PrivateName where
  | allValues
  | spare
  /-- Notes on the making of the configuration, which nothing here reads. -/
  | notes
  /-- The type, which a value cannot replace. -/
  | type
  | notWritable
  | noSetter
  | free
  deriving DecidableEq

def PrivateName.ofName : String → PrivateName
  | "__dict__" => .allValues
  | "__pydantic_extra__" => .spare
  | "__pydantic_fields_set__" => .notes
  | "__pydantic_private__" => .notes
  | "__class__" => .type
  | "__weakref__" => .notWritable
  | "__fields__" => .noSetter
  | "__fields_set__" => .noSetter
  | _ => .free

namespace NamedValues

def get (v : NamedValues) (name : String) : Except Failure Json :=
  match v.values.lookup name, v.spare with
  | some value, _ => .ok value
  | none, .obj spare =>
    match spare.lookup name with
    | some value => .ok value
    | none => .error (.badName (.absent name))
  | none, spare =>
    if spare.isTruthy then .error .wrongType else .error (.badName (.absent name))

/-- Asks for an operation. A value under its name stands in its way. -/
def ask (v : NamedValues) (operation : String) : Except Failure Unit :=
  if (v.values.lookup operation).isSome then .error .wrongType else .ok ()

/-- Asks those who handle assignments, where values stand in their place. -/
def askHandlers (v : NamedValues) (name : String) : Except Failure Unit :=
  match v.values.lookup "__pydantic_setattr_handlers__" with
  | none => v.ask "_setattr_handler"
  | some (.obj handlers) =>
    if (handlers.lookup name).getD .null = .null then v.ask "_setattr_handler"
    else .error .wrongType
  | some other => .error (.noMember other "get")

/-- Gives a name that begins with an underscore a value. -/
def assignPrivate (v : NamedValues) (name : String) (value : Json) : Except Failure NamedValues :=
  match PrivateName.ofName name, value with
  | .allValues, .obj values => .ok { v with values }
  | .allValues, _ => .error .wrongType
  | .spare, _ => .ok { v with spare := value }
  | .notes, _ => .ok v
  | .type, _ => .error .wrongType
  | .notWritable, _ => .error (.badName (.notWritable name))
  | .noSetter, _ => .error (.badName (.noSetter name))
  | .free, _ => .ok { v with values := Json.insertField name value v.values }

def assign (v : NamedValues) (name : String) (value : Json) : Except Failure NamedValues := do
  v.askHandlers name
  if isPublic name then throw (.refused (frozen name))
  v.assignPrivate name value

def assignAll (v : NamedValues) : List (String × Json) → Except Failure NamedValues
  | [] => .ok v
  | (name, value) :: rest => do (← v.assign name value).assignAll rest

def fields (v : NamedValues) : Except Failure (List (String × Json)) := do
  v.ask "model_dump"
  match v.values.lookup "__pydantic_serializer__" with
  | some other => throw (.noMember other "to_python")
  | none => return v.values.filter fun value => fieldNames.contains value.1

def command (v : NamedValues) (target : Json) : Except Failure String := do
  v.ask "command"
  return (← v.get "bot").text ++ " " ++ target.text

def fastTrigger (v : NamedValues) : Except Failure String := do
  v.ask "fast_trigger"
  v.command (← v.get "fast_target")

/-- What a value gives one after another. -/
def items : Json → Except Failure (List Json)
  | .arr items => .ok items
  | .str s => .ok (s.toList.map fun c => .str (String.singleton c))
  | .obj fields => .ok (fields.map fun field => .str field.1)
  | _ => .error .wrongType

def fullTrigger (v : NamedValues) : Except Failure String := do
  v.ask "full_trigger"
  let commands ← (← items (← v.get "full_targets")).mapM v.command
  return "\n".intercalate (fullHeader ++ commands)

end NamedValues

end SuiteTrigger.TriggerConfig
