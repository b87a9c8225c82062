import SuiteTrigger.Encoding.CharsetName
import SuiteTrigger.Http.Authority
import SuiteTrigger.Json.Display
import SuiteTrigger.Json.Reader
import SuiteTrigger.Log
import SuiteTrigger.Time.Instant
import SuiteTrigger.Trigger.Action
import SuiteTrigger.Trigger.Config
import SuiteTrigger.Trigger.Event

/-!
# Failures

What can end a step of work. Transient failures are those that a later delivery of the same event
may get past: the code host could not be reached or refused a request, on its own or while an
action was carried out. A malformed event fails for good. All other failures are answers that make
no sense or misuse of the program, and they are passed on as they are.
-/

namespace SuiteTrigger

/-- Why bytes or a text are no text or value. -/
inductive ContentError where
  | undecodable (error : Undecodable)
  | unreadable (error : Json.ReadError)
  deriving DecidableEq

/-- Why an event file holds no payload. -/
inductive FileFault where
  | notUtf8 (error : Utf8.DecodeError)
  | notJson (error : Json.SyntaxError)
  | notObject
  deriving DecidableEq

inductive Failure where
  | malformed (cause : MalformedEvent)
  | badFile (path : String) (fault : FileFault)
  | transient (message : String)
  | actionFailed (message : String) (action : Action) (applied : List Action)
  | refused (refusal : Refusal)
  | content (error : ContentError)
  | badCharset (fault : Charset.NameFault)
  | unknownStatus (code : Int)
  | badAddress (error : Http.AddressError)
  /-- A request whose target is none. -/
  | badTarget (text : String)
  /-- A request with a header whose name is not ASCII. -/
  | badHeaderName
  /-- A path with a zero character in it. -/
  | zeroInPath
  | badNumeral (error : NumeralError)
  | badInstant (error : InstantError)
  | system (message : String)
  | missingKey (key : String)
  /-- A value was used in a way that its type does not have. -/
  | wrongType
  | unknownEvent (value : Json)
  | unknownAction (value : Json)
  /-- A value of a type that lacks the named member. -/
  | noMember (value : Json) (member : String)
  | badName (fault : TriggerConfig.NameFault)
  | unknownThreshold (name : String)
  deriving DecidableEq

namespace Failure

/-- Whether a later delivery may get past the failure. -/
def isTransient : Failure → Bool
  | .transient _ => true
  | .actionFailed .. => true
  | _ => false

/-- Whether the payload itself is at fault. -/
def isMalformed : Failure → Bool
  | .malformed _ => true
  | .badFile .. => true
  | _ => false

end Failure

def Json.typeName : Json → String
  | .null => "NoneType"
  | .bool _ => "bool"
  | .int _ => "int"
  | .float _ => "float"
  | .str _ => "str"
  | .arr _ => "list"
  | .obj _ => "dict"

/-- The refusal of an integer with more digits than the limit. -/
def digitLimitText (count : Nat) : String :=
  s!"Exceeds the limit ({Numeral.digitLimit} digits) for integer string conversion: " ++
    s!"value has {count} digits; use sys.set_int_max_str_digits() to increase the limit"

/-- The most characters of a quoted text that a refusal shows. -/
def shownLimit : Nat := 200

def NumeralError.message : NumeralError → String
  | .notInteger text =>
    "invalid literal for int() with base 10: " ++
      String.ofList ((Text.quoteChars text.toList).take shownLimit)
  | .tooManyDigits count => digitLimitText count
  | .notNumber text => "could not convert string to float: " ++ Text.quote text

def Json.ReadError.message : Json.ReadError → String
  | .syntaxError error => error.message
  | .tooManyDigits count => digitLimitText count
  | .tooDeep nest =>
    s!"maximum recursion depth exceeded while decoding a JSON {nest.name} from a unicode string"

def ContentError.message : ContentError → String
  | .undecodable error => error.message
  | .unreadable error => error.message

def FileFault.message (path : String) : FileFault → String
  | .notUtf8 error => s!"{path} is not valid JSON: {error.message}"
  | .notJson error => s!"{path} is not valid JSON: {error.message}"
  | .notObject => s!"{path} does not hold a JSON object"

/-- The text of a failure, where it has one. -/
def Failure.message? : Failure → Option String
  | .malformed cause => some cause.message
  | .badFile path fault => some (fault.message path)
  | .transient message => some message
  | .actionFailed message _ _ => some message
  | .refused refusal => some refusal.headline
  | .content error => some error.message
  | .badCharset fault => some fault.message
  | .unknownStatus code => some s!"{code} is not a valid HTTPStatus"
  | .badAddress error => some error.message
  | .badTarget text => some ("Bad URL: " ++ text)
  | .badHeaderName => some "Header names can only contain US-ASCII characters"
  | .zeroInPath => some "embedded null byte"
  | .badNumeral error => some error.message
  | .badInstant error => some error.message
  | .system message => some message
  | .missingKey key => some key
  | .wrongType => none
  | .unknownEvent value => some ("Unknown event " ++ value.display)
  | .unknownAction value => some ("Unknown action " ++ value.display)
  | .noMember value member =>
    some s!"'{value.typeName}' object has no attribute '{member}'"
  | .badName fault => some fault.message
  | .unknownThreshold name =>
    some ("Unknown level: " ++ Text.quote (LogThreshold.unknownText name))

def Failure.message (f : Failure) : String := f.message?.getD ""

end SuiteTrigger
