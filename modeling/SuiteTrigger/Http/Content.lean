import SuiteTrigger.Http.Form
import SuiteTrigger.Http.MediaType
import SuiteTrigger.Http.Message
import SuiteTrigger.Json.Printer

/-!
# Contents of bodies

A body is read as its content type says. Nothing is read from an empty body or where the type is
missing or empty. JSON is read as a value, from a form the field `payload` is, and all else is
text.
-/

namespace SuiteTrigger.Http

inductive Content where
  | nothing
  | value (v : Json)
  | text (s : String)
  deriving DecidableEq

namespace Content

def jsonType : String := "application/json"

def formType : String := "application/x-www-form-urlencoded"

/-- The field of a form that holds the value. -/
def payloadField : String := "payload"

def readJson (s : String) : Except Failure Content :=
  match Json.read s with
  | .ok v => .ok (.value v)
  | .error e => .error (.content (.unreadable e))

def ofText (type : String) (cs : List Char) : Except Failure Content :=
  if type = jsonType then readJson (String.ofList cs)
  else if type = formType then
    match (Form.fields cs).lookup payloadField with
    | some s => readJson s
    | none => .error (.missingKey payloadField)
  else .ok (.text (String.ofList cs))

def toJson : Content → Json
  | .nothing => .null
  | .value v => v
  | .text s => .str s

end Content

namespace Body

def empty : Body := .bytes []

def isEmpty : Body → Bool
  | .bytes data => data.isEmpty
  | .json _ => false

def toBytes : Body → List UInt8
  | .bytes data => data
  | .json v => Utf8.encode v.render.toList

/-- The content of a body that is not empty, in a known charset. -/
def contentIn (charset : Charset) (media : MediaType) (body : Body) : Except Failure Content :=
  match charset.decode media.charset body.toBytes with
  | .ok cs => Content.ofText media.name cs
  | .error e => .error (.content (.undecodable e))

/-- The failure of a header that cannot be read. -/
def failureOf : MediaTypeFault → Failure
  | .unordered => .wrongType
  | .tooManyDigits count => .badNumeral (.tooManyDigits count)

/-- The content of a body with the given content type. A value in a charset that keeps ASCII is
taken as it is, since its JSON text is ASCII. -/
def content (type? : Option String) (body : Body) : Except Failure Content :=
  match type? with
  | none => .ok .nothing
  | some header =>
    if header.isEmpty then .ok .nothing
    else do
      let media ← (MediaType.read header).mapError failureOf
      if body.isEmpty then return .nothing
      let charset ← (Charset.ofName media.charset).mapError .badCharset
      match body with
      | .json v =>
        if charset.keepsAscii && media.name = Content.jsonType then return .value v
        else contentIn charset media (.json v)
      | body => contentIn charset media body

end Body

end SuiteTrigger.Http
