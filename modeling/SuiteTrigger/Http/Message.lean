import SuiteTrigger.Failure

namespace SuiteTrigger.Http

inductive Verb where
  | get
  | post
  | delete
  deriving DecidableEq

def Verb.name : Verb → String
  | .get => "GET"
  | .post => "POST"
  | .delete => "DELETE"

/-- How a request shows who sends it: with a token, or as the application itself with a signed
statement. -/
inductive Authorization where
  | token (text : String)
  | application
  deriving DecidableEq

structure Request where
  verb : Verb
  url : String
  authorization : Option Authorization
  /-- The mark of the page that is kept, if the code host gave one. -/
  ifNoneMatch : Option String
  body : Option Json
  deriving DecidableEq

/-- Headers and their values. A header is found by its name in lower case. -/
abbrev Headers := List (String × String)

/-- The bytes of a body. A body that is known as a value stands for the bytes of its JSON text. -/
inductive Body where
  | bytes (data : List UInt8)
  | json (value : Json)
  deriving DecidableEq

structure Answer where
  status : Int
  headers : Headers
  body : Body
  deriving DecidableEq

/-- An error of the network or a timeout, by the name of its class and the text that shows it. -/
structure NetworkError where
  name : String
  shown : String
  deriving DecidableEq

/-- The classes of errors that are shown with one text. -/
inductive Break where
  | client
  | connection
  | disconnected
  | timeout
  deriving DecidableEq

def Break.name : Break → String
  | .client => "ClientError"
  | .connection => "ClientConnectionError"
  | .disconnected => "ServerDisconnectedError"
  | .timeout => "TimeoutError"

def Break.error (how : Break) (message : String) : NetworkError where
  name := how.name
  shown := how.name ++ "(" ++ Text.quote message ++ ")"

inductive Reply where
  | answered (answer : Answer)
  | lost (error : NetworkError)
  /-- A failure below the exchange of messages. -/
  | failed (failure : Failure)
  deriving DecidableEq

def Reply.broken (how : Break) (message : String) : Reply := .lost (how.error message)

end SuiteTrigger.Http
