import SuiteTrigger.Failure
import SuiteTrigger.Text.Split

namespace SuiteTrigger.Command

/-- Text whose lines all end with a line feed. -/
def unifyLineEnds : List Char → List Char
  | [] => []
  | '\r' :: '\n' :: rest => '\n' :: unifyLineEnds rest
  | '\r' :: rest => '\n' :: unifyLineEnds rest
  | c :: rest => c :: unifyLineEnds rest

/-- The payload in the bytes of a file, whose path is shown in a refusal. -/
def readPayload (path : String) (bytes : List UInt8) : Except Failure Event.Payload :=
  match Utf8.decode bytes with
  | .error e => .error (.badFile path (.notUtf8 e))
  | .ok cs =>
    match Json.read (String.ofList (unifyLineEnds cs)) with
    | .error (.syntaxError e) => .error (.badFile path (.notJson e))
    | .error e => .error (.content (.unreadable e))
    | .ok (.obj payload) => .ok payload
    | .ok _ => .error (.badFile path .notObject)

/-- The slashes that a path from the root begins with: two stay two, all other numbers are one. -/
def rootOf : List Char → List Char
  | '/' :: '/' :: '/' :: _ => ['/']
  | '/' :: '/' :: _ => ['/', '/']
  | '/' :: _ => ['/']
  | _ => []

/-- The segments of a path, without empty ones and without those that lead nowhere. -/
def segments (path : List Char) : List (List Char) :=
  (Text.splitOn '/' path).filter fun s => !s.isEmpty && s ≠ ['.']

/-- A path in its shortest form, in which it is shown and followed. -/
def plainPath (path : String) : String :=
  let cs := path.toList
  let plain := rootOf cs ++ ['/'].intercalate (segments cs)
  if plain.isEmpty then "." else String.ofList plain

end SuiteTrigger.Command
