import SuiteTrigger.Text.Blank
import SuiteTrigger.Text.Split

namespace SuiteTrigger.Http

/-- The address of the next page at the start of a text. -/
def nextPageAt? (cs : List Char) : Option (List Char) :=
  match cs with
  | '<' :: rest =>
    match Text.cut? '>' rest with
    | some ([], _) => none
    | some (address, ';' :: rest) =>
      (Text.afterStart? "rel=\"next\"".toList (rest.dropWhile Text.isBlank)).map fun _ => address
    | _ => none
  | _ => none

/-- The address of the next page that a header names first. -/
def nextPage? : List Char → Option (List Char)
  | [] => none
  | c :: rest => (nextPageAt? (c :: rest)).orElse fun _ => nextPage? rest

end SuiteTrigger.Http
