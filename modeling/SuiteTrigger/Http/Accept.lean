import SuiteTrigger.Number.Numeral
import SuiteTrigger.Text.Blank
import SuiteTrigger.Text.Split

/-!
# Accepted media types

The header in which a sender lists the media types that it takes. An entry is a type and a subtype
with a slash between them, and parameters behind semicolons, of which `q` is a number. What has no
slash is no entry. An empty header is a list without entries, and every other one has some.
-/

namespace SuiteTrigger.Http.Accept

open Text

abbrev Parameter := List Char × List Char

def parameter? (cs : List Char) : Option Parameter :=
  (cut? '=' cs).map fun parts => (trimWhile isBlank parts.1, trimWhile isBlank parts.2)

/-- The names that a parameter may not have. -/
def takenNames : List (List Char) := ["self".toList, "type_".toList, "subtype".toList]

def weightName : List Char := ['q']

/-- Whether the weight that parameters give is a number; the last one counts. -/
def hasWeight (parameters : List Parameter) : Bool :=
  match parameters.reverse.lookup weightName with
  | some value => (Numeral.readDouble (String.ofList value)).isOk
  | none => true

/-- Whether what has a slash is an entry. -/
def isEntry (cs : List Char) : Bool :=
  match splitOn ';' (trimWhile isBlank cs) with
  | [] => false
  | name :: more =>
    (match cut? '/' name with
    | some (kind, subkind) => !kind.isEmpty && !subkind.isEmpty
    | none => false) &&
    match more.mapM parameter? with
    | some parameters =>
      !(parameters.any fun p => takenNames.contains p.1) && hasWeight parameters
    | none => false

def isList (header : String) : Bool :=
  let parts := (splitOn ',' header.toList).filter (·.contains '/')
  header.isEmpty || (!parts.isEmpty && parts.all isEntry)

end SuiteTrigger.Http.Accept
