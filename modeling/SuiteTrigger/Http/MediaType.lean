import SuiteTrigger.Number.Numeral
import SuiteTrigger.Text.Quoted
import SuiteTrigger.Text.Split

/-!
# Media types

The header that says what a body is: the name of a media type, and parameters after semicolons. A
semicolon between quotes is part of a value. A value may be quoted, and it may come in numbered
sections, which are put together in the order of their numbers. Of the parameters the charset is
read, and the first one that names it counts; a value in one piece goes before one in sections. A
marked section may tell a charset and a language of its own; then all parts of the value together
are the name of the charset.
-/

namespace SuiteTrigger.Http

/-- Why a header cannot be read. -/
inductive MediaTypeFault where
  /-- Sections of one value with and without a number have no order. -/
  | unordered
  /-- A section whose number has too many digits. -/
  | tooManyDigits (count : Nat)
  deriving DecidableEq

structure MediaType where
  /-- The name in lower case. -/
  name : String
  /-- The name of the charset. -/
  charset : String
  deriving DecidableEq

namespace MediaType

open Text

def defaultCharset : String := "utf-8"

def charsetKey : List Char := "charset".toList

/-- The pieces between the semicolons that are not quoted; `quoted` tells that a quote is open. -/
def pieces (quoted : Bool) : List Char → List (List Char)
  | [] => [[]]
  | '\\' :: '"' :: rest =>
    match pieces quoted rest with
    | [] => [['\\', '"']]
    | piece :: more => ('\\' :: '"' :: piece) :: more
  | c :: rest =>
    if c = ';' && !quoted then [] :: pieces quoted rest
    else match pieces (quoted != (c = '"')) rest with
      | [] => [[c]]
      | piece :: more => (c :: piece) :: more

/-- A text in which a backslash before a character drops out. -/
def dropEscapes (c : Char) : List Char → List Char
  | '\\' :: d :: rest =>
    if d = c then c :: dropEscapes c rest else '\\' :: dropEscapes c (d :: rest)
  | d :: rest => d :: dropEscapes c rest
  | [] => []

/-- What stands between two characters that a text begins and ends with. -/
def between? (first last : Char) : List Char → Option (List Char)
  | c :: d :: rest =>
    if c = first && (d :: rest).getLast? = some last then some (d :: rest).dropLast else none
  | _ => none

/-- A value without the quotes or angle brackets around it. -/
def unquote (value : List Char) : List Char :=
  match between? '"' '"' value with
  | some inner => dropEscapes '"' (dropEscapes '\\' inner)
  | none => (between? '<' '>' value).getD value

/-- A parameter: its key, in lower case if there is a value, and its value, which is empty where
there is none. -/
structure Parameter where
  key : List Char
  value : List Char

def Parameter.read (piece : List Char) : Parameter :=
  match cut? '=' piece with
  | some (key, value) =>
    ⟨(trimWhile isBlank key).map Char.toLower, unquote (trimWhile isBlank value)⟩
  | none => ⟨trimWhile isBlank piece, []⟩

/-- Whether a key is the one of the charset, in either case. -/
def isCharsetKey (key : List Char) : Bool := key.map Char.toLower = charsetKey

/-- A section of a value. The only section of a value may have no number. A marked section is
percent encoded. -/
structure Section where
  key : List Char
  number : Option Nat
  value : List Char
  isMarked : Bool

def isKeyChar (c : Char) : Bool := c.isAlphanum || c = '_'

/-- The digits of the number of a section and whether the section is marked, by what follows the
first asterisk of its key. -/
def sectionMark? (cs : List Char) : Option (List Char × Bool) :=
  let digits := cs.takeWhile Char.isDigit
  match digits, cs.dropWhile Char.isDigit with
  | [], [] => some ([], true)
  | _ :: _, [] => some (digits, false)
  | _ :: _, ['*'] => some (digits, true)
  | _, _ => none

def sectionNumber (digits : List Char) : Except MediaTypeFault (Option Nat) :=
  if digits.isEmpty then .ok none
  else if Numeral.digitLimit < digits.length then .error (.tooManyDigits digits.length)
  else .ok (some (Numeral.natOfDigits (digits.map fun d => d.toNat - 48)))

/-- The section that a parameter is. -/
def Parameter.section? (p : Parameter) : Except MediaTypeFault (Option Section) :=
  match cut? '*' p.key with
  | none => .ok none
  | some (key, mark) =>
    match sectionMark? mark with
    | none => .ok none
    | some (digits, isMarked) =>
      if !key.isEmpty && key.all isKeyChar then
        (sectionNumber digits).map fun number => some ⟨key, number, p.value, isMarked⟩
      else .ok none

/-- Whether some value has sections with and without a number, which have no order. -/
def isUnordered (sections : List Section) : Bool :=
  sections.any fun s => sections.any fun t => s.key = t.key && s.number.isNone && t.number.isSome

/-- The order of the sections of a value: by their numbers, their texts and their marks. -/
def Section.le (s t : Section) : Bool :=
  match compare s.number t.number with
  | .lt => true
  | .gt => false
  | .eq =>
    if s.value = t.value then !s.isMarked || t.isMarked
    else decide (String.ofList s.value < String.ofList t.value)

/-- A text in which each percent sign with two hexadecimal digits stands for a character of one
byte. -/
def percentDecoded : List Char → List Char
  | [] => []
  | '%' :: a :: b :: rest =>
    match hexValue? a, hexValue? b with
    | some high, some low => Char.ofNat (16 * high + low) :: percentDecoded rest
    | _, _ => '%' :: percentDecoded (a :: b :: rest)
  | c :: rest => c :: percentDecoded rest

def Section.text (s : Section) : List Char :=
  if s.isMarked then percentDecoded s.value else s.value

/-- A text in which backslashes and double quotes have a backslash in front. -/
def escaped (cs : List Char) : List Char :=
  cs.flatMap fun c => if c = '\\' || c = '"' then ['\\', c] else [c]

/-- A marked value as it is shown: its own charset and its language, which end at the first two
single quotes, and the rest. Where these are missing, only the rest is there. -/
def shownParts (value : List Char) : String :=
  let whole := "(None, None, " ++ quote (String.ofList value) ++ ")"
  match cut? '\'' value with
  | none => whole
  | some (charset, rest) =>
    match cut? '\'' rest with
    | none => whole
    | some (language, rest) =>
      "(" ++ quote (String.ofList (escaped charset)) ++ ", " ++
        quote (String.ofList (escaped language)) ++ ", " ++ quote (String.ofList rest) ++ ")"

def labelOf (value : List Char) : String :=
  if value.isEmpty then defaultCharset else String.ofList value

/-- The label of a value in sections. -/
def labelOfSections (sections : List Section) : String :=
  let value := (sections.mergeSort Section.le).flatMap Section.text
  if sections.any (·.isMarked) then shownParts value else labelOf value

/-- The name of the charset: that of the first parameter of its own, or else of the first one in
sections. -/
def charsetOf (parameters : List Parameter) (sections : List Section) : String :=
  match parameters.find? fun p => isCharsetKey p.key with
  | some p => labelOf p.value
  | none =>
    match sections.find? fun s => isCharsetKey s.key with
    | some first => labelOfSections (sections.filter (·.key = first.key))
    | none => defaultCharset

/-- Reads the header. The first piece holds the name, and is no section. -/
def read (header : String) : Except MediaTypeFault MediaType := do
  let name := ((cut? ';' header.toList).map (·.1)).getD header.toList
  let parameters := (pieces false header.toList).map Parameter.read
  let sections := (← (parameters.drop 1).mapM Parameter.section?).filterMap id
  if isUnordered sections then .error .unordered
  else
    return ⟨String.ofList ((trimWhile isBlank name).map Char.toLower),
      charsetOf parameters sections⟩

end MediaType

end SuiteTrigger.Http
