import SuiteTrigger.Json.Value
import SuiteTrigger.Record.Checked
import SuiteTrigger.Record.IntegerText
import SuiteTrigger.Text.Half

/-!
# Reading the fields of a record

Numbers and truth values are read leniently: an integer may come as a truth value, as a number
without fraction or as text, and a truth value as zero, one or one of a few words. Text is taken
from strings only. Text that has to fit a field is Unicode text, while any string will do where
nothing is asked of it. An absent optional field and one that is null are the same.
-/

namespace SuiteTrigger.Reading

/-- The first integer above the signed words of 64 bits. -/
def wordLimit : Int := 9223372036854775808

def fitsWord (n : Int) : Bool := -wordLimit ≤ n && n < wordLimit

/-- The integer that a binary64 number equals, when it fits a word strictly. -/
def integerOfDouble (x : Double) : Except Fault Int :=
  if !x.isFinite then .error .notFinite
  else match x.toInt? with
    | none => .error .hasFraction
    | some n => if -wordLimit < n ∧ n < wordLimit then .ok n else .error .hugeInteger

/-- The fault of a text that does not fit. Half of a surrogate pair is told before anything else. -/
def textFault (s : String) (fault : Fault) : Fault := if Text.hasHalf s then .notUnicode else fault

def integer : Json → Checked Int
  | .int n => .good n
  | .bool b => .good (if b then 1 else 0)
  | .float x =>
    match integerOfDouble x with
    | .ok n => .good n
    | .error fault => .fault fault
  | .str s =>
    match IntegerText.read s.toList with
    | .ok n => .good n
    | .error .tooManyDigits => .fault (textFault s .hugeInteger)
    | .error .notNumeral => .fault (textFault s .notIntegerText)
  | _ => .fault .notInteger

/-- The words for false and for true. -/
def falseWords : List String := ["0", "off", "f", "false", "n", "no"]

def trueWords : List String := ["1", "on", "t", "true", "y", "yes"]

def asciiLower (s : String) : String := String.ofList (s.toList.map Char.toLower)

def booleanOfInt (n : Int) : Checked Bool :=
  if n = 0 then .good false else if n = 1 then .good true else .fault .notBooleanText

def boolean : Json → Checked Bool
  | .bool b => .good b
  | .int n => if fitsWord n then booleanOfInt n else .fault .notBoolean
  | .float x =>
    match integerOfDouble x with
    | .ok n => booleanOfInt n
    | .error _ => .fault .notBoolean
  | .str s =>
    if falseWords.contains (asciiLower s) then .good false
    else if trueWords.contains (asciiLower s) then .good true
    else .fault (textFault s .notBooleanText)
  | _ => .fault .notBoolean

def text : Json → Checked String
  | .str s => .good s
  | _ => .fault .notText

/-- Unicode text of at least one character. -/
def nonEmptyText (v : Json) : Checked String :=
  (text v).andThen fun s =>
    if Text.hasHalf s then .fault .notUnicode
    else if s.isEmpty then .fault .emptyText else .good s

/-- One of a closed list of texts. -/
def oneOf (choices : List String) : Json → Checked String
  | .str s =>
    if choices.contains s then .good s else .fault (textFault s (.notOneOf choices))
  | _ => .fault (.notOneOf choices)

def list {α : Type} (item : Json → Checked α) : Json → Checked (List α)
  | .arr items => Checked.itemsFrom item 0 items
  | _ => .fault .notList

/-- A record with the given name: an object whose members are read by `members`. -/
def record {α : Type} (name : String) (members : List (String × Json) → Checked α) :
    Json → Checked α
  | .obj fields => members fields
  | _ => .fault (.notRecord name)

variable {α : Type}

def required (key : String) (read : Json → Checked α) (fields : List (String × Json)) :
    Checked α :=
  match fields.lookup key with
  | some v => (read v).under (.field key)
  | none => Checked.bad [⟨[.field key], .missing⟩]

/-- A field that may be absent, with the value that stands for it then. -/
def withDefault (key : String) (read : Json → Checked α) (absent : α)
    (fields : List (String × Json)) : Checked α :=
  match fields.lookup key with
  | some v => (read v).under (.field key)
  | none => .good absent

/-- A field that may be absent or null. -/
def optional (key : String) (read : Json → Checked α) (fields : List (String × Json)) :
    Checked (Option α) :=
  match fields.lookup key with
  | none => .good none
  | some .null => .good none
  | some v => (some <$> read v).under (.field key)

/-- One problem for each member whose key is none of `known`, in their order. -/
def noOthers (known : List String) (fields : List (String × Json)) : Checked Unit :=
  match fields.filter fun field => !known.contains field.1 with
  | [] => .good ()
  | others => .bad (others.map fun field => ⟨[.field field.1], .unknownField⟩)

end SuiteTrigger.Reading
