import SuiteTrigger.Encoding.Utf16
import SuiteTrigger.Json.Value
import SuiteTrigger.Number.Numeral
import SuiteTrigger.Text.Half
import SuiteTrigger.Text.Hex

/-!
# Reading JSON

The reader takes one value and the blanks around it. Besides the standard it takes `NaN`, `Infinity`
and `-Infinity`. What it refuses it refuses at a place: the number of characters before the fault,
and the line and column of that place. A lone half of a surrogate pair is held by its stand-in.
Lists and objects may stand in each other up to a limit.
-/

namespace SuiteTrigger.Json

/-- What is wrong at the place where reading stops. -/
inductive ReadFault where
  | expectingValue
  | expectingName
  | expectingColon
  | expectingComma
  | unterminatedString
  | controlCharacter
  | badEscape
  | badUnicodeEscape
  | extraData
  | byteOrderMark
  deriving DecidableEq

/-- A fault and its place. Columns and lines count from one, characters from zero. -/
structure SyntaxError where
  fault : ReadFault
  line : Nat
  column : Nat
  offset : Nat
  deriving DecidableEq

/-- What stands in a value and holds values itself. -/
inductive Nest where
  | array
  | object
  deriving DecidableEq

def Nest.name : Nest → String
  | .array => "array"
  | .object => "object"

/-- Why a text is not read as a value. -/
inductive ReadError where
  | syntaxError (error : SyntaxError)
  | tooManyDigits (count : Nat)
  /-- Too many of them stand in each other. -/
  | tooDeep (nest : Nest)
  deriving DecidableEq

def ReadFault.message : ReadFault → String
  | .expectingValue => "Expecting value"
  | .expectingName => "Expecting property name enclosed in double quotes"
  | .expectingColon => "Expecting ':' delimiter"
  | .expectingComma => "Expecting ',' delimiter"
  | .unterminatedString => "Unterminated string starting at"
  | .controlCharacter => "Invalid control character at"
  | .badEscape => "Invalid \\escape"
  | .badUnicodeEscape => "Invalid \\uXXXX escape"
  | .extraData => "Extra data"
  | .byteOrderMark => "Unexpected UTF-8 BOM (decode using utf-8-sig)"

def SyntaxError.message (e : SyntaxError) : String :=
  s!"{e.fault.message}: line {e.line} column {e.column} (char {e.offset})"

/-- The place that `before` characters lead up to. -/
def SyntaxError.at (fault : ReadFault) (before : List Char) : SyntaxError :=
  { fault
    line := before.count '\n' + 1
    column := (before.reverse.takeWhile (· ≠ '\n')).length + 1
    offset := before.length }

namespace Reader

open Text (charOfCode)
open Utf16 (isHighHalf isLowHalf charOfPair)

/-- A fault found while reading, with the text from its place on. -/
inductive Stop where
  | fault (fault : ReadFault) (rest : List Char)
  | tooManyDigits (count : Nat)
  | tooDeep (nest : Nest)

/-- A piece of the text was read, and the rest follows it. -/
abbrev Step (α : Type) := Except Stop (α × List Char)

def stop {α : Type} (fault : ReadFault) (rest : List Char) : Step α := .error (.fault fault rest)

def isSpace (c : Char) : Bool := c = ' ' || c = '\t' || c = '\n' || c = '\r'

def skipSpace (cs : List Char) : List Char := cs.dropWhile isSpace

/-- The character that a backslash and a letter stand for. -/
def escaped? : Char → Option Char
  | '"' => some '"'
  | '\\' => some '\\'
  | '/' => some '/'
  | 'b' => some '\x08'
  | 'f' => some '\x0c'
  | 'n' => some '\n'
  | 'r' => some '\r'
  | 't' => some '\t'
  | _ => none

def unit? (a b c d : Char) : Option Nat := do
  let a ← Text.hexValue? a
  let b ← Text.hexValue? b
  let c ← Text.hexValue? c
  let d ← Text.hexValue? d
  return 4096 * a + 256 * b + 16 * c + d

/-- Reads a string from after its opening quote. `start` is the text from that quote on, and `done`
holds what was read, last character first. -/
def string (start : List Char) (done : List Char) : List Char → Step (List Char)
  | [] => stop .unterminatedString start
  | '"' :: rest => .ok (done.reverse, rest)
  | ['\\'] => stop .unterminatedString start
  | '\\' :: 'u' :: a :: b :: c :: d :: e :: rest =>
    match unit? a b c d with
    | none => stop .badUnicodeEscape ('u' :: a :: b :: c :: d :: e :: rest)
    | some high =>
      if isHighHalf high && e = '\\' then
        match rest with
        | 'u' :: f :: g :: h :: i :: j :: more =>
          match unit? f g h i with
          | none => stop .badUnicodeEscape ('u' :: f :: g :: h :: i :: j :: more)
          | some low =>
            if isLowHalf low then string start (charOfPair high low :: done) (j :: more)
            else
              string start (charOfCode high :: done) ('\\' :: 'u' :: f :: g :: h :: i :: j :: more)
        | rest => string start (charOfCode high :: done) (e :: rest)
      else string start (charOfCode high :: done) (e :: rest)
  | '\\' :: 'u' :: rest => stop .badUnicodeEscape ('u' :: rest)
  | '\\' :: c :: rest =>
    match escaped? c with
    | some c => string start (c :: done) rest
    | none => stop .badEscape ('\\' :: c :: rest)
  | c :: rest =>
    if c.toNat < 0x20 then stop .controlCharacter (c :: rest)
    else string start (c :: done) rest
termination_by cs => cs.length

def isDigit (c : Char) : Bool := '0' ≤ c && c ≤ '9'

def digitValue (c : Char) : Nat := c.toNat - 48

def digits (cs : List Char) : List Nat × List Char :=
  ((cs.takeWhile isDigit).map digitValue, cs.dropWhile isDigit)

/-- A point and the digits after it, where there are any. -/
def fraction (cs : List Char) : List Nat × List Char :=
  match cs with
  | '.' :: d :: rest => if isDigit d then digits (d :: rest) else ([], cs)
  | _ => ([], cs)

/-- A power of ten, where there is one. -/
def exponent (cs : List Char) : Option Int × List Char :=
  match cs with
  | c :: rest =>
    if c = 'e' ∨ c = 'E' then
      let (negative, afterSign) := Numeral.signOf rest
      match digits afterSign with
      | ([], _) => (none, cs)
      | (ds, rest) =>
        let size : Int := Numeral.natOfDigits ds
        (some (if negative then -size else size), rest)
    else (none, cs)
  | [] => (none, cs)

/-- A number whose whole digits are `whole`, up to its end. -/
def numberWith (negative : Bool) (whole : List Nat) (cs : List Char) : Step Json :=
  let (places, rest) := fraction cs
  match places, exponent rest with
  | [], (none, rest) =>
    if Numeral.digitLimit < whole.length then .error (.tooManyDigits whole.length)
    else
      let size : Int := Numeral.natOfDigits whole
      .ok (.int (if negative then -size else size), rest)
  | places, (power, rest) =>
    let all := Numeral.natOfDigits (whole ++ places)
    .ok (.float (Double.ofDecimal negative all (power.getD 0 - places.length)), rest)

/-- A number; its whole part has no superfluous zeros. -/
def number (cs : List Char) : Step Json :=
  let (negative, unsigned) := match cs with
    | '-' :: rest => (true, rest)
    | _ => (false, cs)
  match unsigned with
  | [] => stop .expectingValue cs
  | c :: rest =>
    if c = '0' then numberWith negative [0] rest
    else if isDigit c then
      let (whole, rest) := digits (c :: rest)
      numberWith negative whole rest
    else stop .expectingValue cs

mutual

/-- Reads a value in which `room` more lists and objects may stand in each other. The fuel is above
the number of characters, of which every call takes one. -/
def value : Nat → Nat → List Char → Except Stop (Json × List Char)
  | 0, _, cs => stop .expectingValue cs
  | fuel + 1, room, cs =>
    match cs, room with
    | '"' :: rest, _ => do
      let (s, rest) ← string cs [] rest
      return (.str (String.ofList s), rest)
    | '\x7b' :: _, 0 => .error (.tooDeep .object)
    | '\x7b' :: rest, room + 1 =>
      match skipSpace rest with
      | '\x7d' :: rest => .ok (.obj [], rest)
      | rest => members fuel room [] rest
    | '[' :: _, 0 => .error (.tooDeep .array)
    | '[' :: rest, room + 1 =>
      match skipSpace rest with
      | ']' :: rest => .ok (.arr [], rest)
      | rest => elements fuel room [] rest
    | 'n' :: 'u' :: 'l' :: 'l' :: rest, _ => .ok (.null, rest)
    | 't' :: 'r' :: 'u' :: 'e' :: rest, _ => .ok (.bool true, rest)
    | 'f' :: 'a' :: 'l' :: 's' :: 'e' :: rest, _ => .ok (.bool false, rest)
    | 'N' :: 'a' :: 'N' :: rest, _ => .ok (.float .nan, rest)
    | 'I' :: 'n' :: 'f' :: 'i' :: 'n' :: 'i' :: 't' :: 'y' :: rest, _ =>
      .ok (.float (.infinite false), rest)
    | '-' :: 'I' :: 'n' :: 'f' :: 'i' :: 'n' :: 'i' :: 't' :: 'y' :: rest, _ =>
      .ok (.float (.infinite true), rest)
    | cs, _ => number cs

/-- Reads the elements of an array up to its bracket; `done` holds those read, last one first. -/
def elements : Nat → Nat → List Json → List Char → Except Stop (Json × List Char)
  | 0, _, _, cs => stop .expectingValue cs
  | fuel + 1, room, done, cs => do
    let (item, rest) ← value fuel room cs
    match skipSpace rest with
    | ']' :: rest => .ok (.arr (item :: done).reverse, rest)
    | ',' :: rest => elements fuel room (item :: done) (skipSpace rest)
    | rest => stop .expectingComma rest

/-- Reads the members of an object up to its brace; `done` holds those read. -/
def members : Nat → Nat → List (String × Json) → List Char → Except Stop (Json × List Char)
  | 0, _, _, cs => stop .expectingValue cs
  | fuel + 1, room, done, cs =>
    match cs with
    | '"' :: rest => do
      let (key, rest) ← string cs [] rest
      match skipSpace rest with
      | ':' :: rest =>
        let (item, rest) ← value fuel room (skipSpace rest)
        let done := insertField (String.ofList key) item done
        match skipSpace rest with
        | '\x7d' :: rest => .ok (.obj done, rest)
        | ',' :: rest => members fuel room done (skipSpace rest)
        | rest => stop .expectingComma rest
      | rest => stop .expectingColon rest
    | cs => stop .expectingName cs

end

/-- Reads one value with blanks around it and nothing else. -/
def document (room : Nat) (cs : List Char) : Except Stop Json :=
  match cs with
  | '\ufeff' :: _ => .error (.fault .byteOrderMark cs)
  | cs =>
    match value (2 * cs.length + 2) room (skipSpace cs) with
    | .error e => .error e
    | .ok (json, rest) =>
      match skipSpace rest with
      | [] => .ok json
      | rest => .error (.fault .extraData rest)

end Reader

/-- The most lists and objects that may stand in each other. -/
def nestingLimit : Nat := 972

/-- Reads a text as one JSON value in which `room` lists and objects may stand in each other. -/
def readWithin (room : Nat) (s : String) : Except ReadError Json :=
  let cs := s.toList
  match Reader.document room cs with
  | .ok json => .ok json
  | .error (.fault fault rest) =>
    .error (.syntaxError (SyntaxError.at fault (cs.take (cs.length - rest.length))))
  | .error (.tooManyDigits count) => .error (.tooManyDigits count)
  | .error (.tooDeep nest) => .error (.tooDeep nest)

def read (s : String) : Except ReadError Json := readWithin nestingLimit s

end SuiteTrigger.Json
