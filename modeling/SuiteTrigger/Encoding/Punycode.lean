/-!
# Punycode

The ASCII characters of a text stand before the last hyphen, and behind it a run of numbers tells
which other characters are put where. A number is written in base 36, least digit first, and its
digits have thresholds that follow the numbers before it: a digit below its threshold is the last
one. Texts are lists of code points here, in which halves of surrogate pairs may stand.
-/

namespace SuiteTrigger.Punycode

/-- Why bytes are no text. -/
inductive Flaw where
  | notAscii (offset : Nat) (byte : UInt8)
  | incomplete
  | badDigit (c : Char)
  | tooLarge (code : Nat)
  deriving DecidableEq

/-- The value of a digit: letters in either case, then decimal digits. -/
def digitValue? (c : Char) : Option Nat :=
  if c.isAlpha then some (c.toUpper.toNat - 65)
  else if c.isDigit then some (c.toNat - 22)
  else none

def base : Nat := 36

/-- The least and the greatest threshold. -/
def leastThreshold : Nat := 1

def greatestThreshold : Nat := 26

/-- The threshold of a digit, by its index. -/
def threshold (bias index : Nat) : Nat :=
  min greatestThreshold (max leastThreshold (base * (index + 1) - bias))

/-- Divides a number until it is small, and counts how often. The fuel is the number itself. -/
def reduce : Nat → Nat → Nat → Nat × Nat
  | 0, delta, count => (delta, count)
  | fuel + 1, delta, count =>
    if 455 < delta then reduce fuel (delta / (base - leastThreshold)) (count + 1)
    else (delta, count)

/-- The bias after a number was read that made a text of the given length. -/
def adapt (delta : Nat) (isFirst : Bool) (length : Nat) : Nat :=
  let halved := if isFirst then delta / 700 else delta / 2
  let start := halved + halved / length
  let (rest, count) := reduce start start 0
  base * count + base * rest / (rest + 38)

/-- A number that is being read. -/
structure Pending where
  index : Nat
  weight : Nat
  value : Nat

def Pending.start : Pending := ⟨0, 1, 0⟩

/-- The text so far and what comes next in it. -/
structure State where
  text : List Nat
  code : Nat
  /-- The place behind the last character that was put in. -/
  place : Nat
  bias : Nat
  isFirst : Bool

def State.insert (s : State) (delta : Nat) : Except Flaw State :=
  let slots := s.text.length + 1
  let code := s.code + (s.place + delta) / slots
  let place := (s.place + delta) % slots
  if 0x10FFFF < code then .error (.tooLarge code)
  else .ok {
    text := s.text.take place ++ code :: s.text.drop place
    code
    place := place + 1
    bias := adapt delta s.isFirst slots
    isFirst := false }

/-- Reads the numbers and puts in their characters. -/
def insertAll (s : State) (pending : Pending) : List Char → Except Flaw (List Nat)
  | [] => if pending.index = 0 then .ok s.text else .error .incomplete
  | c :: rest =>
    match digitValue? c with
    | none => .error (.badDigit c.toUpper)
    | some digit =>
      let limit := threshold s.bias pending.index
      let value := pending.value + digit * pending.weight
      if digit < limit then
        match s.insert value with
        | .error flaw => .error flaw
        | .ok s => insertAll s .start rest
      else insertAll s ⟨pending.index + 1, pending.weight * (base - limit), value⟩ rest

def asciiFrom (offset : Nat) : List UInt8 → Except Flaw (List Char)
  | [] => .ok []
  | b :: rest =>
    if b < 0x80 then (Char.ofNat b.toNat :: ·) <$> asciiFrom (offset + 1) rest
    else .error (.notAscii offset b)

/-- The bytes before the last hyphen and those behind it; all bytes are behind it where there is
none. -/
def splitLast (bytes : List UInt8) : List UInt8 × List UInt8 :=
  let behind := (bytes.reverse.takeWhile (· ≠ 0x2D)).reverse
  (bytes.take (bytes.length - behind.length - 1), behind)

def decode (bytes : List UInt8) : Except Flaw (List Nat) := do
  let (plain, numbers) := splitLast bytes
  let text ← asciiFrom 0 plain
  insertAll ⟨text.map (·.toNat), 0x80, 0, 72, true⟩ .start (← asciiFrom 0 numbers)

def digit (value : Nat) : Char := Char.ofNat (if value < 26 then 97 + value else 22 + value)

theorem leastThreshold_le_threshold (bias index : Nat) : leastThreshold ≤ threshold bias index := by
  simp only [threshold, leastThreshold, greatestThreshold]
  omega

def digits (bias index value : Nat) : List Char :=
  let limit := threshold bias index
  if value < limit then [digit value]
  else
    digit (limit + (value - limit) % (base - limit)) ::
      digits bias (index + 1) ((value - limit) / (base - limit))
termination_by value
decreasing_by
  have least := leastThreshold_le_threshold bias index
  have smaller := Nat.div_le_self (value - threshold bias index) (base - threshold bias index)
  simp only [leastThreshold] at least
  omega

/-- What a writer knows: how far the numbers have come, and the digits so far. -/
structure Writer where
  written : List Char
  delta : Nat
  /-- How many characters of the text are told. -/
  count : Nat
  bias : Nat
  isFirst : Bool

/-- Goes over the text and tells the places of one code point. -/
def Writer.tell (writer : Writer) (code : Nat) (text : List Nat) : Writer :=
  text.foldl (fun w next =>
    if next < code then { w with delta := w.delta + 1 }
    else if next = code then
      { written := w.written ++ digits w.bias 0 w.delta
        delta := 0
        count := w.count + 1
        bias := adapt w.delta w.isFirst (w.count + 1)
        isFirst := false }
    else w) writer

/-- Tells the places of the code points above one, lowest first. -/
def Writer.tellAll (writer : Writer) (text : List Nat) (above : Nat) : List Nat → Writer
  | [] => writer
  | code :: rest =>
    let reached := { writer with
      delta := writer.delta + (code - above - 1) * (writer.count + 1) }
    let told := reached.tell code text
    tellAll { told with delta := told.delta + 1 } text code rest

def encode (text : List Nat) : List Char :=
  let plain := (text.filter (· < 0x80)).map Char.ofNat
  let codes := ((text.filter (0x80 ≤ ·)).mergeSort).eraseDups
  let told := Writer.tellAll ⟨[], 0, plain.length, 72, true⟩ text 0x7F codes
  (if plain.isEmpty then [] else plain ++ ['-']) ++ told.written

end SuiteTrigger.Punycode
