import SuiteTrigger.Encoding.CodePage.Iso
import SuiteTrigger.Encoding.Multibyte

/-!
# Seven bit charsets with escape sequences

Escape sequences tell which set of signs the bytes behind them are of. Where the charset has shifts,
a second set is ready besides and two control characters switch between both. A line end shifts
back. A third set may be ready for single signs, each of which is announced. An escape sequence of
another kind is text.
-/

namespace SuiteTrigger

inductive Iso2022 where
  | japanese
  /-- The Japanese charset with the second grid. -/
  | japaneseSupplemented
  /-- The Japanese charset with the second grid and the signs of other languages. -/
  | japaneseInternational
  /-- The Japanese charset with the second grid and narrow kana. -/
  | japaneseKana
  /-- The Japanese charset with both planes of the extended grid. -/
  | japaneseExtended (edition : Multibyte.Edition)
  | korean
  deriving DecidableEq

namespace Iso2022

def name : Iso2022 → String
  | .japanese => "iso2022_jp"
  | .japaneseSupplemented => "iso2022_jp_1"
  | .japaneseInternational => "iso2022_jp_2"
  | .japaneseKana => "iso2022_jp_ext"
  | .japaneseExtended .first => "iso2022_jp_3"
  | .japaneseExtended .revised => "iso2022_jp_2004"
  | .korean => "iso2022_kr"

/-- What the bytes of a section stand for. -/
inductive SignSet where
  | ascii
  /-- ASCII with a yen sign and an overline. -/
  | roman
  | kana
  /-- The upper half of Latin-1. -/
  | latin
  /-- The upper half of the Greek page, before it had a sign for the euro. -/
  | greek
  | jis
  | jisSupplement
  | jisExtended (edition : Multibyte.Edition)
  | jisSecond
  | gb
  | ks
  deriving DecidableEq

/-- How an escape sequence names a set: whether it is one of pairs, and by which final byte. -/
structure Designation where
  isPair : Bool
  final : UInt8
  set : SignSet

/-- The sets of a charset besides ASCII. -/
def designations : Iso2022 → List Designation
  | .japanese => [⟨false, 0x4A, .roman⟩, ⟨true, 0x42, .jis⟩, ⟨true, 0x40, .jis⟩]
  | .japaneseSupplemented =>
    [⟨false, 0x4A, .roman⟩, ⟨true, 0x42, .jis⟩, ⟨true, 0x40, .jis⟩, ⟨true, 0x44, .jisSupplement⟩]
  | .japaneseInternational =>
    [⟨false, 0x4A, .roman⟩, ⟨false, 0x41, .latin⟩, ⟨false, 0x46, .greek⟩, ⟨true, 0x42, .jis⟩,
     ⟨true, 0x40, .jis⟩, ⟨true, 0x44, .jisSupplement⟩, ⟨true, 0x41, .gb⟩, ⟨true, 0x43, .ks⟩]
  | .japaneseKana =>
    [⟨false, 0x4A, .roman⟩, ⟨false, 0x49, .kana⟩, ⟨true, 0x42, .jis⟩, ⟨true, 0x40, .jis⟩,
     ⟨true, 0x44, .jisSupplement⟩]
  | .japaneseExtended edition =>
    [⟨true, 0x42, .jis⟩,
     ⟨true, if edition = .first then 0x4F else 0x51, .jisExtended edition⟩,
     ⟨true, 0x50, .jisSecond⟩]
  | .korean => [⟨true, 0x43, .ks⟩]

/-- The set that a final byte names. -/
def set? (charset : Iso2022) (isPair : Bool) (final : UInt8) : Option SignSet :=
  if !isPair && final = 0x42 then some .ascii
  else (charset.designations.find? fun d => d.isPair = isPair && d.final = final).map (·.set)

def hasShifts : Iso2022 → Bool
  | .korean => true
  | _ => false

def hasThird : Iso2022 → Bool
  | .japaneseInternational => true
  | _ => false

def SignSet.width : SignSet → Nat
  | .ascii => 1
  | .roman => 1
  | .kana => 1
  | .latin => 1
  | .greek => 1
  | _ => 2

def single (c : Option Char) : Option (List Char) := c.map fun c => [c]

/-- The row or the cell of a byte of seven bits. -/
def lowPlace (b : UInt8) : Nat := b.toNat - 0x20

/-- The sign of a byte and the one behind it, of which a set of single bytes looks at the first. The
upper halves of pages are for single signs only. -/
def SignSet.sign? (set : SignSet) (a b : UInt8) : Option (List Char) :=
  match set with
  | .ascii => some [Char.ofNat a.toNat]
  | .roman => some [Multibyte.roman a]
  | .kana => single (Multibyte.narrowKana? (a + 0x80))
  | .latin => none
  | .greek => none
  | .jis => single (Grid.Jis.standard.sign? (lowPlace a) (lowPlace b))
  | .jisSupplement => single (Grid.JisSupplement.standard.sign? (lowPlace a) (lowPlace b))
  | .jisExtended edition =>
    (single (edition.sign? (lowPlace a) (lowPlace b))).or
      (Multibyte.composedJis? (lowPlace a) (lowPlace b))
  | .jisSecond => single (Grid.JisExtension.secondPlane.sign? (lowPlace a) (lowPlace b))
  | .gb => single (Grid.Gb.standard.sign? (a.toNat + 0x80) (b.toNat + 0x80))
  | .ks => single (Grid.Ks.standard.sign? (a.toNat + 0x80) (b.toNat + 0x80))

/-- The signs that the Greek page got later. -/
def lateGreek : List UInt8 := [0xA4, 0xA5, 0xAA]

/-- What a byte stands for in a set of single signs: a character, nothing, or no such set. -/
def SignSet.third? (set : SignSet) (b : UInt8) : Option (Option Char) :=
  match set with
  | .ascii => some (if b < 0x80 then some (Char.ofNat b.toNat) else none)
  | .latin => some (if b < 0x80 then some (Char.ofNat (b.toNat + 0x80)) else none)
  | .greek =>
    let high := b + 0x80
    some (if lateGreek.contains high then none else CodePage.Iso.part7.symbol? high)
  | _ => none

structure State where
  /-- The set in use, the one that a shift turns to and the one of single signs. -/
  set : SignSet
  shiftedSet : SignSet
  thirdSet : SignSet
  isShifted : Bool
  /-- Whether the bytes are those of an escape sequence that is text. -/
  isVerbatim : Bool

def State.start : State := ⟨.ascii, .ascii, .ascii, false, false⟩

def State.current (s : State) : SignSet := if s.isShifted then s.shiftedSet else s.set

def escape : UInt8 := 0x1B

def isFinal (b : UInt8) : Bool := 0x40 ≤ b && b ≤ 0x5A

/-- The length of an escape sequence, given what follows the first byte, up to a bound. One mark may
stand in front of another sequence. -/
def escapeLength? (charset : Iso2022) : Nat → List UInt8 → Except Multibyte.Flaw Nat
  | 0, _ => .error .illegal
  | _, [] => .error .incomplete
  | fuel + 1, b :: rest =>
    if isFinal b then .ok 2
    else match charset.hasShifts, b, rest with
      | false, 0x26, 0x40 :: more =>
        (· + 3) <$> charset.escapeLength? (fuel - 2) (more.drop 1)
      | _, _, _ => (· + 1) <$> charset.escapeLength? fuel rest

/-- The longest escape sequence without its first byte. -/
def escapeBound : Nat := 15

/-- Whether an escape sequence with this second byte names a set. -/
def isNaming (b : UInt8) : Bool := [0x24, 0x26, 0x28, 0x29, 0x2E].contains b

/-- The use that a set is put to. -/
inductive Slot where
  | main
  | shifted
  | third

/-- The set that an escape sequence names, by the bytes behind the first one, and its use. A further
sequence may stand behind two bytes of any kind. -/
def named? (charset : Iso2022) (bytes : List UInt8) : Option (Slot × SignSet) :=
  match bytes with
  | [0x24, b] => (charset.set? true b).map (.main, ·)
  | [0x28, b] => (charset.set? false b).map (.main, ·)
  | [0x29, b] => (charset.set? false b).map (.shifted, ·)
  | [0x2E, b] => if charset.hasThird then (charset.set? false b).map (.third, ·) else none
  | [0x24, 0x28, b] => (charset.set? true b).map (.main, ·)
  | [0x24, 0x29, b] => (charset.set? true b).map (.shifted, ·)
  | [_, _, 0x1B, 0x24, 0x42] => if charset.hasShifts then none else some (.main, .jis)
  | _ => none

def State.naming (s : State) (entry : Slot × SignSet) : State :=
  match entry.1 with
  | .main => { s with set := entry.2 }
  | .shifted => { s with shiftedSet := entry.2 }
  | .third => { s with thirdSet := entry.2 }

/-- What bytes begin with. -/
inductive Piece where
  /-- Text of some bytes, and the state behind it. -/
  | text (length : Nat) (cs : List Char) (state : State)
  /-- A flaw of so many bytes. -/
  | flaw (length : Nat) (flaw : Multibyte.Flaw)

/-- A sign of the third set, given what follows the two bytes that announce it. -/
def readThird (s : State) (rest : List UInt8) : Piece :=
  match rest with
  | [] => .flaw 2 .incomplete
  | b :: _ =>
    match s.thirdSet.third? b with
    | some (some c) => .text 3 [c] s
    | some none => .flaw 3 .illegal
    | none => .flaw 3 .stuck

/-- What an escape sequence comes to, given what follows its first byte. -/
def readEscape (charset : Iso2022) (s : State) (rest : List UInt8) : Piece :=
  match rest with
  | [] => .flaw 1 .incomplete
  | b :: more =>
    if charset.hasThird && b = 0x4E then readThird s more
    else if isNaming b then
      match charset.escapeLength? escapeBound rest with
      | .error .incomplete => .flaw (rest.length + 1) .incomplete
      | .error flaw => .flaw 1 flaw
      | .ok length =>
        match charset.named? (rest.take (length - 1)) with
        | some entry => .text length [] (s.naming entry)
        | none => .flaw length .illegal
    else .text 1 ['\x1b'] { s with isVerbatim := true }

/-- What a byte begins in the current set. -/
def readSign (s : State) (a : UInt8) (rest : List UInt8) : Piece :=
  let set := s.current
  if rest.length + 1 < set.width then .flaw (rest.length + 1) .incomplete
  else match set.sign? a (rest.headD 0) with
    | some cs => .text set.width cs s
    | none => .flaw set.width .illegal

/-- What a byte and those behind it begin with. -/
def read (charset : Iso2022) (s : State) (a : UInt8) (rest : List UInt8) : Piece :=
  let itself := [Char.ofNat a.toNat]
  if s.isVerbatim then .text 1 itself { s with isVerbatim := !isFinal a }
  else if a = escape then charset.readEscape s rest
  else if a = 0x0A then .text 1 itself { s with isShifted := false }
  else if charset.hasShifts && a = 0x0F then .text 1 [] { s with isShifted := false }
  else if charset.hasShifts && a = 0x0E then .text 1 [] { s with isShifted := true }
  else if a < 0x20 then .text 1 itself s
  else if 0x80 ≤ a then .flaw 1 .illegal
  else readSign s a rest

/-- Decodes from a place on; `done` holds the characters before it, last one first. -/
def decodeFrom (charset : Iso2022) (s : State) (offset : Nat) (done : List Char) :
    List UInt8 → Except Multibyte.DecodeError (List Char)
  | [] => .ok done.reverse
  | a :: rest =>
    match charset.read s a rest with
    | .text length cs next =>
      charset.decodeFrom next (offset + length) (cs.reverse ++ done) (rest.drop (length - 1))
    | .flaw length flaw => .error ⟨charset.name, offset, (a :: rest).take length, flaw⟩
termination_by bytes => bytes.length

def decode (charset : Iso2022) (bytes : List UInt8) : Except Multibyte.DecodeError (List Char) :=
  charset.decodeFrom .start 0 [] bytes

end Iso2022

end SuiteTrigger
