import SuiteTrigger.Encoding.Multibyte.Chinese
import SuiteTrigger.Encoding.Multibyte.Japanese
import SuiteTrigger.Encoding.Multibyte.Korean

/-!
# Multibyte charsets

In these charsets ASCII bytes stand for themselves and pairs of other bytes for the signs of a grid.
Some have further single bytes, some have signs of more than two bytes, and some have signs of two
characters.
-/

namespace SuiteTrigger

inductive Multibyte where
  | shiftJis
  | shiftJisWindows
  | shiftJisExtended (edition : Multibyte.Edition)
  | eucJapanese
  | eucJapaneseExtended (edition : Multibyte.Edition)
  | chinese
  | chineseExtended
  | chineseFull
  | big5
  | big5Windows
  | big5HongKong
  | eucKorean
  | koreanExtended
  | koreanComposed
  deriving DecidableEq

namespace Multibyte

def name : Multibyte → String
  | .shiftJis => "shift_jis"
  | .shiftJisWindows => "cp932"
  | .shiftJisExtended .first => "shift_jisx0213"
  | .shiftJisExtended .revised => "shift_jis_2004"
  | .eucJapanese => "euc_jp"
  | .eucJapaneseExtended .first => "euc_jisx0213"
  | .eucJapaneseExtended .revised => "euc_jis_2004"
  | .chinese => "gb2312"
  | .chineseExtended => "gbk"
  | .chineseFull => "gb18030"
  | .big5 => "big5"
  | .big5Windows => "cp950"
  | .big5HongKong => "big5hkscs"
  | .eucKorean => "euc_kr"
  | .koreanExtended => "cp949"
  | .koreanComposed => "johab"

def single? (charset : Multibyte) (b : UInt8) : Option Char :=
  if b < 0x80 then
    match charset with
    | .shiftJisExtended _ => some (roman b)
    | _ => some (Char.ofNat b.toNat)
  else match charset with
    | .shiftJis => narrowKana? b
    | .shiftJisExtended _ => narrowKana? b
    | .shiftJisWindows =>
      if b = 0x80 then some '\u0080'
      else if b = 0xA0 then some '\uf8f0'
      else if 0xFD ≤ b then some (Char.ofNat (0xF8F1 + (b.toNat - 0xFD)))
      else narrowKana? b
    | _ => none

/-- Whether a byte that stands for nothing by itself may begin a sign. -/
def isLead (charset : Multibyte) (b : UInt8) : Bool :=
  match charset with
  | .shiftJis => b ≠ 0x80 && b ≠ 0xA0 && b ≤ 0xEA
  | .shiftJisExtended _ => b ≠ 0x80 && b ≠ 0xA0 && b ≤ 0xFC
  | _ => true

def pair? (charset : Multibyte) (a b : Nat) : Option Char :=
  match charset with
  | .shiftJis => shifted? Grid.Jis.standard.sign? a b
  | .shiftJisWindows => shifted? windowsSign? a b
  | .shiftJisExtended edition => shifted? edition.shiftedSign? a b
  | .eucJapanese => highPair? Grid.Jis.standard.sign? a b
  | .eucJapaneseExtended edition => highPair? edition.highSign? a b
  | .chinese => Grid.Gb.standard.sign? a b
  | .chineseExtended => extendedChinese? a b
  | .chineseFull => fullChinese? a b
  | .big5 => Grid.Big5.standard.sign? a b
  | .big5Windows => (Grid.Big5.changes ++ Grid.Big5.standard).sign? a b
  | .big5HongKong => hongKong? a b
  | .eucKorean => Grid.Ks.standard.sign? a b
  | .koreanExtended => extendedKorean? a b
  | .koreanComposed => johab? a b

/-- The sign of two characters of a pair. -/
def composedPair? (charset : Multibyte) (a b : Nat) : Option (List Char) :=
  match charset with
  | .shiftJisExtended _ => shifted? shiftedComposed? a b
  | .eucJapaneseExtended _ => composedJis? (highPlace a) (highPlace b)
  | .big5HongKong => Grid.HongKong.composed.whole? a b
  | _ => none

/-- The sign of two bytes behind the byte that begins the second grid. -/
def secondPair? (charset : Multibyte) (a b : Nat) : Option Char :=
  let supplement := Grid.JisSupplement.standard.sign? (highPlace a) (highPlace b)
  match charset with
  | .eucJapaneseExtended edition =>
    (edition.secondSign? (highPlace a) (highPlace b)).or supplement
  | _ => supplement

/-- What bytes begin with. -/
inductive Sign where
  /-- Characters and the number of their bytes. -/
  | text (length : Nat) (cs : List Char)
  /-- The number of bytes that are refused. -/
  | illegal (length : Nat)
  | incomplete

def Sign.ofOption (length : Nat) : Option Char → Sign
  | some c => .text length [c]
  | none => .illegal 1

/-- Whether a pair has a sign in the revised edition alone. Such a pair is refused as a whole. -/
def isLatePair (charset : Multibyte) (a b : Nat) : Bool :=
  match charset with
  | .shiftJisExtended edition =>
    (shifted? (fun row cell => some (edition.fills row cell)) a b) = some false
  | .eucJapaneseExtended edition => !edition.fills (highPlace a) (highPlace b)
  | _ => false

/-- What two bytes stand for. -/
def signOfPair (charset : Multibyte) (a b : UInt8) : Sign :=
  let (first, second) := (a.toNat, b.toNat)
  if charset.isLatePair first second then .illegal 2
  else match charset.composedPair? first second with
    | some cs => .text 2 cs
    | none => .ofOption 2 (charset.pair? first second)

/-- What two bytes and those behind them begin with. -/
def signOfTwo (charset : Multibyte) (a b : UInt8) (rest : List UInt8) : Sign :=
  let second : Sign := match rest with
    | c :: _ => .ofOption 3 (charset.secondPair? b.toNat c.toNat)
    | [] => .incomplete
  match charset with
  | .chineseFull =>
    if isDigit b then
      match rest with
      | c :: d :: _ => .ofOption 4 (quad? a b c d)
      | _ => .incomplete
    else charset.signOfPair a b
  | .eucJapanese => if a = 0x8F then second else charset.signOfPair a b
  | .eucJapaneseExtended _ => if a = 0x8F then second else charset.signOfPair a b
  | .eucKorean =>
    if a = 0xA4 && b = filler then
      match rest with
      | 0xA4 :: c :: 0xA4 :: d :: 0xA4 :: e :: _ => .ofOption 8 (syllable? c d e)
      | rest => if rest.length < 6 then .incomplete else .illegal 1
    else charset.signOfPair a b
  | _ => charset.signOfPair a b

def sign (charset : Multibyte) (a : UInt8) (rest : List UInt8) : Sign :=
  match charset.single? a with
  | some c => .text 1 [c]
  | none =>
    if charset.isLead a then
      match rest with
      | b :: more => charset.signOfTwo a b more
      | [] => .incomplete
    else .illegal 1

/-- Why bytes are no text. -/
inductive Flaw where
  | illegal
  | incomplete
  /-- The charset itself does not know how to go on. -/
  | stuck
  deriving DecidableEq

/-- A refusal, with the name of the charset. -/
structure DecodeError where
  name : String
  offset : Nat
  bytes : List UInt8
  flaw : Flaw
  deriving DecidableEq

/-- Decodes from a place on; `done` holds the characters before it, last one first. -/
def decodeFrom (charset : Multibyte) (offset : Nat) (done : List Char) :
    List UInt8 → Except DecodeError (List Char)
  | [] => .ok done.reverse
  | a :: rest =>
    match charset.sign a rest with
    | .text length cs =>
      charset.decodeFrom (offset + length) (cs.reverse ++ done) (rest.drop (length - 1))
    | .illegal length => .error ⟨charset.name, offset, (a :: rest).take length, .illegal⟩
    | .incomplete => .error ⟨charset.name, offset, a :: rest, .incomplete⟩
termination_by bytes => bytes.length

def decode (charset : Multibyte) (bytes : List UInt8) : Except DecodeError (List Char) :=
  charset.decodeFrom 0 [] bytes

end Multibyte

end SuiteTrigger
