import SuiteTrigger.Encoding.Grid.Jis
import SuiteTrigger.Encoding.Grid.JisExtension
import SuiteTrigger.Encoding.Grid.JisSupplement

namespace SuiteTrigger.Multibyte

/-- The editions of the extended grid. -/
inductive Edition where
  | first
  | revised
  deriving DecidableEq

def narrowKana? (b : UInt8) : Option Char :=
  if 0xA1 ≤ b && b ≤ 0xDF then some (Char.ofNat (0xFF61 + (b.toNat - 0xA1))) else none

/-- The character of a byte in the Roman set, which has a yen sign and an overline in the place of
two signs of ASCII. -/
def roman (b : UInt8) : Char :=
  if b = 0x5C then '¥' else if b = 0x7E then '‾' else Char.ofNat b.toNat

/-- Whether a byte may be the second one of a shifted pair. -/
def isShiftedTrail (b : Nat) : Bool := 0x40 ≤ b && b ≤ 0xFC && b ≠ 0x7F

/-- The row and the cell of a shifted pair. -/
def shiftedPlace (a b : Nat) : Nat × Nat :=
  let row := 2 * (if a < 0xA0 then a - 0x81 else a - 0xC1) + 1
  if b < 0x7F then (row, b - 0x3F)
  else if b < 0x9F then (row, b - 0x40)
  else (row + 1, b - 0x9E)

def shifted? {α : Type} (sign? : Nat → Nat → Option α) (a b : Nat) : Option α :=
  if isShiftedTrail b then sign? (shiftedPlace a b).1 (shiftedPlace a b).2 else none

/-- The private characters of Windows fill twenty rows. -/
def privateKanji? (row cell : Nat) : Option Char :=
  if 95 ≤ row && row ≤ 114 then some (Char.ofNat (0xE000 + 94 * (row - 95) + (cell - 1))) else none

def windowsJis : Grid := Grid.Jis.changes ++ Grid.Jis.standard ++ Grid.Jis.additions

def windowsSign? (row cell : Nat) : Option Char :=
  (windowsJis.sign? row cell).or (privateKanji? row cell)

/-- The row or the cell of a byte whose high bit is set. -/
def highPlace (b : Nat) : Nat := b - 0xA0

/-- The sign of a pair with high bits, given what the grid holds. Behind one first byte stands
narrow kana. -/
def highPair? (sign? : Nat → Nat → Option Char) (a b : Nat) : Option Char :=
  if a = 0x8E then narrowKana? (UInt8.ofNat b) else sign? (highPlace a) (highPlace b)

/-- Whether an edition fills a place of the first plane. -/
def Edition.fills (edition : Edition) (row cell : Nat) : Bool :=
  edition = .revised || !Grid.JisExtension.revised.contains (row, cell)

def Edition.sign? (edition : Edition) (row cell : Nat) : Option Char :=
  if edition.fills row cell then
    (Grid.Jis.standard.sign? row cell).or (Grid.JisExtension.firstPlane.sign? row cell)
  else none

/-- The sign of two characters at a place of the first plane. -/
def composedJis? (row cell : Nat) : Option (List Char) :=
  Grid.JisExtension.composed.whole? row cell

/-- The sign at a place of the second plane, of which the first edition has one in another
form. -/
def Edition.secondSign? (edition : Edition) (row cell : Nat) : Option Char :=
  if edition = .first && row = 93 && cell = 27 then some '鬝'
  else Grid.JisExtension.secondPlane.sign? row cell

/-- The sign at a place of the first plane where bytes have high bits. -/
def Edition.highSign? (edition : Edition) (row cell : Nat) : Option Char :=
  if row = 2 && cell = 18 then some '～' else edition.sign? row cell

/-- The row of the second plane that comes after so many rows, those of the first plane among
them. -/
def secondRow (n : Nat) : Nat :=
  match n with
  | 95 => 1
  | 96 => 8
  | 97 => 3
  | 98 => 4
  | 99 => 5
  | 100 => 12
  | 101 => 13
  | 102 => 14
  | 103 => 15
  | n => n - 26

/-- The sign at a shifted place, where the second plane follows the first. -/
def Edition.shiftedSign? (edition : Edition) (row cell : Nat) : Option Char :=
  if row = 1 && cell = 32 then some '\\'
  else if row ≤ 94 then edition.sign? row cell
  else edition.secondSign? (secondRow row) cell

/-- The sign of two characters at a shifted place. -/
def shiftedComposed? (row cell : Nat) : Option (List Char) :=
  if row ≤ 94 then composedJis? row cell else none

end SuiteTrigger.Multibyte
