import SuiteTrigger.Encoding.Grid.Big5
import SuiteTrigger.Encoding.Grid.Gb
import SuiteTrigger.Encoding.Grid.HongKong

namespace SuiteTrigger.Multibyte

/-- The place of a second byte among those from `0x40` on, the delete character apart. -/
def trailPlace (b : Nat) : Nat := if b < 0x7F then b - 0x40 else b - 0x41

/-- The first of the unified ideographs, and how many the first extension covers. -/
def firstIdeograph : Nat := 0x4E00

def ideographCount : Nat := 20902

def standardIdeographs : List Nat := Grid.Gb.standard.codesFrom firstIdeograph

/-- The ideograph at a place among those that the standard lacks. -/
def ideograph? (place : Nat) : Option Char :=
  let n := Grid.skipping standardIdeographs place
  if n < ideographCount then some (Char.ofNat (firstIdeograph + n)) else none

/-- The place of a pair among the ideographs that the standard lacks: 190 pairs to each row before
those of the standard, then 96 pairs to each row beside them. -/
def ideographPlace? (a b : Nat) : Option Nat :=
  if b < 0x40 || b = 0x7F || b = 0xFF then none
  else if 0x81 ≤ a && a ≤ 0xA0 then some (190 * (a - 0x81) + trailPlace b)
  else if 0xAA ≤ a && a ≤ 0xFE && b ≤ 0xA0 then some (6080 + 96 * (a - 0xAA) + trailPlace b)
  else none

/-- The grid of the first extension. -/
def extendedGb : Grid := Grid.Gb.changes ++ Grid.Gb.standard ++ Grid.Gb.additions

def extendedChinese? (a b : Nat) : Option Char :=
  (extendedGb.sign? a b).or ((ideographPlace? a b).bind ideograph?)

/-- The private characters of the second extension, in three parts. -/
def privateHan? (a b : Nat) : Option Char :=
  if b = 0x7F || b = 0xFF then none
  else if 0xAA ≤ a && a ≤ 0xAF && 0xA1 ≤ b then
    some (Char.ofNat (0xE000 + 94 * (a - 0xAA) + (b - 0xA1)))
  else if 0xF8 ≤ a && a ≤ 0xFE && 0xA1 ≤ b then
    some (Char.ofNat (0xE234 + 94 * (a - 0xF8) + (b - 0xA1)))
  else if 0xA1 ≤ a && a ≤ 0xA7 && 0x40 ≤ b && b ≤ 0xA0 then
    some (Char.ofNat (0xE4C6 + 96 * (a - 0xA1) + trailPlace b))
  else none

def fullChinese? (a b : Nat) : Option Char :=
  ((extendedChinese? a b).or (Grid.Gb.lateAdditions.sign? a b)).or (privateHan? a b)

/-- How many characters below the supplementary ones no Chinese pair stands for. -/
def unpairedCount : Nat := 39420

/-- The character at a place among those that no Chinese pair stands for. -/
def unpaired? (n : Nat) : Option Char :=
  if n < unpairedCount then
    (Grid.Gb.unpaired.reverse.find? fun entry => entry.1 ≤ n).map fun entry =>
      Char.ofNat (entry.2 + (n - entry.1))
  else none

/-- The first of the four bytes of the first supplementary character. -/
def supplementaryLead : Nat := 0x90

def quadNumber (a b c d : Nat) : Nat :=
  ((a * 10 + (b - 0x30)) * 126 + (c - 0x81)) * 10 + (d - 0x30)

def isDigit (b : UInt8) : Bool := 0x30 ≤ b && b ≤ 0x39

/-- The character of four bytes of which the second one is a digit. -/
def quad? (a b c d : UInt8) : Option Char :=
  if a < 0x81 || a = 0xFF || c < 0x81 || c = 0xFF || !isDigit d then none
  else if a < 0x85 then unpaired? (quadNumber (a.toNat - 0x81) b.toNat c.toNat d.toNat)
  else if supplementaryLead ≤ a.toNat then
    let n := quadNumber (a.toNat - supplementaryLead) b.toNat c.toNat d.toNat
    if n < 0x100000 then some (Char.ofNat (0x10000 + n)) else none
  else none

/-- Whether a pair lies in the rows that belong to the supplement alone. -/
def isSupplementary (a b : Nat) : Bool := a = 0xC7 || a = 0xC8 || (a = 0xC6 && 0xA1 ≤ b)

def hongKong? (a b : Nat) : Option Char :=
  let standard := if isSupplementary a b then none else Grid.Big5.standard.sign? a b
  standard.or (Grid.HongKong.supplement.sign? a b)

end SuiteTrigger.Multibyte
