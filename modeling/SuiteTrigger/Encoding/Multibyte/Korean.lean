import SuiteTrigger.Encoding.Grid.Ks
import SuiteTrigger.Text.Syllable

namespace SuiteTrigger.Multibyte

open Text

def syllableRows : Grid := Grid.Ks.standard.filter fun run => 0xB0 ≤ run.row && run.row ≤ 0xC8

def standardSyllables : List Nat := syllableRows.codesFrom Syllable.first

/-- The syllable at a place among those that the standard lacks. -/
def lackingSyllable? (place : Nat) : Option Char :=
  let n := Grid.skipping standardSyllables place
  if n < Syllable.count then some (Char.ofNat (Syllable.first + n)) else none

/-- The place of a second byte of the Korean extension. -/
def koreanTrailPlace? (b : Nat) : Option Nat :=
  if 0x41 ≤ b && b ≤ 0x5A then some (b - 0x41)
  else if 0x61 ≤ b && b ≤ 0x7A then some (b - 0x61 + 26)
  else if 0x81 ≤ b && b ≤ 0xFE then some (b - 0x81 + 52)
  else none

/-- The place of a pair among the syllables that the standard lacks: 178 pairs to each row before
those of the standard, then 84 pairs to each row beside them. -/
def syllablePlace? (a b : Nat) : Option Nat :=
  if 0x81 ≤ a && a ≤ 0xA0 then (koreanTrailPlace? b).map (178 * (a - 0x81) + ·)
  else if 0xA1 ≤ a && a ≤ 0xC6 && b ≤ 0xA0 then
    (koreanTrailPlace? b).map (5696 + 84 * (a - 0xA1) + ·)
  else none

def extendedKorean? (a b : Nat) : Option Char :=
  (Grid.Ks.standard.sign? a b).or ((syllablePlace? a b).bind lackingSyllable?)

/-- The letters that may begin a Hangul syllable and those that may end one, in the order of the
syllables. -/
def initialLetters : String := "ㄱㄲㄴㄷㄸㄹㅁㅂㅃㅅㅆㅇㅈㅉㅊㅋㅌㅍㅎ"

def finalLetters : String := "ㄱㄲㄳㄴㄵㄶㄷㄹㄺㄻㄼㄽㄾㄿㅀㅁㅂㅄㅅㅆㅇㅈㅊㅋㅌㅍㅎ"

/-- The letter of the second byte of a pair of Hangul letters. -/
def letter (b : UInt8) : Char := Char.ofNat (0x3131 + b.toNat - 0xA1)

/-- The second byte of the filler, with which a syllable that is spelled out begins and which stands
for the lack of a last letter. -/
def filler : UInt8 := 0xD4

/-- The syllable of an initial letter, a vowel and a final letter, where zero stands for none. -/
def syllable (first vowel last : Nat) : Char :=
  Char.ofNat (Syllable.code first vowel last)

/-- The syllable of the letters of three pairs. -/
def syllable? (a b c : UInt8) : Option Char := do
  let first ← initialLetters.toList.idxOf? (letter a)
  let vowel ← if 0xBF ≤ b && b ≤ 0xD3 then some (b.toNat - 0xBF) else none
  let last ← if c = filler then some 0 else (finalLetters.toList.idxOf? (letter c)).map (· + 1)
  some (syllable first vowel last)

/-! ### Composed pairs

A pair is a bit and three numbers of five bits, of which each is a letter, the lack of one, or
nothing. -/

/-- A part of a composed pair: a letter, by its number, or the lack of one. -/
inductive Part where
  | blank
  | letter (n : Nat)

def initialPart? (n : Nat) : Option Part :=
  if n = 1 then some .blank else if 2 ≤ n && n ≤ 20 then some (.letter (n - 2)) else none

def vowelPart? (n : Nat) : Option Part :=
  if n = 2 then some .blank
  else if n < 3 || n % 8 < 2 || 30 ≤ n then none
  else some (.letter (n - 3 - 2 * (n / 8)))

def finalPart? (n : Nat) : Option Part :=
  if n = 1 then some .blank
  else if 2 ≤ n && n ≤ 17 then some (.letter (n - 1))
  else if 19 ≤ n && n ≤ 29 then some (.letter (n - 2))
  else none

def letterOf? (letters : String) (n : Nat) : Option Char := letters.toList[n]?

/-- The vowels in the order of the syllables. -/
def vowelLetters : String := "ㅏㅐㅑㅒㅓㅔㅕㅖㅗㅘㅙㅚㅛㅜㅝㅞㅟㅠㅡㅢㅣ"

/-- The sign of three parts: a syllable, a letter on its own, or a blank. -/
def composed? : Part → Part → Part → Option Char
  | .blank, .blank, .blank => some '\u3000'
  | .blank, .blank, .letter n => letterOf? finalLetters (n - 1)
  | .blank, .letter n, .blank => letterOf? vowelLetters n
  | .letter n, .blank, .blank => letterOf? initialLetters n
  | .letter first, .letter vowel, .blank => some (syllable first vowel 0)
  | .letter first, .letter vowel, .letter last => some (syllable first vowel last)
  | _, _, _ => none

/-- The other signs of the standard follow the composed pairs; a first byte covers two rows. -/
def beyondComposed? (a b : Nat) : Option Char :=
  if a = 0xDF || 0xF9 < a || b < 0x31 || (0x80 ≤ b && b < 0x91) || b % 128 = 127 ||
      (a = 0xDA && 0xA1 ≤ b && b ≤ 0xD3) then none
  else
    let row := (if a < 0xE0 then 2 * a - 0x1B2 else 2 * a - 0x197) + 0xA1
    let cell := if b < 0x91 then b - 0x31 else b - 0x43
    if cell < 94 then Grid.Ks.standard.sign? row (cell + 0xA1)
    else Grid.Ks.standard.sign? (row + 1) (cell - 94 + 0xA1)

def johab? (a b : Nat) : Option Char :=
  if a < 0xD8 then
    match initialPart? (a / 4 % 32), vowelPart? (a % 4 * 8 + b / 32), finalPart? (b % 32) with
    | some first, some vowel, some last => composed? first vowel last
    | _, _, _ => none
  else if a = 0xD8 then none
  else beyondComposed? a b

end SuiteTrigger.Multibyte
