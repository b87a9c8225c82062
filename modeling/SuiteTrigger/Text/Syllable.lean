namespace SuiteTrigger.Text.Syllable

def initialCount : Nat := 19

def vowelCount : Nat := 21

/-- The final letters and the lack of one. -/
def finalCount : Nat := 28

def count : Nat := initialCount * vowelCount * finalCount

def first : Nat := 0xAC00

def firstInitial : Nat := 0x1100

def firstVowel : Nat := 0x1161

/-- The code point before the final letters, where the lack of one would stand. -/
def beforeFinals : Nat := 0x11A7

/-- The code point of a syllable by the numbers of its letters. -/
def code (initial vowel final : Nat) : Nat :=
  first + (initial * vowelCount + vowel) * finalCount + final

def letters? (code : Nat) : Option (List Nat) :=
  let index := code - first
  if first ≤ code && index < count then
    let start := [firstInitial + index / finalCount / vowelCount,
      firstVowel + index / finalCount % vowelCount]
    let final := index % finalCount
    some (if final = 0 then start else start ++ [beforeFinals + final])
  else none

/-- The number of a code point in a run of some length. -/
def indexIn? (start length code : Nat) : Option Nat :=
  if start ≤ code && code < start + length then some (code - start) else none

/-- The syllable of an initial letter and a vowel, or that of a syllable without a final letter and
such a letter. -/
def composite? (before after : Nat) : Option Nat :=
  match indexIn? firstInitial initialCount before, indexIn? firstVowel vowelCount after with
  | some initial, some vowel => some (code initial vowel 0)
  | _, _ =>
    match indexIn? first count before, indexIn? beforeFinals finalCount after with
    | some index, some final =>
      if index % finalCount = 0 && final ≠ 0 then some (before + final) else none
    | _, _ => none

end SuiteTrigger.Text.Syllable
