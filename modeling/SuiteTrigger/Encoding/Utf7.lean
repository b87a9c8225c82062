import SuiteTrigger.Encoding.Utf16
import SuiteTrigger.Text.Half

/-!
# UTF-7

ASCII stands for itself, except that a plus sign begins a section in base 64: its digits spell
UTF-16 units, most significant bit first. The section ends before the first byte that is no digit,
and a minus sign at its end drops out. A plus sign and a minus sign stand for a plus sign. Half of a
surrogate pair without the other half is held by its stand-in.
-/

namespace SuiteTrigger.Utf7

open Text (charOfCode)
open Utf16 (isHighHalf isLowHalf charOfPair)

/-- Why bytes are no text. -/
inductive Flaw where
  | notAscii
  | emptySection
  | partialUnit
  | paddingBits
  | endOfData
  deriving DecidableEq

structure DecodeError where
  offset : Nat
  bytes : List UInt8
  flaw : Flaw
  deriving DecidableEq

def digitValue? (b : UInt8) : Option Nat :=
  if 0x41 ≤ b && b ≤ 0x5A then some (b.toNat - 0x41)
  else if 0x61 ≤ b && b ≤ 0x7A then some (b.toNat - 0x61 + 26)
  else if 0x30 ≤ b && b ≤ 0x39 then some (b.toNat - 0x30 + 52)
  else if b = 0x2B then some 62
  else if b = 0x2F then some 63
  else none

def isAscii (b : UInt8) : Bool := b < 0x80

/-- A section that is being read. -/
structure Section where
  /-- The place of the section and its bytes, last one first. -/
  offset : Nat
  bytes : List UInt8
  /-- How many bits are left of the digits so far, and their value. -/
  bitCount : Nat
  bits : Nat
  /-- The first half of a pair whose second half is awaited. -/
  high? : Option Nat

def Section.start (offset : Nat) : Section := ⟨offset, [0x2B], 0, 0, none⟩

def Section.isEmpty (s : Section) : Bool := s.bytes = [0x2B]

/-- The characters, last one first, after a unit was read behind `done`, and a half that awaits its
partner. -/
def addUnit (done : List Char) (high? : Option Nat) (unit : Nat) : List Char × Option Nat :=
  let single (done : List Char) : List Char × Option Nat :=
    if isHighHalf unit then (done, some unit) else (charOfCode unit :: done, none)
  match high? with
  | none => single done
  | some high =>
    if isLowHalf unit then (charOfPair high unit :: done, none)
    else single (charOfCode high :: done)

/-- Adds a digit to a section. Sixteen bits are a unit. -/
def Section.add (s : Section) (done : List Char) (b : UInt8) (digit : Nat) :
    List Char × Section :=
  let bits := s.bits * 64 + digit
  let bitCount := s.bitCount + 6
  let bytes := b :: s.bytes
  if bitCount < 16 then (done, { s with bytes, bitCount, bits })
  else
    let rest := Nat.pow 2 (bitCount - 16)
    let (done, high?) := addUnit done s.high? (bits / rest)
    (done, ⟨s.offset, bytes, bitCount - 16, bits % rest, high?⟩)

/-- What keeps a section from ending: a digit that is part of no unit, or bits that are not zero. -/
def Section.flaw? (s : Section) : Option Flaw :=
  if 6 ≤ s.bitCount then some .partialUnit
  else if s.bits ≠ 0 then some .paddingBits
  else none

/-- The characters when a section ends before a byte. A half without its partner is lost before a
byte that is not ASCII, which is refused in any case. -/
def Section.finish (s : Section) (done : List Char) (b : UInt8) : Except Flaw (List Char) :=
  if s.isEmpty then if b = 0x2D then .ok ('+' :: done) else .error .emptySection
  else match s.flaw? with
    | some flaw => .error flaw
    | none => .ok ((s.high?.map charOfCode).toList ++ done)

/-- Decodes from a place on, inside a section or outside; `done` holds the characters before it,
last one first. -/
def decodeFrom (offset : Nat) (inside : Option Section) (done : List Char) :
    List UInt8 → Except DecodeError (List Char)
  | [] =>
    match inside with
    | none => .ok done.reverse
    | some s =>
      if s.high?.isSome || s.flaw?.isSome then .error ⟨s.offset, s.bytes.reverse, .endOfData⟩
      else .ok done.reverse
  | b :: rest =>
    match inside with
    | some s =>
      match digitValue? b with
      | some digit =>
        let (done, s) := s.add done b digit
        decodeFrom (offset + 1) (some s) done rest
      | none =>
        match s.finish done b with
        | .error flaw => .error ⟨s.offset, (b :: s.bytes).reverse, flaw⟩
        | .ok done =>
          if b = 0x2D then decodeFrom (offset + 1) none done rest
          else if isAscii b then decodeFrom (offset + 1) none (Char.ofNat b.toNat :: done) rest
          else .error ⟨offset, [b], .notAscii⟩
    | none =>
      if b = 0x2B then decodeFrom (offset + 1) (some (.start offset)) done rest
      else if isAscii b then decodeFrom (offset + 1) none (Char.ofNat b.toNat :: done) rest
      else .error ⟨offset, [b], .notAscii⟩

def decode (bytes : List UInt8) : Except DecodeError (List Char) := decodeFrom 0 none [] bytes

end SuiteTrigger.Utf7
