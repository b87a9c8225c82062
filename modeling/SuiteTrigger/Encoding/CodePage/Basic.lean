namespace SuiteTrigger

structure CodePage where
  /-- The characters of the bytes, in order; `CodePage.vacant` where a byte has none. -/
  symbols : Array Char
  deriving DecidableEq

namespace CodePage

/-- The code point that is no character stands for the lack of one. -/
def vacant : Char := '\ufffe'

def ascii : List Char := (List.range 0x80).map Char.ofNat

def controls : List Char := (List.range 0x20).map fun n => Char.ofNat (0x80 + n)

/-- A page with the given characters. -/
def ofAll (s : String) : CodePage := ⟨s.toList.toArray⟩

/-- A page with the given characters above ASCII. -/
def ofHigh (s : String) : CodePage := ⟨(ascii ++ s.toList).toArray⟩

/-- A page with the given characters above the control characters. -/
def ofPart (s : String) : CodePage := ⟨(ascii ++ controls ++ s.toList).toArray⟩

/-- A page with another character for a byte. -/
def withSymbol (page : CodePage) (byte : Nat) (c : Char) : CodePage :=
  ⟨page.symbols.setIfInBounds byte c⟩

def symbol? (page : CodePage) (b : UInt8) : Option Char :=
  page.symbols[b.toNat]?.filter (· ≠ vacant)

def keepsAscii (page : CodePage) : Bool :=
  (List.range 0x80).all fun n => page.symbols[n]? = some (Char.ofNat n)

/-- Decodes from a place on; `done` holds the characters before it, last one first. What is refused
is a byte without a character, with its place. -/
def decodeFrom (page : CodePage) (offset : Nat) (done : List Char) :
    List UInt8 → Except (Nat × UInt8) (List Char)
  | [] => .ok done.reverse
  | b :: rest =>
    match page.symbol? b with
    | some c => page.decodeFrom (offset + 1) (c :: done) rest
    | none => .error (offset, b)

def decode (page : CodePage) (bytes : List UInt8) : Except (Nat × UInt8) (List Char) :=
  page.decodeFrom 0 [] bytes

end CodePage

end SuiteTrigger
