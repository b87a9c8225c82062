import SuiteTrigger.Text.CharacterName
import SuiteTrigger.Text.Half

/-!
# Escaped text

Bytes stand for the characters of their numbers, and other characters are written with a backslash.
In the plain form only hexadecimal code points behind `u` and `U` are such escapes. In the full
form there are also octal ones, letters for control characters, and names of characters in braces.
A backslash that begins no escape stays, together with the character after it. Half of a surrogate
pair is held by its stand-in.
-/

namespace SuiteTrigger.Escaped

inductive Form where
  | plain
  | full
  deriving DecidableEq

/-- Why bytes are no text. -/
inductive Flaw where
  | endOfData
  /-- Too few digits behind a letter that asks for a number of them. -/
  | truncated (letter : Char) (width : Nat)
  | tooLarge
  | badName
  | unknownName
  deriving DecidableEq

structure DecodeError where
  form : Form
  offset : Nat
  bytes : List UInt8
  flaw : Flaw
  deriving DecidableEq

def charOf (b : UInt8) : Char := Char.ofNat b.toNat

def codePointLimit : Nat := 0x110000

def hexWidth? (form : Form) (letter : Char) : Option Nat :=
  match form, letter with
  | _, 'u' => some 4
  | _, 'U' => some 8
  | .full, 'x' => some 2
  | _, _ => none

def simple? : Char → Option Char
  | '\\' => some '\\'
  | '\'' => some '\''
  | '"' => some '"'
  | 'a' => some '\x07'
  | 'b' => some '\x08'
  | 't' => some '\t'
  | 'n' => some '\n'
  | 'v' => some '\x0b'
  | 'f' => some '\x0c'
  | 'r' => some '\r'
  | _ => none

def isOctal (c : Char) : Bool := '0' ≤ c && c ≤ '7'

def numberOf (base : Nat) (digits : List Nat) : Nat := digits.foldl (fun n d => base * n + d) 0

/-- The values of the hexadecimal digits at the start of a text. -/
def hexRun : List Char → List Nat
  | [] => []
  | c :: rest =>
    match Text.hexValue? c with
    | some value => value :: hexRun rest
    | none => []

/-- The character with the name that stands between braces and the number of characters that it
takes, or what is wrong with the name and the number of characters up to it. -/
def named : List Char → Except (Flaw × Nat) (Char × Nat)
  | '\x7b' :: rest =>
    let name := rest.takeWhile (· ≠ '\x7d')
    match rest.drop name.length with
    | [] => .error (.badName, 1 + name.length)
    | _ =>
      if name.isEmpty then .error (.badName, 1)
      else match Text.CharacterName.code? name with
        | some code => .ok (Char.ofNat code, name.length + 2)
        | none => .error (.unknownName, name.length + 2)
  | _ => .error (.badName, 0)

/-- What stands behind a backslash: the characters that it gives and the number of those that it
takes, or its flaw and the number of characters up to it. -/
def escape (form : Form) : List Char → Except (Flaw × Nat) (List Char × Nat)
  | [] => if form = .plain then .ok (['\\'], 0) else .error (.endOfData, 0)
  | c :: rest =>
    match hexWidth? form c with
    | some width =>
      let digits := (hexRun rest).take width
      let code := numberOf 16 digits
      if digits.length < width then .error (.truncated c width, 1 + digits.length)
      else if codePointLimit ≤ code then .error (.tooLarge, 1 + width)
      else .ok ([Text.charOfCode code], 1 + width)
    | none =>
      if form = .plain then .ok (['\\', c], 1)
      else if c = '\n' then .ok ([], 1)
      else if isOctal c then
        let digits := ((c :: rest).takeWhile isOctal).take 3
        .ok ([Char.ofNat (numberOf 8 (digits.map fun d => d.toNat - 48))], digits.length)
      else if c = 'N' then
        match named rest with
        | .ok (c, count) => .ok ([c], 1 + count)
        | .error (flaw, count) => .error (flaw, 1 + count)
      else match simple? c with
        | some c => .ok ([c], 1)
        | none => .ok (['\\', c], 1)

/-- Decodes from a place on; `done` holds the characters before it, last one first. -/
def decodeFrom (form : Form) (offset : Nat) (done : List Char) :
    List Char → Except (Nat × Nat × Flaw) (List Char)
  | [] => .ok done.reverse
  | c :: rest =>
    if c = '\\' then
      match escape form rest with
      | .error (flaw, count) => .error (offset, 1 + count, flaw)
      | .ok (cs, count) =>
        decodeFrom form (offset + 1 + count) (cs.reverse ++ done) (rest.drop count)
    else decodeFrom form (offset + 1) (c :: done) rest
termination_by cs => cs.length
decreasing_by all_goals simp only [List.length_drop, List.length_cons]; omega

def decode (form : Form) (bytes : List UInt8) : Except DecodeError (List Char) :=
  match decodeFrom form 0 [] (bytes.map charOf) with
  | .ok cs => .ok cs
  | .error (offset, count, flaw) =>
    .error ⟨form, offset, (bytes.drop offset).take count, flaw⟩

end SuiteTrigger.Escaped
