import SuiteTrigger.Encoding.Nameprep
import SuiteTrigger.Encoding.Punycode

/-!
# Domain names

The bytes of a domain name are ASCII labels with points between them. A label that begins with the
mark of encoded names is Punycode behind it, and what it encodes must have that label as its own
ASCII form. Text without such labels is ASCII as it stands.
-/

namespace SuiteTrigger.DomainName

/-- The bytes of `xn--`, with which an encoded label begins. -/
def mark : List UInt8 := [0x78, 0x6E, 0x2D, 0x2D]

def markText : List Char := ['x', 'n', '-', '-']

def labels : List UInt8 → List (List UInt8)
  | [] => [[]]
  | b :: rest =>
    if b = 0x2E then [] :: labels rest
    else match labels rest with
      | [] => [[b]]
      | label :: more => (b :: label) :: more

/-- Why a label is no text. -/
inductive Flaw where
  /-- A fault of a label, and whether it is an encoded one. -/
  | label (isEncoded : Bool) (flaw : Punycode.Flaw)
  | unprepared (flaw : Nameprep.Flaw)
  /-- An ASCII form is empty or has more than 63 characters. -/
  | size
  /-- A prepared text begins with the mark of encoded names. -/
  | marked
  /-- A label is not the ASCII form of its text, which is another one. -/
  | otherForm (label form : String)
  deriving DecidableEq

def longestLabel : Nat := 63

def checkSize (form : List Char) : Except Flaw (List Char) :=
  if form.isEmpty || longestLabel < form.length then .error .size else .ok form

def ascii? (codes : List Nat) : Option (List Char) :=
  if codes.all (· < 0x80) then some (codes.map Char.ofNat) else none

/-- The label in ASCII that stands for a text. -/
def asciiForm (codes : List Nat) : Except Flaw (List Char) :=
  match ascii? codes with
  | some form => checkSize form
  | none => do
    let prepared ← (Nameprep.prepare codes).mapError .unprepared
    match ascii? prepared with
    | some form => checkSize form
    | none =>
      if (markText.map (·.toNat)).isPrefixOf prepared then throw .marked
      checkSize (markText ++ Punycode.encode prepared)

def decodeMarked (label : List UInt8) : Except Flaw (List Char) := do
  let codes ← (Punycode.decode (label.drop mark.length)).mapError (.label true)
  let form ← asciiForm codes
  let written := label.map fun b => Char.ofNat b.toNat
  if written.map (·.toLower) = form then return codes.map Char.ofNat
  throw (.otherForm (String.ofList written) (String.ofList form))

def decodeLabel (label : List UInt8) : Except Flaw (List Char) :=
  if mark.isPrefixOf label then decodeMarked label
  else (Punycode.asciiFrom 0 label).mapError (.label false)

/-- Whether an encoded label may be somewhere in the bytes. -/
def hasMark : List UInt8 → Bool
  | [] => false
  | b :: rest => mark.isPrefixOf (b :: rest) || hasMark rest

def decode (bytes : List UInt8) : Except Flaw (List Char) :=
  match hasMark bytes, Punycode.asciiFrom 0 bytes with
  | false, .ok cs => .ok cs
  | _, _ => (['.'].intercalate ·) <$> (labels bytes).mapM decodeLabel

end SuiteTrigger.DomainName
