import SuiteTrigger.Encoding.Utf8
import SuiteTrigger.Text.Hex

/-!
# Percent encoding

A character that may not stand in an address is written as the bytes of its UTF-8 form, each as a
percent sign and two hexadecimal digits. Decoding gives the bytes back; a percent sign that no two
digits follow stands for itself.
-/

namespace SuiteTrigger.Percent

/-- The characters that stand for themselves everywhere in an address. -/
def isUnreserved (c : Char) : Bool :=
  c.isAlphanum || c = '-' || c = '.' || c = '_' || c = '~'

def encodeByte (b : UInt8) : List Char :=
  ['%', Text.hexDigitUpper (b.toNat / 16), Text.hexDigitUpper (b.toNat % 16)]

def encodeChar (keep : Char → Bool) (c : Char) : List Char :=
  if keep c then [c] else (String.utf8EncodeChar c).flatMap encodeByte

/-- Text with every character encoded but those to keep. -/
def encodeKeeping (keep : Char → Bool) (cs : List Char) : List Char :=
  cs.flatMap (encodeChar keep)

/-- Text with every character encoded but the unreserved ones. -/
def encode (cs : List Char) : List Char := encodeKeeping isUnreserved cs

/-- Whether some percent sign in a text is followed by two hexadecimal digits. -/
def isEncoded : List Char → Bool
  | [] => false
  | c :: rest =>
    match c, rest with
    | '%', a :: b :: _ =>
      ((Text.hexValue? a).isSome && (Text.hexValue? b).isSome) || isEncoded rest
    | _, _ => isEncoded rest

/-- The bytes that an ASCII text stands for. -/
def decodeBytes : List Char → List UInt8
  | [] => []
  | '%' :: a :: b :: rest =>
    match Text.hexValue? a, Text.hexValue? b with
    | some high, some low => UInt8.ofNat (16 * high + low) :: decodeBytes rest
    | _, _ => 0x25 :: decodeBytes (a :: b :: rest)
  | c :: rest => UInt8.ofNat c.toNat :: decodeBytes rest

/-- The text that an ASCII text stands for; none where its bytes are no UTF-8. -/
def decode? (cs : List Char) : Option (List Char) := (Utf8.decode (decodeBytes cs)).toOption

/-- Decodes runs of ASCII characters and leaves other characters as they are. `run` holds the
run up to here, last character first. Bytes that are no UTF-8 become replacement characters. -/
def decodeRuns (run : List Char) : List Char → List Char
  | [] => Utf8.decodeLossy (decodeBytes run.reverse)
  | c :: rest =>
    if c.toNat < 0x80 then decodeRuns (c :: run) rest
    else Utf8.decodeLossy (decodeBytes run.reverse) ++ c :: decodeRuns [] rest

def decodeLossy (cs : List Char) : List Char := decodeRuns [] cs

end SuiteTrigger.Percent
