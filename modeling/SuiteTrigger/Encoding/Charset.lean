import SuiteTrigger.Encoding.CodePage.Basic
import SuiteTrigger.Encoding.DomainName
import SuiteTrigger.Encoding.Escaped
import SuiteTrigger.Encoding.HanSection
import SuiteTrigger.Encoding.Iso2022
import SuiteTrigger.Encoding.Utf32
import SuiteTrigger.Encoding.Utf7
import SuiteTrigger.Encoding.Utf8
import SuiteTrigger.Text.Half
import SuiteTrigger.Text.Quoted

namespace SuiteTrigger

inductive Charset where
  | utf8
  /-- UTF-8 that may begin with a byte order mark, which is dropped. -/
  | utf8Marked
  | utf7
  | utf16
  | utf16Ordered (order : Utf16.ByteOrder)
  | utf32
  | utf32Ordered (order : Utf16.ByteOrder)
  | ascii
  | latin1
  | page (page : CodePage)
  | multibyte (kind : Multibyte)
  | hanSection
  | iso2022 (kind : Iso2022)
  | escaped (form : Escaped.Form)
  | punycode
  | domainName
  deriving DecidableEq

/-- Why bytes are no text. Some refusals tell the name that the charset was called by. -/
inductive Undecodable where
  | utf8 (error : Utf8.DecodeError)
  | utf7 (error : Utf7.DecodeError)
  | utf16 (error : Utf16.DecodeError)
  | utf32 (error : Utf32.DecodeError)
  | ascii (offset : Nat) (byte : UInt8)
  | page (offset : Nat) (byte : UInt8)
  | multibyte (error : Multibyte.DecodeError)
  | escaped (error : Escaped.DecodeError)
  | stuck (name : String)
  | punycode (name : String) (flaw : Punycode.Flaw)
  | domainName (name : String) (flaw : DomainName.Flaw)
  deriving DecidableEq

namespace Charset

def decodeAscii (offset : Nat) : List UInt8 → Except Undecodable (List Char)
  | [] => .ok []
  | b :: rest =>
    if b < 0x80 then (Char.ofNat b.toNat :: ·) <$> decodeAscii (offset + 1) rest
    else .error (.ascii offset b)

def decodeLatin1 (bytes : List UInt8) : List Char := bytes.map fun b => Char.ofNat b.toNat

def dropMark : List UInt8 → List UInt8
  | 0xEF :: 0xBB :: 0xBF :: rest => rest
  | bytes => bytes

def ofPunycode (name : String) : Punycode.Flaw → Undecodable
  | .notAscii offset b => .ascii offset b
  | flaw => .punycode name flaw

def ofDomainName (name : String) : DomainName.Flaw → Undecodable
  | .label _ (.notAscii offset b) => .ascii offset b
  | flaw => .domainName name flaw

def ofMultibyte (name : String) (e : Multibyte.DecodeError) : Undecodable :=
  if e.flaw = .stuck then .stuck name else .multibyte e

/-- The text that bytes stand for in a charset that is called by a name. -/
def decode (charset : Charset) (name : String) (bytes : List UInt8) :
    Except Undecodable (List Char) :=
  match charset with
  | .utf8 => (Utf8.decode bytes).mapError .utf8
  | .utf8Marked => (Utf8.decode (dropMark bytes)).mapError .utf8
  | .utf7 => (Utf7.decode bytes).mapError .utf7
  | .utf16 => (Utf16.decode bytes).mapError .utf16
  | .utf16Ordered order => (Utf16.decodeOrdered order bytes).mapError .utf16
  | .utf32 => (Utf32.decode bytes).mapError .utf32
  | .utf32Ordered order => (Utf32.decodeOrdered order bytes).mapError .utf32
  | .ascii => decodeAscii 0 bytes
  | .latin1 => .ok (decodeLatin1 bytes)
  | .page p => (p.decode bytes).mapError fun fault => .page fault.1 fault.2
  | .multibyte kind => (kind.decode bytes).mapError .multibyte
  | .hanSection => (HanSection.decode bytes).mapError .multibyte
  | .iso2022 kind => (kind.decode bytes).mapError (ofMultibyte name)
  | .escaped form => (Escaped.decode form bytes).mapError .escaped
  | .punycode =>
    ((Punycode.decode bytes).map (·.map Text.charOfCode)).mapError (ofPunycode name)
  | .domainName => (DomainName.decode bytes).mapError (ofDomainName name)

def keepsAscii : Charset → Bool
  | .utf8 => true
  | .utf8Marked => true
  | .ascii => true
  | .latin1 => true
  | .page p => p.keepsAscii
  | .multibyte _ => true
  | _ => false

end Charset

def Utf8.Flaw.message : Utf8.Flaw → String
  | .startByte => "invalid start byte"
  | .continuationByte => "invalid continuation byte"
  | .endOfData => "unexpected end of data"

def Utf7.Flaw.message : Utf7.Flaw → String
  | .notAscii => "unexpected special character"
  | .emptySection => "ill-formed sequence"
  | .partialUnit => "partial character in shift sequence"
  | .paddingBits => "non-zero padding bits in shift sequence"
  | .endOfData => "unterminated shift sequence"

def Utf16.Flaw.message : Utf16.Flaw → String
  | .truncated => "truncated data"
  | .endOfData => "unexpected end of data"
  | .loneLowHalf => "illegal encoding"
  | .loneHighHalf => "illegal UTF-16 surrogate"

def Utf32.Flaw.message : Utf32.Flaw → String
  | .truncated => "truncated data"
  | .half => "code point in surrogate code point range(0xd800, 0xe000)"
  | .tooLarge => "code point not in range(0x110000)"

def Multibyte.Flaw.message : Multibyte.Flaw → String
  | .illegal => "illegal multibyte sequence"
  | .incomplete => "incomplete multibyte sequence"
  | .stuck => "internal codec error"

def Escaped.Flaw.message (form : Escaped.Form) : Escaped.Flaw → String
  | .endOfData => "\\ at end of string"
  | .truncated letter width =>
    "truncated \\" ++ String.ofList (letter :: List.replicate width 'X') ++ " escape"
  | .tooLarge =>
    match form with
    | .plain => "\\Uxxxxxxxx out of range"
    | .full => "illegal Unicode character"
  | .badName => "malformed \\N character escape"
  | .unknownName => "unknown Unicode character name"

def Punycode.Flaw.message : Punycode.Flaw → String
  | .notAscii _ _ => "ordinal not in range(128)"
  | .incomplete => "incomplete punicode string"
  | .badDigit c => s!"Invalid extended code point '{c}'"
  | .tooLarge code => s!"Invalid character U+{String.ofList (Text.hexOf code)}"

/-- The refusal of bytes that gives no place. -/
def failedText (charset kind flaw : String) : String :=
  "decoding with '" ++ charset ++ "' codec failed (" ++ kind ++ ": " ++ flaw ++ ")"

def malformedText (charset flaw : String) : String := failedText charset "UnicodeError" flaw

/-- A code point in quotes, which may be half of a surrogate pair. -/
def quotedCode (code : Nat) : String :=
  Text.quote (String.singleton (Text.charOfCode code))

def Nameprep.Flaw.message : Nameprep.Flaw → String
  | .forbidden code => "Invalid character " ++ quotedCode code
  | .mixedDirections => "Violation of BIDI requirement 2"
  | .openEnds => "Violation of BIDI requirement 3"

/-- The refusal of a domain name by a charset with a name. -/
def DomainName.Flaw.message (name : String) : DomainName.Flaw → String
  | .label isEncoded flaw =>
    malformedText name (if isEncoded then malformedText "punycode" flaw.message else flaw.message)
  | .unprepared flaw => malformedText name flaw.message
  | .size => malformedText name "label empty or too long"
  | .marked => malformedText name "Label starts with ACE prefix"
  | .otherForm written form =>
    "('IDNA does not round-trip', b" ++ Text.quote written ++ ", b" ++ Text.quote form ++ ")"

def Utf16.ByteOrder.suffix : Utf16.ByteOrder → String
  | .little => "-le"
  | .big => "-be"

def Escaped.Form.charsetName : Escaped.Form → String
  | .plain => "rawunicodeescape"
  | .full => "unicodeescape"

/-- A refused byte and its place, or the places of several. -/
def placeOfBytes (offset : Nat) : List UInt8 → String
  | [b] => s!"byte 0x{String.ofList (Text.hexDigits 2 b.toNat)} in position {offset}"
  | bytes => s!"bytes in position {offset}-{offset + bytes.length - 1}"

/-- The refusal of bytes in a charset. -/
def undecodableText (charset : String) (offset : Nat) (bytes : List UInt8) (flaw : String) :
    String :=
  "'" ++ charset ++ "' codec can't decode " ++ placeOfBytes offset bytes ++ ": " ++ flaw

def Utf8.DecodeError.message (e : Utf8.DecodeError) : String :=
  undecodableText "utf-8" e.offset e.bytes e.flaw.message

def Undecodable.message : Undecodable → String
  | .utf8 e => e.message
  | .utf7 e => undecodableText "utf7" e.offset e.bytes e.flaw.message
  | .utf16 e => undecodableText ("utf-16" ++ e.order.suffix) e.offset e.bytes e.flaw.message
  | .utf32 e => undecodableText ("utf-32" ++ e.order.suffix) e.offset e.bytes e.flaw.message
  | .ascii offset b => undecodableText "ascii" offset [b] "ordinal not in range(128)"
  | .page offset b => undecodableText "charmap" offset [b] "character maps to <undefined>"
  | .multibyte e => undecodableText e.name e.offset e.bytes e.flaw.message
  | .escaped e =>
    undecodableText e.form.charsetName e.offset e.bytes (e.flaw.message e.form)
  | .stuck name => failedText name "RuntimeError" Multibyte.Flaw.stuck.message
  | .punycode name flaw => malformedText name flaw.message
  | .domainName name flaw => flaw.message name

end SuiteTrigger
