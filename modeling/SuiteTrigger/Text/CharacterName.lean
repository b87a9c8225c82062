import SuiteTrigger.Text.CharacterName.Aliases
import SuiteTrigger.Text.CharacterName.Alphabets
import SuiteTrigger.Text.CharacterName.AncientScripts
import SuiteTrigger.Text.CharacterName.EastAsia
import SuiteTrigger.Text.CharacterName.Forms
import SuiteTrigger.Text.CharacterName.Hieroglyphs
import SuiteTrigger.Text.CharacterName.Operators
import SuiteTrigger.Text.CharacterName.Phonetics
import SuiteTrigger.Text.CharacterName.Pictures
import SuiteTrigger.Text.CharacterName.Scores
import SuiteTrigger.Text.CharacterName.Scripts
import SuiteTrigger.Text.CharacterName.Symbols
import SuiteTrigger.Text.Ranges
import SuiteTrigger.Text.Syllable

/-!
# Names of characters

Unicode 14 gives every character a name, and to some of them other names. Letters of names are read
in either case. The names of Korean syllables and of unified ideographs follow rules, and those are
read in upper case only.
-/

namespace SuiteTrigger.Text.CharacterName

/-- The sounds of the initial letters, in the order of the code points. -/
def initialSounds : List String :=
  ["G", "GG", "N", "D", "DD", "R", "M", "B", "BB", "S", "SS", "", "J", "JJ", "C", "K", "T", "P",
   "H"]

def vowelSounds : List String :=
  ["A", "AE", "YA", "YAE", "EO", "E", "YEO", "YE", "O", "WA", "WAE", "OE", "YO", "U", "WEO", "WE",
   "WI", "YU", "EU", "YI", "I"]

/-- The sounds of the final letters; the first is the lack of one. -/
def finalSounds : List String :=
  ["", "G", "GG", "GS", "N", "NJ", "NH", "D", "L", "LG", "LM", "LB", "LS", "LT", "LP", "LH", "M",
   "B", "BS", "S", "SS", "NG", "J", "C", "K", "T", "P", "H"]

/-- The longest sound that a text begins with, by its index, and the text behind it. -/
def takeSound (sounds : List String) (cs : List Char) : Option (Nat × List Char) :=
  let found := sounds.zipIdx.filterMap fun (sound, index) =>
    (afterStart? sound.toList cs).map fun rest => (index, rest)
  found.foldl (fun best next =>
    match best with
    | some (_, rest) => if next.2.length < rest.length then some next else best
    | none => some next) none

def syllable? (name : List Char) : Option Nat := do
  let (initial, rest) ← takeSound initialSounds (← afterStart? "HANGUL SYLLABLE ".toList name)
  let (vowel, rest) ← takeSound vowelSounds rest
  let (final, rest) ← takeSound finalSounds rest
  if rest.isEmpty then some (Syllable.code initial vowel final) else none

/-- The code points of the unified ideographs. -/
def ideographRanges : List (Nat × Nat) :=
  [(0x3400, 0x4DBF), (0x4E00, 0x9FFF), (0x20000, 0x2A6DF), (0x2A700, 0x2B738), (0x2B740, 0x2B81D),
   (0x2B820, 0x2CEA1), (0x2CEB0, 0x2EBE0), (0x30000, 0x3134A)]

/-- The code point that the name of an ideograph tells; its number may begin with zero. -/
def ideograph? (name : List Char) : Option Nat := do
  let code ← codeOfDigits? (← afterStart? "CJK UNIFIED IDEOGRAPH-".toList name)
  if codeInRanges ideographRanges code then some code else none

def numbered : List NumberedRun :=
  [⟨"CJK COMPATIBILITY IDEOGRAPH-", 0xF900, 0xFA6D⟩,
   ⟨"CJK COMPATIBILITY IDEOGRAPH-", 0xFA70, 0xFAD9⟩,
   ⟨"CJK COMPATIBILITY IDEOGRAPH-", 0x2F800, 0x2FA1D⟩,
   ⟨"KHITAN SMALL SCRIPT CHARACTER-", 0x18B00, 0x18CD5⟩, ⟨"NUSHU CHARACTER-", 0x1B170, 0x1B2FB⟩]

def tables : List (List NameRun) :=
  [alphabets, scripts, phonetics, symbols, operators, eastAsia, forms, ancientScripts, hieroglyphs,
   scores, pictures, aliases]

/-- The code point of a name in upper case that stands in a table. -/
def listed? (name : List Char) : Option Nat :=
  (numbered.findSome? (·.code? name)).or (tables.findSome? (·.findSome? (·.code? name)))

/-- The code point of the character with a name. -/
def code? (name : List Char) : Option Nat :=
  ((syllable? name).or (ideograph? name)).or (listed? (name.map (·.toUpper)))

end SuiteTrigger.Text.CharacterName
