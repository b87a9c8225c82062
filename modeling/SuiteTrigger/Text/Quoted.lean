import SuiteTrigger.Text.Half
import SuiteTrigger.Text.Hex
import SuiteTrigger.Text.Printable

/-!
# Quoted text

Text that appears inside a message is quoted: single quotes, or double quotes when the text holds a
single quote and no double quote. The quote in use, the backslash, the tab and the two ASCII line
ends are written with a backslash; every other unprintable character is written as its code point
in two, four or eight hexadecimal digits, and so is half of a surrogate pair.
-/

namespace SuiteTrigger.Text

/-- The quote that a text is put in. -/
def quoteFor (cs : List Char) : Char :=
  if cs.contains '\'' && !cs.contains '"' then '"' else '\''

/-- A code point as an escape of the shortest width that holds it. -/
def codePointEscape (n : Nat) : List Char :=
  if n < 0x100 then '\\' :: 'x' :: hexDigits 2 n
  else if n < 0x10000 then '\\' :: 'u' :: hexDigits 4 n
  else '\\' :: 'U' :: hexDigits 8 n

/-- One character inside the quotes `mark`. -/
def escapeChar (mark c : Char) : List Char :=
  if c = mark ∨ c = '\\' then ['\\', c]
  else if c = '\n' then ['\\', 'n']
  else if c = '\r' then ['\\', 'r']
  else if c = '\t' then ['\\', 't']
  else if isPrintable c then [c]
  else codePointEscape (codeOf c)

/-- The characters of the quoted text, quotes included. -/
def quoteChars (cs : List Char) : List Char :=
  let mark := quoteFor cs
  mark :: cs.flatMap (escapeChar mark) ++ [mark]

def quote (s : String) : String := String.ofList (quoteChars s.toList)

end SuiteTrigger.Text
