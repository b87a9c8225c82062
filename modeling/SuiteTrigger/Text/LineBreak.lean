import SuiteTrigger.Text.Ranges

/-!
# Lines of a text

A text is cut at every line break of Unicode: the ASCII line and page breaks, the three larger
information separators, the next-line character and the two separators U+2028 and U+2029. A carriage
return and the line feed after it are one break. A break ends its line, so a text that ends with a
break has no empty line after it.
-/

namespace SuiteTrigger.Text

/-- The code points that end a line. -/
def lineBreakRanges : List (Nat × Nat) :=
  [(0xA, 0xD), (0x1C, 0x1E), (0x85, 0x85), (0x2028, 0x2029)]

def isLineBreak (c : Char) : Bool := inRanges lineBreakRanges c

/-- The lines of a text, without their breaks. -/
def splitLines : List Char → List (List Char)
  | [] => []
  | '\r' :: '\n' :: rest => [] :: splitLines rest
  | c :: rest =>
    if isLineBreak c then [] :: splitLines rest
    else match splitLines rest with
      | [] => [[c]]
      | line :: lines => (c :: line) :: lines

def lines (s : String) : List String := (splitLines s.toList).map String.ofList

theorem splitLines_cons_ne_nil (c : Char) (rest : List Char) : splitLines (c :: rest) ≠ [] := by
  rw [splitLines.eq_def]
  split
  · simp_all
  · simp
  · split
    · simp
    · split <;> simp

/-- The text up to its first line break; all of it when it has none. -/
def firstLine (s : String) : String := (lines s).headD ""

end SuiteTrigger.Text
