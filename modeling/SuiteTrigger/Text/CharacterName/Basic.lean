import SuiteTrigger.Text.Hex
import SuiteTrigger.Text.Split

namespace SuiteTrigger.Text.CharacterName

/-- Characters from a code point on, how all their names begin, and how each goes on. The endings
stand in lines with bars between them. Where an ending is empty the run leaves a character out. -/
structure NameRun where
  first : Nat
  opening : String
  lines : List String

def NameRun.endings (run : NameRun) : List (List Char) :=
  run.lines.flatMap fun line => splitOn '|' line.toList

/-- The code point that has a name in a run. -/
def NameRun.code? (run : NameRun) (name : List Char) : Option Nat :=
  match afterStart? run.opening.toList name with
  | some (c :: ending) => (run.endings.idxOf? (c :: ending)).map (run.first + ·)
  | _ => none

/-- Characters whose names end with their code points. -/
structure NumberedRun where
  opening : String
  first : Nat
  last : Nat

/-- The number that four or five upper-case hexadecimal digits spell. -/
def codeOfDigits? (digits : List Char) : Option Nat :=
  if digits.length ≠ 4 && digits.length ≠ 5 || digits.any (·.isLower) then none
  else (digits.mapM hexValue?).map (·.foldl (fun n digit => 16 * n + digit) 0)

/-- The code point that has a name in a run; the name has as many digits as the number needs. -/
def NumberedRun.code? (run : NumberedRun) (name : List Char) : Option Nat := do
  let digits ← afterStart? run.opening.toList name
  let code ← codeOfDigits? digits
  if digits.length = (hexOf code).length && run.first ≤ code && code ≤ run.last then some code
  else none

end SuiteTrigger.Text.CharacterName
