/-!
# Grids

A grid arranges signs in rows and cells. It is written as runs of signs that follow one another in a
row.
-/

namespace SuiteTrigger.Grid

/-- Signs that follow one another in a row, from a cell on. -/
structure Run where
  row : Nat
  cell : Nat
  text : String

def Run.sign? (run : Run) (row cell : Nat) : Option Char :=
  if run.row = row && run.cell ≤ cell then run.text.toList[cell - run.cell]? else none

end Grid

/-- Of two runs with a sign in one place the first one counts. -/
abbrev Grid := List Grid.Run

namespace Grid

def sign? (grid : Grid) (row cell : Nat) : Option Char := grid.findSome? (·.sign? row cell)

/-- The text of the run that begins at a place. -/
def whole? (grid : Grid) (row cell : Nat) : Option (List Char) :=
  (grid.find? fun run => run.row = row && run.cell = cell).map (·.text.toList)

/-- The code points of a grid from one on, counted from there, in ascending order. -/
def codesFrom (grid : Grid) (first : Nat) : List Nat :=
  let codes := grid.flatMap fun run => run.text.toList.map (·.toNat)
  ((codes.filter (first ≤ ·)).map (· - first)).mergeSort

/-- The number at a place among the numbers that are not in an ascending list. -/
def skipping : List Nat → Nat → Nat
  | [], n => n
  | used :: rest, n => if used ≤ n then skipping rest (n + 1) else n

end Grid

end SuiteTrigger
