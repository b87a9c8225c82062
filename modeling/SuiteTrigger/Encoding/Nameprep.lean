import SuiteTrigger.Encoding.Nameprep.Classes
import SuiteTrigger.Encoding.Nameprep.Composition
import SuiteTrigger.Encoding.Nameprep.Folding
import SuiteTrigger.Encoding.Nameprep.MarkOrder
import SuiteTrigger.Text.Ranges

/-!
# Preparation of names

Two spellings of a name are one when they come to the same text: letters in small form, compatible
characters in plain form, marks in order, and what is one character composed into it. A prepared
name holds no forbidden character. Where it holds letters that run from right to left, it begins and
ends with such letters and holds none of the other direction. Names are lists of code points, in
which halves of surrogate pairs may stand; those are forbidden.
-/

namespace SuiteTrigger.Nameprep

/-- Why a text is no name. -/
inductive Flaw where
  | forbidden (code : Nat)
  /-- Letters of both directions. -/
  | mixedDirections
  /-- Letters from right to left that do not stand at both ends. -/
  | openEnds
  deriving DecidableEq

/-- The folded form of one code point, with its marks and letters apart. -/
def fold (code : Nat) : List Nat :=
  match Text.Syllable.letters? code with
  | some letters => letters
  | none =>
    match image? code with
    | some image => image.map (·.toNat)
    | none => [code]

/-- Joins a code point with what follows it, until a code point that is no mark stays apart. A mark
is out of reach behind one of its own class or of a higher one. -/
def absorb (code reach : Nat) : List Nat → Nat × List Nat
  | [] => (code, [])
  | next :: rest =>
    let markKind := markClass next
    if reach ≠ 0 && markKind = 0 then (code, next :: rest)
    else if reach ≠ 0 && markKind ≤ reach then
      let (code, rest) := absorb code reach rest
      (code, next :: rest)
    else match composite? code next with
      | some whole => absorb whole reach rest
      | none =>
        if markKind = 0 then (code, next :: rest)
        else
          let (code, rest) := absorb code markKind rest
          (code, next :: rest)

/-- What is left behind a joined code point is no longer than it was. -/
theorem length_absorb_le (code reach : Nat) (rest : List Nat) :
    (absorb code reach rest).2.length ≤ rest.length := by
  fun_induction absorb code reach rest <;> grind

def compose : List Nat → List Nat
  | [] => []
  | code :: rest =>
    let joined := absorb code 0 rest
    joined.1 :: compose joined.2
termination_by codes => codes.length
decreasing_by
  have := length_absorb_le code 0 rest
  simp only [List.length_cons]
  omega

def normalForm (codes : List Nat) : List Nat := compose (orderMarks (codes.flatMap fold))

def runsRightToLeft (code : Nat) : Bool := Text.codeInRanges rightToLeftRanges code

def runsLeftToRight (code : Nat) : Bool := Text.codeInRanges leftToRightRanges code

def check (codes : List Nat) : Except Flaw Unit := do
  if let some code := codes.find? (Text.codeInRanges forbiddenRanges) then
    throw (.forbidden code)
  if codes.any runsRightToLeft then
    if codes.any runsLeftToRight then throw .mixedDirections
    unless codes.head?.any runsRightToLeft && codes.getLast?.any runsRightToLeft do
      throw .openEnds

def prepare (codes : List Nat) : Except Flaw (List Nat) := do
  let prepared := normalForm codes
  check prepared
  return prepared

end SuiteTrigger.Nameprep
