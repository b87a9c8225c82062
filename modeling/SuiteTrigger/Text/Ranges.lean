namespace SuiteTrigger.Text

/-- Whether a code point lies in one of the inclusive ranges. -/
def codeInRanges (ranges : List (Nat × Nat)) (code : Nat) : Bool :=
  ranges.any fun range => range.1 ≤ code && code ≤ range.2

def inRanges (ranges : List (Nat × Nat)) (c : Char) : Bool := codeInRanges ranges c.toNat

theorem inRanges_iff {ranges : List (Nat × Nat)} {c : Char} :
    inRanges ranges c = true ↔ ∃ range ∈ ranges, range.1 ≤ c.toNat ∧ c.toNat ≤ range.2 := by
  simp [inRanges, codeInRanges]

end SuiteTrigger.Text
