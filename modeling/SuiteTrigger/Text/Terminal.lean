namespace SuiteTrigger.Text

def sequenceStart : Char := '\x1b'

/-- A character of the parameters of a control sequence. -/
def isParameterChar (c : Char) : Bool := c.isDigit || c = ';' || c = '?'

/-- What follows a control sequence that a text begins with behind its escape character. -/
def afterSequence? : List Char → Option (List Char)
  | '[' :: rest =>
    match rest.dropWhile isParameterChar with
    | c :: rest => if c.isAlpha then some rest else none
    | [] => none
  | _ => none

theorem length_dropWhile_le (p : Char → Bool) (cs : List Char) :
    (cs.dropWhile p).length ≤ cs.length :=
  (List.dropWhile_suffix p).length_le

theorem length_lt_of_afterSequence {cs rest : List Char} (h : afterSequence? cs = some rest) :
    rest.length < cs.length := by
  unfold afterSequence? at h
  split at h
  · rename_i inner
    have short := length_dropWhile_le isParameterChar inner
    split at h
    · rename_i c after equal
      rw [equal] at short
      simp only [List.length_cons] at short ⊢
      split at h
      · cases h
        omega
      · cases h
    · cases h
  · cases h

/-- A text without its control sequences. -/
def dropSequences : List Char → List Char
  | [] => []
  | c :: cs =>
    if c = sequenceStart then
      match h : afterSequence? cs with
      | some rest =>
        have := length_lt_of_afterSequence h
        dropSequences rest
      | none => c :: dropSequences cs
    else c :: dropSequences cs
termination_by cs => cs.length
decreasing_by all_goals simp only [List.length_cons]; omega

theorem dropSequences_eq_self {cs : List Char} (h : sequenceStart ∉ cs) :
    dropSequences cs = cs := by
  induction cs with
  | nil => simp [dropSequences]
  | cons c cs ih =>
    simp only [List.mem_cons, not_or] at h
    rw [dropSequences, if_neg (fun e => h.1 e.symm), ih h.2]

end SuiteTrigger.Text
