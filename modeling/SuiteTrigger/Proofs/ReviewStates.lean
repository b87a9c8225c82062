import SuiteTrigger.Proofs.Addresses
import SuiteTrigger.Trigger.Event

namespace SuiteTrigger

namespace Text

/-- Whether a character is of ASCII and is in the small form of no character beyond it. -/
def IsPlain (c : Char) : Prop := c.toNat < 128 ∧ c ≠ 'i' ∧ c ≠ 'k'

instance (c : Char) : Decidable (IsPlain c) := inferInstanceAs (Decidable (_ ∧ _ ∧ _))

/-- The small forms of a run of capitals are characters. They lie beyond ASCII, but for that of the
sign for kelvins. -/
theorem capitals_beyond : ∀ run ∈ capitals,
    (run.first = run.last ∧ run.first + run.shift = 0x6B ∨ 128 ≤ run.first + run.shift) ∧
      (run.last + run.shift < 0xD800 ∨
        0xE000 ≤ run.first + run.shift ∧ run.last + run.shift < 0x110000) := by
  decide +kernel

theorem toNat_ofNat {code : Nat} (valid : code.isValidChar) : (Char.ofNat code).toNat = code := by
  rw [Char.ofNat, dif_pos valid]
  rfl

/-- The small form of a capital beyond ASCII is a `k` or lies beyond ASCII. -/
theorem CapitalRun.not_isPlain {run : CapitalRun} (listed : run ∈ capitals) {code small : Nat}
    (folds : run.small? code = some small) : ¬ IsPlain (Char.ofNat small) := by
  obtain ⟨beyond, character⟩ := capitals_beyond run listed
  unfold small? at folds
  split at folds
  · rename_i inside
    obtain ⟨above, below, -⟩ := inside
    have shifted := Option.some.inj folds
    have valid : small.isValidChar := by
      rcases character with low | high
      · exact .inl (by omega)
      · exact .inr (by omega)
    rintro ⟨ascii, -, notK⟩
    rw [toNat_ofNat valid] at ascii
    have kelvin : small = 0x6B := by omega
    exact notK (congrArg Char.ofNat kelvin)
  · nomatch folds

/-- The small form of a character beyond ASCII holds a character that is not plain. -/
theorem smallForm_not_isPlain {c : Char} (beyond : 128 ≤ c.toNat) :
    ∃ x ∈ smallForm c, ¬ IsPlain x := by
  unfold smallForm
  split
  · exact ⟨'i', List.mem_cons_self, by decide⟩
  · split
    · rename_i small found
      obtain ⟨run, listed, folds⟩ := List.exists_of_findSome?_eq_some found
      exact ⟨_, List.mem_cons_self, run.not_isPlain listed folds⟩
    · refine ⟨c, List.mem_cons_self, ?_⟩
      rintro ⟨ascii, -⟩
      omega

theorem smallSigma_not_isPlain (before after : List Char) :
    ¬ IsPlain (smallSigma before after) := by
  unfold smallSigma
  split <;> decide

/-- Where lower case comes out plain, all characters are of ASCII. -/
theorem ascii_of_lowerAfter {before cs : List Char}
    (plain : ∀ x ∈ lowerAfter before cs, IsPlain x) : ∀ c ∈ cs, c.toNat < 128 := by
  induction cs generalizing before with
  | nil => exact fun c inside => absurd inside List.not_mem_nil
  | cons c cs ih =>
    rw [lowerAfter] at plain
    have first : c.toNat < 128 := by
      rcases Nat.lt_or_ge c.toNat 128 with ascii | beyond
      · exact ascii
      · rw [if_neg (Nat.not_lt.2 beyond)] at plain
        split at plain
        · exact absurd (plain _ List.mem_cons_self) (smallSigma_not_isPlain before cs)
        · obtain ⟨x, inside, odd⟩ := smallForm_not_isPlain beyond
          exact absurd (plain x (List.mem_append_left _ inside)) odd
    intro d inside
    rcases List.mem_cons.1 inside with rfl | later
    · exact first
    · exact ih (fun x there => plain x (List.mem_append_right _ there)) d later

/-- Lower case of ASCII text turns its capitals into small letters. -/
theorem lowerAfter_ascii {before cs : List Char} (ascii : ∀ c ∈ cs, c.toNat < 128) :
    lowerAfter before cs = cs.map Char.toLower := by
  induction cs generalizing before with
  | nil => rfl
  | cons c cs ih =>
    rw [lowerAfter, if_pos (ascii c List.mem_cons_self),
      ih fun d later => ascii d (List.mem_cons_of_mem c later)]
    rfl

theorem ascii_of_toLower {c : Char} (ascii : c.toLower.toNat < 128) : c.toNat < 128 := by
  unfold Char.toLower at ascii
  split at ascii
  · rename_i capital
    have bound : c.toNat ≤ 'Z'.toNat := capital.2
    exact Nat.lt_of_le_of_lt bound (by decide)
  · exact ascii

/-- In lower case a text is a plain word just when it is the word up to the case of ASCII letters.
-/
theorem lower_eq_iff {s word : String} (plain : ∀ c ∈ word.toList, IsPlain c) :
    lower s = word ↔ Reading.asciiLower s = word := by
  have same (ascii : ∀ c ∈ s.toList, c.toNat < 128) : lower s = Reading.asciiLower s := by
    rw [lower, Reading.asciiLower, lowerAfter_ascii ascii]
  constructor
  · intro lowers
    rw [← same, lowers]
    rw [← lowers, lower, String.toList_ofList] at plain
    exact ascii_of_lowerAfter plain
  · intro lowers
    rw [same, lowers]
    intro c inside
    refine ascii_of_toLower ?_
    have there : c.toLower ∈ word.toList := by
      rw [← lowers, Reading.asciiLower, String.toList_ofList]
      exact List.mem_map_of_mem inside
    exact (plain _ there).1

-- The Kelvin sign comes out as a plain letter, which is why no plain word holds a k.
example : lower "\u212A" = "k" ∧ Reading.asciiLower "\u212A" ≠ "k" := by decide +kernel

end Text

namespace ReviewOutcome

variable {state : String} {outcome : ReviewOutcome}

theorem name_plain (outcome : ReviewOutcome) : ∀ c ∈ outcome.name.toList, Text.IsPlain c := by
  cases outcome <;> exact Text.forall_of_all (by decide)

theorem ofName?_iff {name : String} : ofName? name = some outcome ↔ name = outcome.name := by
  constructor
  · intro found
    simpa [eq_comm] using List.find?_some found
  · rintro rfl
    cases outcome <;> rfl

/-- A state names an outcome in any case of its ASCII letters. -/
theorem ofState?_iff : ofState? state = some outcome ↔ Reading.asciiLower state = outcome.name := by
  rw [ofState?, ofName?_iff, Text.lower_eq_iff (name_plain outcome)]

theorem ofState?_none :
    ofState? state = none ↔ ∀ outcome : ReviewOutcome, Reading.asciiLower state ≠ outcome.name := by
  rw [Option.eq_none_iff_forall_ne_some]
  exact forall_congr' fun outcome => not_congr ofState?_iff

/-- A state with a character beyond ASCII is not folded into the name of an outcome. -/
theorem ascii_of_lower (names : Text.lower state = outcome.name) :
    ∀ c ∈ state.toList, c.toNat < 128 := by
  have plain := name_plain outcome
  rw [← names, Text.lower, String.toList_ofList] at plain
  exact Text.ascii_of_lowerAfter plain

end ReviewOutcome

end SuiteTrigger
