import SuiteTrigger.Text.Terminal
import SuiteTrigger.Trigger.Action

namespace SuiteTrigger

namespace Text

def Visible (cs : List Char) : Prop := ∀ c ∈ cs, isPrintable c = true

instance (cs : List Char) : Decidable (Visible cs) :=
  decidable_of_iff (cs.all isPrintable = true) List.all_eq_true

theorem visible_append {cs ds : List Char} : Visible (cs ++ ds) ↔ Visible cs ∧ Visible ds :=
  List.forall_mem_append

theorem visible_cons {c : Char} {cs : List Char} :
    Visible (c :: cs) ↔ isPrintable c = true ∧ Visible cs :=
  List.forall_mem_cons

theorem visible_joined {s t : String} (first : Visible s.toList) (second : Visible t.toList) :
    Visible (s ++ t).toList := by
  rw [String.toList_append]
  exact visible_append.2 ⟨first, second⟩

/-- A character of ASCII that is no control. -/
def isShownAscii (c : Char) : Bool := 0x20 ≤ c.toNat && c.toNat < 0x7F

theorem isPrintable_ascii {c : Char} (ascii : isShownAscii c = true) : isPrintable c = true := by
  have apart : ∀ range ∈ unprintableRanges, range.2 < 0x20 ∨ 0x7F ≤ range.1 := by decide +kernel
  rw [isShownAscii, Bool.and_eq_true, decide_eq_true_eq, decide_eq_true_eq] at ascii
  rw [isPrintable, Bool.not_eq_true', Bool.eq_false_iff]
  intro unprintable
  obtain ⟨range, listed, starts, stops⟩ := inRanges_iff.1 unprintable
  rcases apart range listed with before | behind <;> omega

theorem visible_ascii {cs : List Char} (ascii : cs.all isShownAscii = true) : Visible cs :=
  fun c inside => isPrintable_ascii (List.all_eq_true.1 ascii c inside)

/-- A visible text is written as it is, whether a terminal shows it or not. -/
theorem dropSequences_visible {cs : List Char} (visible : Visible cs) : dropSequences cs = cs := by
  have control : isPrintable sequenceStart = false := by decide +kernel
  refine dropSequences_eq_self fun starts => ?_
  have printable := visible _ starts
  rw [control] at printable
  nomatch printable

theorem visible_hexDigits (width n : Nat) : Visible (hexDigits width n) := by
  have ascii : ∀ n < 16, [hexDigit n].all isShownAscii = true := by decide
  induction width generalizing n with
  | zero => exact List.forall_mem_nil _
  | succ width ih =>
    exact visible_append.2 ⟨ih (n / 16), visible_ascii (ascii _ (Nat.mod_lt n (by decide)))⟩

theorem visible_codePointEscape (n : Nat) : Visible (codePointEscape n) := by
  have two : Visible ['\\', 'x'] := visible_ascii rfl
  have four : Visible ['\\', 'u'] := visible_ascii rfl
  have eight : Visible ['\\', 'U'] := visible_ascii rfl
  unfold codePointEscape
  split
  · exact visible_append.2 ⟨two, visible_hexDigits 2 n⟩
  · split
    · exact visible_append.2 ⟨four, visible_hexDigits 4 n⟩
    · exact visible_append.2 ⟨eight, visible_hexDigits 8 n⟩

/-- A character inside quotes is shown by printable ones, whether it is printable or not. -/
theorem visible_escapeChar {mark : Char} (quotes : isPrintable mark = true) (c : Char) :
    Visible (escapeChar mark c) := by
  have backslash : isPrintable '\\' = true := isPrintable_ascii rfl
  unfold escapeChar
  split
  · rename_i special
    refine visible_cons.2 ⟨backslash, ?_⟩
    rcases special with rfl | rfl
    · exact visible_cons.2 ⟨quotes, List.forall_mem_nil _⟩
    · exact visible_cons.2 ⟨backslash, List.forall_mem_nil _⟩
  · split
    · exact visible_ascii rfl
    split
    · exact visible_ascii rfl
    split
    · exact visible_ascii rfl
    split
    · rename_i printable
      exact visible_cons.2 ⟨printable, List.forall_mem_nil _⟩
    · exact visible_codePointEscape _

theorem isPrintable_quoteFor (cs : List Char) : isPrintable (quoteFor cs) = true := by
  have double : isPrintable '"' = true := isPrintable_ascii rfl
  have single : isPrintable '\'' = true := isPrintable_ascii rfl
  unfold quoteFor
  split
  · exact double
  · exact single

theorem visible_quote (s : String) : Visible (quote s).toList := by
  have quotes := isPrintable_quoteFor s.toList
  rw [quote, String.toList_ofList, quoteChars, List.cons_append]
  refine visible_cons.2 ⟨quotes, visible_append.2 ⟨?_, visible_cons.2 ⟨quotes, ?_⟩⟩⟩
  · intro c shown
    obtain ⟨d, -, inside⟩ := List.mem_flatMap.1 shown
    exact visible_escapeChar quotes d c inside
  · exact List.forall_mem_nil _

end Text

namespace Action

open Text

theorem visible_boolText (b : Bool) : Visible (boolText b).toList := by
  have yes : Visible "True".toList := visible_ascii rfl
  have no : Visible "False".toList := visible_ascii rfl
  cases b with
  | true => exact yes
  | false => exact no

theorem visible_describe (a : Action) : Visible a.describe.toList := by
  have close : Visible ")".toList := visible_ascii rfl
  cases a with
  | addLabel name =>
    have start : Visible "AddLabel(name=".toList := visible_ascii rfl
    exact visible_joined (visible_joined start (visible_quote name)) close
  | removeLabel name =>
    have start : Visible "RemoveLabel(name=".toList := visible_ascii rfl
    exact visible_joined (visible_joined start (visible_quote name)) close
  | postComment body allowRepeats =>
    have start : Visible "PostComment(".toList := visible_ascii rfl
    have middle : Visible ", allow_repeats=".toList := visible_ascii rfl
    have line := visible_quote (firstLine body)
    have shown := visible_joined (visible_joined start line) middle
    exact visible_joined (visible_joined shown (visible_boolText allowRepeats)) close

/-- The line that shows an action ends with a bracket. -/
theorem getLast?_describe (a : Action) : a.describe.toList.getLast? = some ')' := by
  have ends (text : String) : (text ++ ")").toList.getLast? = some ')' := by
    rw [String.toList_append]
    exact List.getLast?_concat
  cases a with
  | addLabel name => exact ends _
  | removeLabel name => exact ends _
  | postComment body allowRepeats => exact ends _

end Action

end SuiteTrigger
