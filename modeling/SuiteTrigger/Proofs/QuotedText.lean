import Mathlib.Algebra.Group.Nat.Defs
import SuiteTrigger.Encoding.Escaped
import SuiteTrigger.Text.Quoted

namespace SuiteTrigger

namespace Text

theorem hexValue?_hexDigit {n : Nat} (digit : n < 16) : hexValue? (hexDigit n) = some n := by
  have all : ∀ n < 16, hexValue? (hexDigit n) = some n := by decide
  exact all n digit

theorem length_hexDigits (width n : Nat) : (hexDigits width n).length = width := by
  induction width generalizing n with
  | zero => rfl
  | succ width ih => rw [hexDigits, List.length_append, ih, List.length_singleton]

end Text

namespace Escaped

open Text (hexDigit hexDigits hexValue?_hexDigit)

theorem numberOf_concat (base : Nat) (digits : List Nat) (d : Nat) :
    numberOf base (digits ++ [d]) = base * numberOf base digits + d := by
  rw [numberOf, numberOf, List.foldl_append, List.foldl_cons, List.foldl_nil]

/-- The digits of a number are read with the number that they spell, whatever follows them. -/
theorem hexRun_hexDigits (width n : Nat) (rest : List Char) :
    ∃ digits, hexRun (hexDigits width n ++ rest) = digits ++ hexRun rest ∧
      digits.length = width ∧ numberOf 16 digits = n % 16 ^ width := by
  induction width generalizing n rest with
  | zero => exact ⟨[], rfl, rfl, (Nat.mod_one n).symm⟩
  | succ width ih =>
    have digit : n % 16 < 16 := Nat.mod_lt n (by decide)
    obtain ⟨digits, run, length, number⟩ := ih (n / 16) (hexDigit (n % 16) :: rest)
    refine ⟨digits ++ [n % 16], ?_, ?_, ?_⟩
    · rw [hexDigits, List.append_assoc, List.singleton_append, run, hexRun,
        hexValue?_hexDigit digit, List.append_assoc]
      rfl
    · rw [List.length_append, length, List.length_singleton]
    · rw [numberOf_concat, number, Nat.pow_succ, Nat.mul_comm (16 ^ width) 16, Nat.mod_mul,
        Nat.add_comm]

/-- A code point in as many digits as its letter asks for is read as its character. -/
theorem escape_hexDigits {letter : Char} {width n : Nat}
    (asks : hexWidth? .full letter = some width) (fits : n < 16 ^ width)
    (valid : n < codePointLimit) (rest : List Char) :
    escape .full (letter :: (hexDigits width n ++ rest)) =
      .ok ([Text.charOfCode n], 1 + width) := by
  obtain ⟨digits, run, length, number⟩ := hexRun_hexDigits width n rest
  have taken : (hexRun (hexDigits width n ++ rest)).take width = digits := by
    rw [run, ← length, List.take_left]
  have code : numberOf 16 digits = n := number.trans (Nat.mod_eq_of_lt fits)
  rw [escape, asks]
  dsimp only
  rw [taken, length, code, if_neg (Nat.lt_irrefl width), if_neg (Nat.not_le.2 valid)]

end Escaped

namespace Text

theorem codeOf_lt (c : Char) : codeOf c < Escaped.codePointLimit := by
  have valid : c.toNat < Escaped.codePointLimit := by
    rcases c.valid with low | ⟨-, high⟩
    · exact Nat.lt_trans low (by decide)
    · exact high
  unfold codeOf
  split
  · exact Nat.lt_of_le_of_lt (Nat.sub_le _ _) valid
  · exact valid

theorem isHalf_iff {code : Nat} : isHalf code = true ↔ 0xD800 ≤ code ∧ code < 0xE000 := by
  rw [isHalf, Bool.and_eq_true, decide_eq_true_eq, decide_eq_true_eq]

/-- A character is known from its code point, and a stand-in from the half in whose place it is. -/
theorem charOfCode_codeOf (c : Char) : charOfCode (codeOf c) = c := by
  by_cases standIn : isStandIn c = true
  · have half : isHalf (c.toNat - standInPlane) = true := standIn
    have above : 0xD800 ≤ c.toNat - standInPlane := (isHalf_iff.1 half).1
    have whole : standInPlane + (c.toNat - standInPlane) = c.toNat := by omega
    rw [codeOf, if_pos standIn, charOfCode, if_pos half, whole, Char.ofNat_toNat]
  · have noHalf : ¬ isHalf c.toNat = true := by
      rw [isHalf_iff]
      rintro ⟨above, below⟩
      rcases c.valid with low | ⟨high, -⟩
      · exact absurd above (Nat.not_le.2 low)
      · exact absurd below (Nat.not_lt.2 high)
    rw [codeOf, if_neg standIn, charOfCode, if_neg noHalf, Char.ofNat_toNat]

/-- What stands behind a backslash is read as one character, whatever follows. -/
def EscapeOf (shown : List Char) (c : Char) : Prop :=
  ∀ rest, Escaped.escape .full (shown ++ rest) = .ok ([c], shown.length)

theorem escapeOf_hexDigits {letter : Char} {width : Nat} {c : Char}
    (asks : Escaped.hexWidth? .full letter = some width) (fits : codeOf c < 16 ^ width) :
    EscapeOf (letter :: hexDigits width (codeOf c)) c := by
  intro rest
  rw [List.cons_append, Escaped.escape_hexDigits asks fits (codeOf_lt c), charOfCode_codeOf,
    List.length_cons, length_hexDigits, Nat.add_comm]

theorem codePointEscape_escapes (c : Char) :
    ∃ shown, codePointEscape (codeOf c) = '\\' :: shown ∧ EscapeOf shown c := by
  unfold codePointEscape
  by_cases two : codeOf c < 0x100
  · exact ⟨_, if_pos two, escapeOf_hexDigits rfl two⟩
  by_cases four : codeOf c < 0x10000
  · exact ⟨_, (if_neg two).trans (if_pos four), escapeOf_hexDigits rfl four⟩
  · have eight : codeOf c < 16 ^ 8 := Nat.lt_trans (codeOf_lt c) (by decide)
    exact ⟨_, (if_neg two).trans (if_neg four), escapeOf_hexDigits rfl eight⟩

def IsQuote (mark : Char) : Prop := mark = '\'' ∨ mark = '"'

instance (mark : Char) : Decidable (IsQuote mark) := inferInstanceAs (Decidable (_ ∨ _))

theorem isQuote_quoteFor (cs : List Char) : IsQuote (quoteFor cs) := by
  unfold quoteFor
  split
  · exact .inr rfl
  · exact .inl rfl

theorem IsQuote.ne_backslash {mark : Char} (quotes : IsQuote mark) : '\\' ≠ mark := by
  rcases quotes with rfl | rfl <;> decide

/-- Inside quotes a character stands for itself, and then it is neither the quote nor a backslash,
or it is escaped. -/
theorem escapeChar_cases {mark : Char} (quotes : IsQuote mark) (c : Char) :
    escapeChar mark c = [c] ∧ c ≠ mark ∧ c ≠ '\\' ∨
      ∃ shown, escapeChar mark c = '\\' :: shown ∧ EscapeOf shown c := by
  unfold escapeChar
  by_cases special : c = mark ∨ c = '\\'
  · refine .inr ⟨[c], if_pos special, ?_⟩
    rcases special with rfl | rfl
    · rcases quotes with rfl | rfl <;> exact fun rest => rfl
    · exact fun rest => rfl
  rw [if_neg special]
  by_cases lineFeed : c = '\n'
  · exact .inr ⟨['n'], if_pos lineFeed, lineFeed ▸ fun rest => rfl⟩
  rw [if_neg lineFeed]
  by_cases carriageReturn : c = '\r'
  · exact .inr ⟨['r'], if_pos carriageReturn, carriageReturn ▸ fun rest => rfl⟩
  rw [if_neg carriageReturn]
  by_cases tab : c = '\t'
  · exact .inr ⟨['t'], if_pos tab, tab ▸ fun rest => rfl⟩
  rw [if_neg tab]
  by_cases printable : isPrintable c = true
  · exact .inl ⟨if_pos printable, not_or.1 special⟩
  · rw [if_neg printable]
    exact .inr (codePointEscape_escapes c)

/-- Reads text inside the quotes `mark` up to the quote that ends it, and gives what follows. -/
def readInside? (mark : Char) : List Char → Option (List Char × List Char)
  | [] => none
  | c :: cs =>
    if c = mark then some ([], cs)
    else if c = '\\' then
      match Escaped.escape .full cs with
      | .ok (read, count) =>
        (readInside? mark (cs.drop count)).map fun (text, rest) => (read ++ text, rest)
      | .error _ => none
    else (readInside? mark cs).map fun (text, rest) => (c :: text, rest)
termination_by cs => cs.length
decreasing_by all_goals simp only [List.length_drop, List.length_cons]; omega

/-- Reads a quoted text, and gives what follows. -/
def readQuoted? : List Char → Option (List Char × List Char)
  | [] => none
  | mark :: cs => if IsQuote mark then readInside? mark cs else none

theorem readInside?_escapeChar {mark : Char} (quotes : IsQuote mark) (c : Char) (cs : List Char) :
    readInside? mark (escapeChar mark c ++ cs) =
      (readInside? mark cs).map fun (text, rest) => (c :: text, rest) := by
  rcases escapeChar_cases quotes c with ⟨same, unquoted, plain⟩ | ⟨shown, escaped, reads⟩
  · rw [same, List.singleton_append, readInside?, if_neg unquoted, if_neg plain]
  · rw [escaped, List.cons_append, readInside?, if_neg quotes.ne_backslash, if_pos rfl, reads cs]
    dsimp only
    rw [List.drop_left]
    rfl

/-- A text inside quotes is read up to the quote that ends it. -/
theorem readInside?_escaped {mark : Char} (quotes : IsQuote mark) (cs rest : List Char) :
    readInside? mark (cs.flatMap (escapeChar mark) ++ mark :: rest) = some (cs, rest) := by
  induction cs with
  | nil => rw [List.flatMap_nil, List.nil_append, readInside?, if_pos rfl]
  | cons c cs ih =>
    rw [List.flatMap_cons, List.append_assoc, readInside?_escapeChar quotes, ih]
    rfl

theorem readQuoted?_quoteChars (cs rest : List Char) :
    readQuoted? (quoteChars cs ++ rest) = some (cs, rest) := by
  have quotes := isQuote_quoteFor cs
  rw [quoteChars, List.cons_append, List.cons_append, List.append_assoc, List.singleton_append,
    readQuoted?, if_pos quotes, readInside?_escaped quotes]

end Text

end SuiteTrigger
