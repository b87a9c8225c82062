import SuiteTrigger.Json.Reader

/-!
# The limits of the JSON reader

The reader gives up on a text for its size only when the text is large: a refused integer stands in
the text as a run of so many digits, and lists and objects are found too deep in each other only in
a text that opens more of them than the limit (`Sized`). Each reader takes a first part of its text
or stops with such a reason (`readers_read`).
-/

namespace SuiteTrigger.Json

namespace Reader

/-- How many lists and objects a text opens at most: its opening brackets and braces. -/
def opened (cs : List Char) : Nat := cs.countP fun c => c = '[' || c = '\x7b'

/-- A refusal for the size of a text speaks of the text. -/
def Sized (room : Nat) (cs : List Char) : Stop → Prop
  | .fault .. => True
  | .tooManyDigits count =>
    Numeral.digitLimit < count ∧
      ∃ run, run <:+: cs ∧ (∀ c ∈ run, isDigit c = true) ∧ run.length = count
  | .tooDeep _ => room < opened cs

/-- What is read leaves an end of the text, and what is refused for its size is refused with
reason. -/
def Reads {α : Type} (room : Nat) (cs : List Char) : Step α → Prop
  | .ok (_, rest) => rest <:+ cs
  | .error stop => Sized room cs stop

section Parts

variable {α β : Type} {room : Nat} {cs part : List Char}

theorem opened_le (inside : part <:+ cs) : opened part ≤ opened cs :=
  inside.sublist.countP_le

theorem opened_cons {c : Char} (opens : (c = '[' || c = '\x7b') = true) (cs : List Char) :
    opened (c :: cs) = opened cs + 1 :=
  List.countP_cons_of_pos opens

theorem Sized.of_suffix {stop : Stop} (sized : Sized room part stop) (inside : part <:+ cs) :
    Sized room cs stop := by
  cases stop with
  | fault fault rest => trivial
  | tooManyDigits count =>
    obtain ⟨large, run, among, digits, length⟩ := sized
    exact ⟨large, run, among.trans inside.isInfix, digits, length⟩
  | tooDeep nest => exact Nat.lt_of_lt_of_le sized (opened_le inside)

theorem Reads.of_suffix {read : Step α} (reads : Reads room part read) (inside : part <:+ cs) :
    Reads room cs read := by
  cases read with
  | error stop => exact Sized.of_suffix reads inside
  | ok value => exact List.IsSuffix.trans reads inside

/-- Behind an opening bracket or brace there is room for one less. -/
theorem Reads.nested {c : Char} {read : Step α} (reads : Reads room part read)
    (opens : (c = '[' || c = '\x7b') = true) : Reads (room + 1) (c :: part) read := by
  cases read with
  | ok value => exact List.IsSuffix.trans reads (List.suffix_cons c part)
  | error stop =>
    cases stop with
    | fault fault rest => trivial
    | tooManyDigits count =>
      obtain ⟨large, run, among, digits, length⟩ := reads
      exact ⟨large, run, among.trans (List.infix_cons List.infix_rfl), digits, length⟩
    | tooDeep nest =>
      have less : room < opened part := reads
      have more := opened_cons opens part
      show room + 1 < opened (c :: part)
      omega

theorem Reads.bind {read : Except Stop (α × List Char)}
    {next : α × List Char → Except Stop (β × List Char)} (reads : Reads room cs read)
    (rest : ∀ value after, after <:+ cs → Reads room cs (next (value, after))) :
    Reads room cs (read >>= next : Except Stop (β × List Char)) := by
  cases read with
  | error stop => exact reads
  | ok result => exact rest result.1 result.2 reads

theorem skipSpace_suffix (cs : List Char) : skipSpace cs <:+ cs := List.dropWhile_suffix _

end Parts

/-- Without room every opening bracket or brace is one too many. -/
theorem tooDeep_reads {c : Char} (opens : (c = '[' || c = '\x7b') = true) (cs : List Char)
    (nest : Nest) : Reads 0 (c :: cs) (.error (.tooDeep nest) : Step α) := by
  have more := opened_cons opens cs
  show 0 < opened (c :: cs)
  omega

/-- Every escape takes characters, so what is read next is an end of the text. -/
theorem string_reads (room : Nat) (start done cs : List Char) :
    Reads room cs (string start done cs) := by
  fun_induction string start done cs with
  | case2 => exact List.suffix_cons _ _
  | case6 done a b c d e high _ _ f g h i j more low _ _ ih =>
    exact ih.of_suffix ⟨['\\', 'u', a, b, c, d, e, 'u', f, g, h, i], rfl⟩
  | case7 done a b c d e high _ half f g h i j more low _ _ ih =>
    -- The second escape is read again on its own, from its backslash on.
    have mark : e = '\\' := of_decide_eq_true (Bool.and_eq_true_iff.1 half).2
    subst mark
    exact ih.of_suffix ⟨['\\', 'u', a, b, c, d], rfl⟩
  | case8 done a b c d e high _ _ rest _ ih =>
    exact ih.of_suffix ⟨['\\', 'u', a, b, c, d], rfl⟩
  | case9 done a b c d e rest high _ _ ih =>
    exact ih.of_suffix ⟨['\\', 'u', a, b, c, d], rfl⟩
  | case11 done c rest _ _ d _ ih => exact ih.of_suffix ⟨['\\', c], rfl⟩
  | case14 done c rest _ _ _ _ _ _ ih => exact ih.of_suffix (List.suffix_cons _ _)
  | _ => trivial

theorem digits_suffix (cs : List Char) : (digits cs).2 <:+ cs := List.dropWhile_suffix _

theorem fraction_suffix (cs : List Char) : (fraction cs).2 <:+ cs := by
  unfold fraction
  split
  · split
    · exact (digits_suffix _).trans (List.suffix_cons _ _)
    · exact List.suffix_rfl
  · exact List.suffix_rfl

theorem signOf_suffix (cs : List Char) : (Numeral.signOf cs).2 <:+ cs := by
  unfold Numeral.signOf
  split
  · exact List.suffix_cons _ _
  · exact List.suffix_cons _ _
  · exact List.suffix_rfl

theorem exponent_suffix (cs : List Char) : (exponent cs).2 <:+ cs := by
  unfold exponent
  split
  · rename_i c rest
    split
    · have signed := signOf_suffix rest
      have read := digits_suffix (Numeral.signOf rest).2
      dsimp only
      split
      · exact List.suffix_rfl
      · rename_i rest' equal
        rw [equal] at read
        exact (read.trans signed).trans (List.suffix_cons _ _)
    · exact List.suffix_rfl
  · exact List.suffix_rfl

/-- A number is refused for the run of digits that it begins with. -/
theorem numberWith_reads {room : Nat} {negative : Bool} {whole : List Nat} {run rest cs : List Char}
    (among : run <:+: cs) (isRun : ∀ c ∈ run, isDigit c = true) (same : run.length = whole.length)
    (inside : rest <:+ cs) : Reads room cs (numberWith negative whole rest) := by
  have left : (exponent (fraction rest).2).2 <:+ cs :=
    ((exponent_suffix _).trans (fraction_suffix rest)).trans inside
  unfold numberWith
  generalize fraction rest = found at left ⊢
  obtain ⟨places, tail⟩ := found
  dsimp only at left ⊢
  generalize exponent tail = found at left ⊢
  obtain ⟨power, after⟩ := found
  cases places with
  | cons place places => exact left
  | nil =>
    cases power with
    | some power => exact left
    | none =>
      dsimp only
      split
      · rename_i large
        exact ⟨large, run, among, isRun, same⟩
      · exact left

theorem number_reads (room : Nat) (cs : List Char) : Reads room cs (number cs) := by
  unfold number
  split
  rename_i negative unsigned parted
  have inside : unsigned <:+ cs := by
    split at parted
    · cases parted
      exact List.suffix_cons _ _
    · cases parted
      exact List.suffix_rfl
  cases unsigned with
  | nil => trivial
  | cons c rest =>
    dsimp only
    split
    · rename_i zero
      subst zero
      have first : ['0'] <:+: cs := List.IsInfix.trans ⟨[], rest, rfl⟩ inside.isInfix
      refine numberWith_reads first (fun c only => ?_) rfl ?_
      · rw [List.mem_singleton.1 only]
        rfl
      · exact (List.suffix_cons _ _).trans inside
    · split
      · have run : (c :: rest).takeWhile isDigit <:+: cs :=
          (List.takeWhile_prefix _).isInfix.trans inside.isInfix
        have digit := List.all_eq_true.1 (List.all_takeWhile (p := isDigit) (l := c :: rest))
        refine numberWith_reads run digit ?_ ((digits_suffix _).trans inside)
        exact (List.length_map _).symm
      · trivial

/-- What the readers of values do with a fuel. -/
structure Readers (fuel : Nat) : Prop where
  value : ∀ room cs, Reads room cs (value fuel room cs)
  elements : ∀ room done cs, Reads room cs (elements fuel room done cs)
  members : ∀ room done cs, Reads room cs (members fuel room done cs)

section Fuel

variable {fuel : Nat} (readers : Readers fuel)
include readers

theorem value_reads (room : Nat) (cs : List Char) : Reads room cs (value (fuel + 1) room cs) := by
  unfold value
  split
  · rename_i rest
    have read := (string_reads room ('"' :: rest) [] rest).of_suffix (List.suffix_cons '"' rest)
    exact read.bind fun s after inside => inside
  · exact tooDeep_reads rfl _ _
  · rename_i rest room
    refine Reads.nested ?_ rfl
    have blank := skipSpace_suffix rest
    split
    · rename_i after equal
      rw [equal] at blank
      exact (List.suffix_cons _ _).trans blank
    · exact (readers.members room [] _).of_suffix blank
  · exact tooDeep_reads rfl _ _
  · rename_i rest room
    refine Reads.nested ?_ rfl
    have blank := skipSpace_suffix rest
    split
    · rename_i after equal
      rw [equal] at blank
      exact (List.suffix_cons _ _).trans blank
    · exact (readers.elements room [] _).of_suffix blank
  · exact ⟨"null".toList, rfl⟩
  · exact ⟨"true".toList, rfl⟩
  · exact ⟨"false".toList, rfl⟩
  · exact ⟨"NaN".toList, rfl⟩
  · exact ⟨"Infinity".toList, rfl⟩
  · exact ⟨"-Infinity".toList, rfl⟩
  · exact number_reads room cs

theorem elements_reads (room : Nat) (done : List Json) (cs : List Char) :
    Reads room cs (elements (fuel + 1) room done cs) := by
  unfold elements
  refine (readers.value room cs).bind fun item after inside => ?_
  dsimp only
  have blank := (skipSpace_suffix after).trans inside
  split
  · rename_i rest equal
    rw [equal] at blank
    exact (List.suffix_cons _ _).trans blank
  · rename_i rest equal
    rw [equal] at blank
    refine (readers.elements room _ _).of_suffix ?_
    exact (skipSpace_suffix rest).trans ((List.suffix_cons _ _).trans blank)
  · trivial

theorem members_reads (room : Nat) (done : List (String × Json)) (cs : List Char) :
    Reads room cs (members (fuel + 1) room done cs) := by
  unfold members
  split
  · rename_i rest
    have read := (string_reads room ('"' :: rest) [] rest).of_suffix (List.suffix_cons '"' rest)
    refine read.bind fun key after inside => ?_
    dsimp only
    have blank := (skipSpace_suffix after).trans inside
    split
    · rename_i behind equal
      rw [equal] at blank
      have start := (skipSpace_suffix behind).trans ((List.suffix_cons _ _).trans blank)
      refine ((readers.value room _).of_suffix start).bind fun item after inside => ?_
      dsimp only
      have blank := (skipSpace_suffix after).trans inside
      split
      · rename_i rest equal
        rw [equal] at blank
        exact (List.suffix_cons _ _).trans blank
      · rename_i rest equal
        rw [equal] at blank
        refine (readers.members room _ _).of_suffix ?_
        exact (skipSpace_suffix rest).trans ((List.suffix_cons _ _).trans blank)
      · trivial
    · trivial
  · trivial

end Fuel

/-- Every reader hands on an end of its text, whatever the fuel. -/
theorem readers_read (fuel : Nat) : Readers fuel := by
  induction fuel with
  | zero => exact ⟨fun _ _ => trivial, fun _ _ _ => trivial, fun _ _ _ => trivial⟩
  | succ fuel ih => exact ⟨value_reads ih, elements_reads ih, members_reads ih⟩

theorem document_sized {room : Nat} {cs : List Char} {stop : Stop}
    (refused : document room cs = .error stop) : Sized room cs stop := by
  unfold document at refused
  split at refused
  · cases refused
    trivial
  · have reads := ((readers_read (2 * cs.length + 2)).value room _).of_suffix (skipSpace_suffix cs)
    split at refused
    · rename_i equal
      cases refused
      rw [equal] at reads
      exact reads
    · split at refused
      · nomatch refused
      · cases refused
        trivial

end Reader

open Reader in
/-- A text is refused for its syntax, for a run of more digits than the limit, or when it opens more
lists and objects than may stand in each other. -/
theorem read_refused {s : String} {e : ReadError} (refused : read s = .error e) :
    (∃ fault, e = .syntaxError fault) ∨
      (∃ run, run <:+: s.toList ∧ (∀ c ∈ run, isDigit c = true) ∧ Numeral.digitLimit < run.length ∧
        e = .tooManyDigits run.length) ∨
      ∃ nest, e = .tooDeep nest ∧ nestingLimit < opened s.toList := by
  unfold read readWithin at refused
  dsimp only at refused
  cases came : document nestingLimit s.toList with
  | ok value =>
    rw [came] at refused
    nomatch refused
  | error stop =>
    have sized := document_sized came
    rw [came] at refused
    cases stop with
    | fault fault rest =>
      cases refused
      exact .inl ⟨_, rfl⟩
    | tooManyDigits count =>
      obtain ⟨large, run, among, digits, rfl⟩ := sized
      cases refused
      exact .inr (.inl ⟨run, among, digits, large, rfl⟩)
    | tooDeep nest =>
      cases refused
      exact .inr (.inr ⟨nest, rfl, sized⟩)

end SuiteTrigger.Json
