import Mathlib.Data.List.DropRight
import SuiteTrigger.Proofs.ValidRecords
import SuiteTrigger.Trigger.NamedValues

/-!
# Checks of given configurations

What a caller gives for a configuration is accepted when every name is that of a field and every
value fits its field (`Accepted`). An accepted value is kept, targets without blanks around them
(`Stands`), and is accepted again as it was kept. What is refused is told problem by problem, first
of the fields in their order and then of the names that are none (`Refused`).
-/

namespace SuiteTrigger

namespace Text

/-- A text of blanks only. -/
def Blank (s : String) : Prop := ∀ c ∈ s.toList, isBlank c = true

instance : DecidablePred Blank :=
  fun s => List.decidableBAll _ s.toList

theorem dropEndWhile_eq (p : Char → Bool) (cs : List Char) :
    dropEndWhile p cs = cs.rdropWhile p := rfl

/-- Nothing is left of characters just when all of them are dropped. -/
theorem trimWhile_eq_nil_iff {p : Char → Bool} {cs : List Char} :
    trimWhile p cs = [] ↔ ∀ c ∈ cs, p c = true := by
  rw [trimWhile, dropEndWhile_eq, List.rdropWhile_eq_nil_iff]
  constructor
  · intro all c inside
    by_contra keeps
    have some : cs.dropWhile p ≠ [] := fun none =>
      keeps (List.dropWhile_eq_nil_iff.1 none c inside)
    have first := all _ (List.head_mem some)
    rw [List.head_dropWhile_not p some] at first
    nomatch first
  · intro all c inside
    exact all c ((List.dropWhile_suffix p).subset inside)

/-- What is left begins with a character that is not dropped. -/
theorem dropWhile_trimWhile (p : Char → Bool) (cs : List Char) :
    (trimWhile p cs).dropWhile p = trimWhile p cs := by
  rw [List.dropWhile_eq_self_iff]
  intro some
  have start : trimWhile p cs <+: cs.dropWhile p := List.rdropWhile_prefix p _
  have left : cs.dropWhile p ≠ [] := by
    intro none
    rw [none] at start
    rw [List.prefix_nil.1 start] at some
    exact absurd some (Nat.lt_irrefl 0)
  have first : (trimWhile p cs)[0] = (cs.dropWhile p).head left := by
    rw [start.getElem some, List.head_eq_getElem]
  rw [first, List.head_dropWhile_not p left]
  exact Bool.false_ne_true

theorem trimWhile_trimWhile (p : Char → Bool) (cs : List Char) :
    trimWhile p (trimWhile p cs) = trimWhile p cs := by
  rw [trimWhile, dropWhile_trimWhile]
  exact List.rdropWhile_idempotent p _

theorem strip_eq_empty_iff {s : String} : strip s = "" ↔ Blank s := by
  rw [strip, ← String.toList_inj, String.toList_ofList]
  exact trimWhile_eq_nil_iff

@[simp] theorem strip_strip (s : String) : strip (strip s) = strip s := by
  rw [strip, strip, String.toList_ofList, trimWhile_trimWhile]

end Text

namespace Checked

variable {α β : Type}

@[simp] theorem problems_map (f : α → β) (x : Checked α) : (f <$> x).problems = x.problems := by
  cases x <;> simp [Functor.map, seq, problems]

@[simp] theorem problems_seqLeft (x : Checked α) (y : Checked β) :
    (x <* y).problems = x.problems ++ y.problems := by
  cases x <;> cases y <;> simp [SeqLeft.seqLeft, seq, problems]

theorem seqLeft_good {x : Checked α} {y : Checked β} {a : α} :
    x <* y = .good a ↔ x = .good a ∧ ∃ b, y = .good b := by
  cases x <;> cases y <;> simp [SeqLeft.seqLeft, seq]

theorem problems_under (place : Place) (x : Checked α) :
    (x.under place).problems = x.problems.map fun p => { p with place := place :: p.place } := by
  cases x <;> rfl

theorem andThen_good {x : Checked α} {next : α → Checked β} {b : β} :
    x.andThen next = .good b ↔ ∃ a, x = .good a ∧ next a = .good b := by
  cases x <;> simp [andThen]

theorem problems_of_bad {x : Checked α} (notGood : ∀ a, x ≠ .good a) : x = .bad x.problems := by
  cases x with
  | good a => exact absurd rfl (notGood a)
  | bad problems => rfl

end Checked

namespace TriggerConfig

open Reading Checked

/-- A value is a Unicode text of at least one character. -/
def IsNonEmptyText (v : Json) (s : String) : Prop :=
  v = .str s ∧ s ≠ "" ∧ Text.hasHalf s = false

/-- A value is a list of texts one of which is not blank. It stands for those that are not blank, in
their order and without the blanks around them. -/
def IsTargets (v : Json) (targets : List String) : Prop :=
  ∃ texts : List String, v = .arr (texts.map .str) ∧ (∃ t ∈ texts, ¬ Text.Blank t) ∧
    targets = (texts.filter fun t => ¬ Text.Blank t).map Text.strip

theorem nonEmptyText_good {v : Json} {s : String} :
    nonEmptyText v = .good s ↔ IsNonEmptyText v s := by
  rw [nonEmptyText, andThen_good]
  constructor
  · rintro ⟨t, isText, checked⟩
    by_cases half : Text.hasHalf t = true
    · simp [half, fault] at checked
    · by_cases none : t = ""
      · simp [none, fault] at checked
      · simp only [half, String.isEmpty_iff, none, Bool.false_eq_true, if_false] at checked
        cases checked
        exact ⟨text_good.1 isText, none, Bool.eq_false_iff.2 half⟩
  · rintro ⟨rfl, some, whole⟩
    exact ⟨s, rfl, by simp [some, whole]⟩

theorem cleanTargets_eq (texts : List String) :
    cleanTargets texts = (texts.filter fun t => ¬ Text.Blank t).map Text.strip := by
  rw [cleanTargets, List.filter_map]
  refine congrArg _ (List.filter_congr fun t _ => ?_)
  rw [Function.comp_apply, Bool.eq_iff_iff]
  simp [← Text.strip_eq_empty_iff]

theorem cleanTargets_eq_nil_iff {texts : List String} :
    cleanTargets texts = [] ↔ ¬ ∃ t ∈ texts, ¬ Text.Blank t := by
  simp [cleanTargets_eq]

theorem isTexts_iff {v : Json} {texts : List String} :
    IsList IsText v texts ↔ v = .arr (texts.map .str) := by
  have each {items : List Json} : List.Forall₂ IsText items texts ↔ items = texts.map .str := by
    rw [← List.forall₂_eq_eq_eq, List.forall₂_map_right_iff]
    rfl
  simp only [IsList, each]
  constructor
  · rintro ⟨items, rfl, rfl⟩
    rfl
  · rintro rfl
    exact ⟨_, rfl, rfl⟩

theorem targets_good {v : Json} {kept : List String} :
    targets v = .good kept ↔ IsTargets v kept := by
  rw [targets, andThen_good]
  constructor
  · rintro ⟨texts, listed, checked⟩
    rw [list_good text_good, isTexts_iff] at listed
    split at checked
    · nomatch checked
    · split at checked
      · nomatch checked
      · rename_i some
        cases checked
        rw [List.isEmpty_iff, cleanTargets_eq_nil_iff, not_not] at some
        exact ⟨texts, listed, some, cleanTargets_eq texts⟩
  · rintro ⟨texts, listed, some, rfl⟩
    refine ⟨texts, (list_good text_good).2 (isTexts_iff.2 listed), ?_⟩
    have clean : cleanTargets texts ≠ [] := mt cleanTargets_eq_nil_iff.1 (not_not.2 some)
    have left : texts ≠ [] := by
      rintro rfl
      exact clean rfl
    rw [← cleanTargets_eq]
    simp [left, clean]

/-- A value fits the field with the given name. -/
def Fits (key : String) (v : Json) : Prop :=
  if key = "full_targets" then ∃ kept, IsTargets v kept else ∃ s, IsNonEmptyText v s

/-- What a caller gives is accepted: it names fields only, and each value fits its field. -/
structure Accepted (fields : List (String × Json)) : Prop where
  known : ∀ field ∈ fields, field.1 ∈ fieldNames
  fits : ∀ key ∈ fieldNames, ∀ v, fields.lookup key = some v → Fits key v

/-- What a caller gives stands in a configuration, and what the caller does not give is as in
`absent`. -/
structure Stands (absent : TriggerConfig) (fields : List (String × Json)) (config : TriggerConfig) :
    Prop where
  known : ∀ field ∈ fields, field.1 ∈ fieldNames
  approvedLabel : HoldsOr absent.approvedLabel "approved_label" IsNonEmptyText fields
    config.approvedLabel
  bot : HoldsOr absent.bot "bot" IsNonEmptyText fields config.bot
  fastTarget : HoldsOr absent.fastTarget "fast_target" IsNonEmptyText fields config.fastTarget
  fullTargets : HoldsOr absent.fullTargets "full_targets" IsTargets fields config.fullTargets

variable {absent config : TriggerConfig} {fields : List (String × Json)} {key : String} {v : Json}
  {settings : Settings}

theorem noOthers_good {known : List String} {u : Unit} :
    noOthers known fields = .good u ↔ ∀ field ∈ fields, field.1 ∈ known := by
  unfold noOthers
  split
  · rename_i none
    simpa [List.filter_eq_nil_iff] using none
  · rename_i some
    simpa [List.filter_eq_nil_iff] using some

theorem ofFields_good : ofFields absent fields = .good config ↔ Stands absent fields config := by
  simp only [ofFields, seqLeft_good, seq_good, map_good, withDefault_good nonEmptyText_good,
    withDefault_good targets_good, noOthers_good, exists_const]
  constructor
  · rintro ⟨⟨_, _, ⟨_, _, ⟨_, _, ⟨_, label, rfl⟩, bot, rfl⟩, fast, rfl⟩, full, rfl⟩, known⟩
    exact ⟨known, label, bot, fast, full⟩
  · rintro ⟨known, label, bot, fast, full⟩
    exact ⟨⟨_, _, ⟨_, _, ⟨_, _, ⟨_, label, rfl⟩, bot, rfl⟩, fast, rfl⟩, full, rfl⟩, known⟩

theorem read_ok_iff :
    read settings fields = .ok config ↔ Stands (ofSettings settings) fields config := by
  rw [read, toExcept_ok, ofFields_good]

theorem holdsOr_of_fits {α : Type} {is : Json → α → Prop} (a : α)
    (fits : ∀ v, fields.lookup key = some v → ∃ b, is v b) : ∃ b, HoldsOr a key is fields b := by
  cases given : fields.lookup key with
  | none => exact ⟨a, .inl ⟨given, rfl⟩⟩
  | some v =>
    obtain ⟨b, isThat⟩ := fits v given
    exact ⟨b, .inr ⟨v, given, isThat⟩⟩

theorem fits_of_holdsOr {α : Type} {a b : α} {is : Json → α → Prop}
    (holds : HoldsOr a key is fields b) (given : fields.lookup key = some v) : is v b := by
  rcases holds with ⟨none, -⟩ | ⟨w, found, isThat⟩
  · rw [given] at none
    nomatch none
  · rw [given] at found
    exact Option.some.inj found ▸ isThat

theorem exists_stands_iff : (∃ config, Stands absent fields config) ↔ Accepted fields := by
  constructor
  · rintro ⟨config, stands⟩
    refine ⟨stands.known, ?_⟩
    intro key named v given
    simp only [fieldNames, List.mem_cons, List.not_mem_nil, or_false] at named
    rcases named with rfl | rfl | rfl | rfl
    · exact ⟨_, fits_of_holdsOr stands.approvedLabel given⟩
    · exact ⟨_, fits_of_holdsOr stands.bot given⟩
    · exact ⟨_, fits_of_holdsOr stands.fastTarget given⟩
    · exact ⟨_, fits_of_holdsOr stands.fullTargets given⟩
  · rintro ⟨known, fits⟩
    obtain ⟨label, isLabel⟩ :=
      holdsOr_of_fits absent.approvedLabel (fits "approved_label" (by decide))
    obtain ⟨bot, isBot⟩ := holdsOr_of_fits absent.bot (fits "bot" (by decide))
    obtain ⟨fast, isFast⟩ := holdsOr_of_fits absent.fastTarget (fits "fast_target" (by decide))
    obtain ⟨full, isFull⟩ := holdsOr_of_fits absent.fullTargets (fits "full_targets" (by decide))
    exact ⟨⟨label, bot, fast, full⟩, known, isLabel, isBot, isFast, isFull⟩

/-! ## Problems of what does not fit -/

/-- What is wrong with a value that is to be a Unicode text of at least one character. -/
def textProblems : Json → List Problem
  | .str s =>
    if Text.hasHalf s then [⟨[], .notUnicode⟩] else if s = "" then [⟨[], .emptyText⟩] else []
  | _ => [⟨[], .notText⟩]

def isText : Json → Bool
  | .str _ => true
  | _ => false

/-- The items that are no texts, each at its place, which counts from `start`. -/
def oddItems (start : Nat) (items : List Json) : List Problem :=
  ((items.zipIdx start).filter fun item => !isText item.1).map fun item =>
    ⟨[.item item.2], .notText⟩

/-- What is wrong with a value that is to be a list of targets. -/
def targetProblems : Json → List Problem
  | .arr items =>
    if oddItems 0 items ≠ [] then oddItems 0 items
    else if items = [] then [⟨[], .emptyList⟩]
    else if ∀ item ∈ items, ∀ t ∈ (text item).value?, Text.Blank t then [⟨[], .noTarget⟩]
    else []
  | _ => [⟨[], .notList⟩]

/-- What is wrong with the value that is given for a field; nothing when none is given. -/
def complaints (fields : List (String × Json)) (key : String) : List Problem :=
  match fields.lookup key with
  | none => []
  | some v => (if key = "full_targets" then targetProblems v else textProblems v).map fun p =>
      ⟨.field key :: p.place, p.fault⟩

def strangers (fields : List (String × Json)) : List Problem :=
  (fields.filter fun field => field.1 ∉ fieldNames).map fun field =>
    ⟨[.field field.1], .unknownField⟩

/-- A refusal of what a caller gives tells what is wrong with the fields in their order, and then
which names are that of no field. No value that does not fit is passed over. -/
structure Refused (fields : List (String × Json)) (refusal : Refusal) : Prop where
  record : refusal.record = recordName
  problems : refusal.problems = fieldNames.flatMap (complaints fields) ++ strangers fields
  nonempty : refusal.problems ≠ []
  each : ∀ key ∈ fieldNames, ∀ v, fields.lookup key = some v → ¬ Fits key v →
    ∃ p ∈ complaints fields key, p.place.head? = some (.field key)

theorem problems_nonEmptyText (v : Json) : (nonEmptyText v).problems = textProblems v := by
  cases v with
  | str s =>
    by_cases half : Text.hasHalf s = true
    · simp [nonEmptyText, text, andThen, textProblems, half, fault, problems]
    · by_cases none : s = "" <;>
        simp [nonEmptyText, text, andThen, textProblems, half, none, fault, problems]
  | _ => rfl

theorem problems_itemsFrom (start : Nat) (items : List Json) :
    (itemsFrom text start items).problems = oddItems start items := by
  induction items generalizing start with
  | nil => rfl
  | cons item items ih =>
    simp only [itemsFrom, problems_seq, problems_map, problems_under, ih]
    cases item <;> simp [text, fault, problems, oddItems, isText]

theorem texts_of_oddItems {start : Nat} {items : List Json} (none : oddItems start items = []) :
    ∃ texts : List String, items = texts.map .str := by
  induction items generalizing start with
  | nil => exact ⟨[], rfl⟩
  | cons item items ih =>
    cases item with
    | str s =>
      obtain ⟨texts, rfl⟩ := @ih (start + 1) (by simpa [oddItems, isText] using none)
      exact ⟨s :: texts, rfl⟩
    | _ => simp [oddItems, isText] at none

theorem problems_targets (v : Json) : (targets v).problems = targetProblems v := by
  cases v with
  | arr items =>
    by_cases odd : oddItems 0 items = []
    · obtain ⟨texts, rfl⟩ := texts_of_oddItems odd
      have listed : list text (.arr (texts.map .str)) = .good texts :=
        (list_good text_good).2 (isTexts_iff.2 rfl)
      have blank : (∀ item ∈ texts.map Json.str, ∀ t ∈ (text item).value?, Text.Blank t) ↔
          cleanTargets texts = [] := by
        simp [cleanTargets_eq_nil_iff, text, value?]
      rw [targets, listed, andThen, targetProblems, if_neg (not_not.2 odd)]
      simp only [blank, List.map_eq_nil_iff, List.isEmpty_iff]
      split
      · rfl
      · split <;> rfl
    · have listed : list text (.arr items) = .bad (oddItems 0 items) := by
        rw [← problems_itemsFrom]
        refine problems_of_bad fun texts isTexts => odd ?_
        rw [← problems_itemsFrom]
        exact congrArg problems isTexts
      rw [targets, listed, targetProblems, if_pos odd]
      rfl
  | _ => rfl

theorem problems_withDefault {α : Type} {read : Json → Checked α} (key : String) (a : α)
    (fields : List (String × Json))
    (tells : ∀ v, (read v).problems = if key = "full_targets" then targetProblems v
      else textProblems v) :
    (withDefault key read a fields).problems = complaints fields key := by
  unfold withDefault complaints
  cases fields.lookup key with
  | none => rfl
  | some v => rw [problems_under, tells]

theorem problems_noOthers : (noOthers fieldNames fields).problems = strangers fields := by
  unfold noOthers strangers
  simp only [List.contains_eq_mem, decide_not]
  split
  · rename_i none
    rw [none]
    rfl
  · rfl

theorem problems_ofFields : (ofFields absent fields).problems =
    fieldNames.flatMap (complaints fields) ++ strangers fields := by
  have label := problems_withDefault "approved_label" absent.approvedLabel fields
    problems_nonEmptyText
  have bot := problems_withDefault "bot" absent.bot fields problems_nonEmptyText
  have fast := problems_withDefault "fast_target" absent.fastTarget fields problems_nonEmptyText
  have full := problems_withDefault "full_targets" absent.fullTargets fields problems_targets
  simp only [ofFields, problems_seqLeft, problems_seq, problems_map, label, bot, fast, full,
    problems_noOthers]
  simp [fieldNames]

theorem textProblems_ne_nil (notText : ¬ ∃ s, IsNonEmptyText v s) : textProblems v ≠ [] := by
  cases v with
  | str s =>
    rw [textProblems]
    by_cases half : Text.hasHalf s = true
    · simp [half]
    · by_cases empty : s = ""
      · simp [empty]
      · exact absurd ⟨s, rfl, empty, Bool.eq_false_iff.2 half⟩ notText
  | _ => simp [textProblems]

theorem targetProblems_ne_nil (noTargets : ¬ ∃ kept, IsTargets v kept) : targetProblems v ≠ [] := by
  cases v with
  | arr items =>
    rw [targetProblems]
    by_cases odd : oddItems 0 items = []
    · rw [if_neg (not_not.2 odd)]
      obtain ⟨texts, rfl⟩ := texts_of_oddItems odd
      split
      · simp
      · rw [if_pos]
        · simp
        · rintro item inside t isThat
          obtain ⟨s, there, rfl⟩ := List.mem_map.1 inside
          obtain rfl : s = t := by simpa [text, value?] using isThat
          by_contra some
          exact noTargets ⟨_, texts, rfl, ⟨s, there, some⟩, rfl⟩
    · rwa [if_pos odd]
  | _ => simp [targetProblems]

/-- A value that does not fit is complained of, at its field. -/
theorem complaints_of_misfit (given : fields.lookup key = some v) (misfit : ¬ Fits key v) :
    ∃ p ∈ complaints fields key, p.place.head? = some (.field key) := by
  have wrong : (if key = "full_targets" then targetProblems v else textProblems v) ≠ [] := by
    unfold Fits at misfit
    split
    · rename_i isTargets
      rw [if_pos isTargets] at misfit
      exact targetProblems_ne_nil misfit
    · rename_i notTargets
      rw [if_neg notTargets] at misfit
      exact textProblems_ne_nil misfit
  obtain ⟨p, inside⟩ := List.exists_mem_of_ne_nil _ wrong
  refine ⟨⟨.field key :: p.place, p.fault⟩, ?_, rfl⟩
  rw [complaints, given]
  exact List.mem_map_of_mem inside

/-- Fields of which nothing is complained are accepted. -/
theorem accepted_of_no_problems (none : (ofFields absent fields).problems = []) :
    Accepted fields := by
  rw [problems_ofFields, List.append_eq_nil_iff] at none
  obtain ⟨noComplaints, noStrangers⟩ := none
  constructor
  · simpa [strangers, List.filter_eq_nil_iff] using noStrangers
  · intro key named v given
    by_contra misfit
    obtain ⟨p, inside, -⟩ := complaints_of_misfit given misfit
    rw [List.flatMap_eq_nil_iff.1 noComplaints key named] at inside
    exact List.not_mem_nil inside

theorem refused_of_error {refusal : Refusal} (refuses : read settings fields = .error refusal) :
    Refused fields refusal := by
  have notGood : ∀ config, ofFields (ofSettings settings) fields ≠ .good config := by
    intro config good
    rw [read, good] at refuses
    nomatch refuses
  have bad := problems_of_bad notGood
  rw [read, bad] at refuses
  obtain rfl := (Except.error.inj refuses).symm
  refine ⟨rfl, problems_ofFields, ?_,
    fun key named v given misfit => complaints_of_misfit given misfit⟩
  -- of accepted fields a configuration would be made
  intro none
  have accepted : Accepted fields := accepted_of_no_problems none
  obtain ⟨config, stands⟩ : ∃ config, Stands (ofSettings settings) fields config :=
    exists_stands_iff.2 accepted
  exact notGood config (ofFields_good.2 stands)

/-- The values that a configuration has for the fields that a caller gave. -/
def kept (config : TriggerConfig) (fields : List (String × Json)) : List (String × Json) :=
  config.namedValues.values.filter fun value => (fields.lookup value.1).isSome

/-- A target that is not blank, without blanks at its ends. -/
def IsCleanTarget (t : String) : Prop := ¬ Text.Blank t ∧ Text.strip t = t

theorem isCleanTarget_strip {t : String} (some : ¬ Text.Blank t) :
    IsCleanTarget (Text.strip t) := by
  refine ⟨?_, Text.strip_strip t⟩
  rwa [← Text.strip_eq_empty_iff, Text.strip_strip, Text.strip_eq_empty_iff]

/-- Targets that are kept are clean, and there are some. -/
theorem IsTargets.clean {targets : List String} (isTargets : IsTargets v targets) :
    targets ≠ [] ∧ ∀ t ∈ targets, IsCleanTarget t := by
  obtain ⟨texts, -, ⟨t, there, some⟩, rfl⟩ := isTargets
  have left : t ∈ texts.filter fun t => ¬ Text.Blank t := by
    simp [there, some]
  refine ⟨List.ne_nil_of_mem (List.mem_map_of_mem left), ?_⟩
  rintro s inside
  obtain ⟨u, among, rfl⟩ := List.mem_map.1 inside
  exact isCleanTarget_strip (by simpa using (List.mem_filter.1 among).2)

theorem isTargets_of_clean {targets : List String} (some : targets ≠ [])
    (clean : ∀ t ∈ targets, IsCleanTarget t) : IsTargets (.arr (targets.map .str)) targets := by
  obtain ⟨t, there⟩ := List.exists_mem_of_ne_nil targets some
  refine ⟨targets, rfl, ⟨t, there, (clean t there).1⟩, ?_⟩
  have all : (targets.filter fun t => ¬ Text.Blank t) = targets :=
    List.filter_eq_self.2 fun t inside => by simpa using (clean t inside).1
  have same : targets.map Text.strip = targets.map id :=
    List.map_congr_left fun t inside => (clean t inside).2
  rw [all, same, List.map_id]

theorem lookup_filter_keys (values fields : List (String × Json)) (key : String) :
    (values.filter fun value => (fields.lookup value.1).isSome).lookup key =
      if (fields.lookup key).isSome then values.lookup key else none := by
  induction values with
  | nil => simp
  | cons value values ih =>
    obtain ⟨name, v⟩ := value
    by_cases here : key = name
    · subst here
      by_cases given : (fields.lookup key).isSome
      · simp [given]
      · simp [given, ih]
    · have other : (key == name) = false := by simpa using here
      by_cases given : (fields.lookup name).isSome
      · simp [given, List.lookup_cons, other, ih]
      · simp [given, List.lookup_cons, other, ih]

/-- A field whose value was kept still stands for it. -/
theorem holdsOr_kept {α : Type} {a b : α} {is : Json → α → Prop} {again : List (String × Json)}
    (write : α → Json) (keeps : ∀ v, is v b → is (write b) b) (holds : HoldsOr a key is fields b)
    (found : again.lookup key = if (fields.lookup key).isSome then some (write b) else none) :
    HoldsOr a key is again b := by
  rcases holds with ⟨absent, rfl⟩ | ⟨v, given, isThat⟩
  · rw [absent] at found
    exact .inl ⟨found, rfl⟩
  · rw [given] at found
    exact .inr ⟨write b, found, keeps v isThat⟩

/-- A configuration is made of what was kept of the values that made it. -/
theorem Stands.again (stands : Stands absent fields config) :
    Stands absent (config.kept fields) config := by
  have text {s : String} : ∀ v, IsNonEmptyText v s → IsNonEmptyText (.str s) s :=
    fun v isText => ⟨rfl, isText.2⟩
  have targets {kept : List String} :
      ∀ v, IsTargets v kept → IsTargets (.arr (kept.map .str)) kept :=
    fun v isTargets => isTargets_of_clean isTargets.clean.1 isTargets.clean.2
  have found (key : String) := lookup_filter_keys config.namedValues.values fields key
  refine ⟨?_, ?_, ?_, ?_, ?_⟩
  · intro field inside
    have named : field ∈ config.namedValues.values := List.mem_of_mem_filter inside
    simp only [namedValues, List.mem_cons, List.not_mem_nil, or_false] at named
    rcases named with rfl | rfl | rfl | rfl <;> simp [fieldNames]
  · exact holdsOr_kept .str text stands.approvedLabel (found "approved_label")
  · exact holdsOr_kept .str text stands.bot (found "bot")
  · exact holdsOr_kept .str text stands.fastTarget (found "fast_target")
  · exact holdsOr_kept (fun kept => .arr (kept.map .str)) targets stands.fullTargets
      (found "full_targets")

/-- What a caller gives for a configuration is checked exactly.

A configuration is made just when every name is that of a field and every value fits its field. It
keeps the values that were given, of the targets those that are not blank, without the blanks around
them, and its own values make it again. What is refused is told in full: what is wrong with the
fields in their order, at least one problem for each value that does not fit, and then each name
that is that of no field. -/
theorem given_values_checked (settings : Settings) (fields : List (String × Json)) :
    ((∃ config, read settings fields = .ok config) ↔ Accepted fields) ∧
      (∀ config, read settings fields = .ok config ↔
        Stands (ofSettings settings) fields config) ∧
      (∀ config, read settings fields = .ok config →
        read settings (config.kept fields) = .ok config) ∧
      ∀ refusal, read settings fields = .error refusal → Refused fields refusal := by
  refine ⟨?_, fun config => read_ok_iff, ?_, fun refusal refuses => refused_of_error refuses⟩
  · simp only [read_ok_iff]
    exact exists_stands_iff
  · intro config reads
    exact read_ok_iff.2 (read_ok_iff.1 reads).again

def exampleSettings : Settings where
  webhookSecret := none
  privateKey := none
  appId := none
  token := none
  logThreshold := .severity 30
  allowlist := none
  telegramToken := none
  telegramChat := none
  tokenLifetime := .finite false 300 0
  dryRun := false
  host := "0.0.0.0"
  port := 8080
  approvedLabel := "approved"
  bot := "@slab-ci"
  fastTarget := "cpu_fast_test"
  fullTargets := ["cpu_test"]

def exampleGiven : List (String × Json) :=
  [("full_targets", .arr [.str " cpu test ", .str "", .str "\t", .str "gpu_test\n"]),
    ("bot", .str "@ci")]

def exampleMisfits : List (String × Json) :=
  [("targets", .null), ("full_targets", .arr [.str "cpu_test", .int 3, .null]), ("bot", .str ""),
    ("label", .str "approved"), ("approved_label", .bool true)]

/-- Targets are kept without blanks and stay as they were kept; of misfits all problems are told, in
the order of the fields. -/
theorem targets_and_misfits_checked :
    let config : TriggerConfig := ⟨"approved", "@ci", "cpu_fast_test", ["cpu test", "gpu_test"]⟩
    Accepted exampleGiven ∧ read exampleSettings exampleGiven = .ok config ∧
      config.kept exampleGiven =
        [("bot", .str "@ci"), ("full_targets", .arr [.str "cpu test", .str "gpu_test"])] ∧
      read exampleSettings (config.kept exampleGiven) = .ok config ∧
      ∃ refusal, read exampleSettings exampleMisfits = .error refusal ∧ refusal.problems =
        [⟨[.field "approved_label"], .notText⟩, ⟨[.field "bot"], .emptyText⟩,
          ⟨[.field "full_targets", .item 1], .notText⟩,
          ⟨[.field "full_targets", .item 2], .notText⟩,
          ⟨[.field "targets"], .unknownField⟩, ⟨[.field "label"], .unknownField⟩] := by
  intro config
  obtain ⟨accepts, -, again, -⟩ := given_values_checked exampleSettings exampleGiven
  obtain ⟨-, -, -, refuses⟩ := given_values_checked exampleSettings exampleMisfits
  have reads : read exampleSettings exampleGiven = .ok config := rfl
  refine ⟨accepts.1 ⟨config, reads⟩, reads, rfl, again config reads, _, rfl, ?_⟩
  exact (refuses _ rfl).problems

/-- Half of a surrogate pair is a text that is not empty, and yet it is refused as a bot. -/
theorem half_of_pair_refused :
    let half := String.singleton (Text.charOfCode 0xD83D)
    half ≠ "" ∧ ¬ (∃ config, read exampleSettings [("bot", .str half)] = .ok config) ∧
      read exampleSettings [("bot", .str half)] =
        .error ⟨recordName, [⟨[.field "bot"], .notUnicode⟩]⟩ := by
  intro half
  have refuses : read exampleSettings [("bot", .str half)] =
      .error ⟨recordName, [⟨[.field "bot"], .notUnicode⟩]⟩ := by decide +kernel
  refine ⟨by decide +kernel, ?_, refuses⟩
  rintro ⟨config, reads⟩
  rw [refuses] at reads
  nomatch reads

end TriggerConfig

end SuiteTrigger
