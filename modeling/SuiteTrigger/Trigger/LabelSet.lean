import SuiteTrigger.Text.Quoted

/-!
# Sets of labels

The labels on a pull request are a set of names. A set is kept as the list of its names in code
point order without repetition, so that two sets with the same members are equal.
-/

namespace SuiteTrigger

/-- A set of label names. -/
structure LabelSet where
  names : List String
  sorted : names.Pairwise (· < ·)
  deriving DecidableEq

namespace LabelSet

def empty : LabelSet := ⟨[], .nil⟩

instance : Inhabited LabelSet := ⟨empty⟩

instance : Membership String LabelSet := ⟨fun s name => name ∈ s.names⟩

instance (name : String) (s : LabelSet) : Decidable (name ∈ s) :=
  inferInstanceAs (Decidable (name ∈ s.names))

theorem mem_iff {name : String} {s : LabelSet} : name ∈ s ↔ name ∈ s.names := Iff.rfl

@[simp] theorem not_mem_empty (name : String) : name ∉ empty := by simp [mem_iff, empty]

/-- Puts a name at its place in a sorted list. -/
def insertSorted (name : String) : List String → List String
  | [] => [name]
  | other :: names =>
    if name = other then other :: names
    else if name < other then name :: other :: names
    else other :: insertSorted name names

theorem mem_insertSorted {x name : String} {names : List String} :
    x ∈ insertSorted name names ↔ x = name ∨ x ∈ names := by
  induction names with
  | nil => simp [insertSorted]
  | cons other names ih =>
    unfold insertSorted
    split
    · subst name; simp
    · split
      · simp
      · simp only [List.mem_cons, ih]; grind

theorem lt_of_not_lt {a b : String} (different : a ≠ b) (notBelow : ¬ a < b) : b < a := by
  have below : b ≤ a := String.not_lt.1 notBelow
  exact String.not_le.1 fun above => different (String.le_antisymm above below)

theorem pairwise_insertSorted {name : String} {names : List String}
    (sorted : names.Pairwise (· < ·)) : (insertSorted name names).Pairwise (· < ·) := by
  induction names with
  | nil => simp [insertSorted]
  | cons other names ih =>
    have parts := List.pairwise_cons.1 sorted
    unfold insertSorted
    split
    · exact sorted
    · rename_i different
      split
      · rename_i below
        refine List.pairwise_cons.2 ⟨fun x hx => ?_, sorted⟩
        rcases List.mem_cons.1 hx with rfl | hx
        · exact below
        · exact String.lt_trans below (parts.1 x hx)
      · rename_i notBelow
        refine List.pairwise_cons.2 ⟨fun x hx => ?_, ih parts.2⟩
        rcases mem_insertSorted.1 hx with rfl | hx
        · exact lt_of_not_lt different notBelow
        · exact parts.1 x hx

def insert (s : LabelSet) (name : String) : LabelSet :=
  ⟨insertSorted name s.names, pairwise_insertSorted s.sorted⟩

def erase (s : LabelSet) (name : String) : LabelSet :=
  ⟨s.names.filter (· ≠ name), s.sorted.filter _⟩

def insertMany (s : LabelSet) (names : List String) : LabelSet := names.foldl insert s

def ofList (names : List String) : LabelSet := empty.insertMany names

/-- A set in messages: the quoted names in their order. -/
def describe (s : LabelSet) : String :=
  "[" ++ ", ".intercalate (s.names.map Text.quote) ++ "]"

@[simp] theorem mem_insert {x name : String} {s : LabelSet} :
    x ∈ s.insert name ↔ x = name ∨ x ∈ s := mem_insertSorted

@[simp] theorem mem_erase {x name : String} {s : LabelSet} :
    x ∈ s.erase name ↔ x ∈ s ∧ x ≠ name := by
  simp [mem_iff, erase]

@[simp] theorem mem_insertMany {x : String} {names : List String} {s : LabelSet} :
    x ∈ s.insertMany names ↔ x ∈ names ∨ x ∈ s := by
  induction names generalizing s with
  | nil => simp [insertMany]
  | cons name names ih =>
    have step : s.insertMany (name :: names) = (s.insert name).insertMany names := rfl
    rw [step, ih, mem_insert, List.mem_cons]
    grind

@[simp] theorem mem_ofList {x : String} {names : List String} : x ∈ ofList names ↔ x ∈ names := by
  simp [ofList]

theorem nodup_of_sorted {names : List String} (sorted : names.Pairwise (· < ·)) : names.Nodup :=
  sorted.imp fun {a b} (below : a < b) (equal : a = b) => String.lt_irrefl b (equal ▸ below)

theorem ext {s t : LabelSet} (same : ∀ name, name ∈ s ↔ name ∈ t) : s = t := by
  obtain ⟨s, hs⟩ := s
  obtain ⟨t, ht⟩ := t
  have perm : s.Perm t :=
    (List.perm_ext_iff_of_nodup (nodup_of_sorted hs) (nodup_of_sorted ht)).2 same
  have equal : s = t := perm.eq_of_pairwise
    (fun a b _ _ hab hba => absurd (String.lt_trans hab hba) (String.lt_irrefl a)) hs ht
  subst equal
  rfl

/-- A set loses nothing when a name that is not in it is taken out. -/
theorem erase_of_not_mem {name : String} {s : LabelSet} (absent : name ∉ s) : s.erase name = s := by
  apply ext
  intro x
  rw [mem_erase]
  constructor
  · rintro ⟨inside, -⟩
    exact inside
  · intro inside
    refine ⟨inside, ?_⟩
    rintro rfl
    exact absent inside

end LabelSet

end SuiteTrigger
