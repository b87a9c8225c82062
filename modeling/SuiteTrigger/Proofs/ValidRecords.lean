import Mathlib.Data.List.Forall2
import SuiteTrigger.Resource

/-!
# What records hold

A value is read as a record when it is an object whose fields hold what the record asks for. What
that is stands here without the order in which the fields are read: one relation for each kind of
value and for each record, and for each that it is what reading accepts (`Repository.read_ok`,
`PullRequest.read_ok`, `Review.read_ok`). A record that is written as an object of all its fields is
read as the same record again (`Repository.read_toJson` and the others).
-/

namespace SuiteTrigger

namespace Checked

variable {α β : Type}

theorem map_good {f : α → β} {x : Checked α} {b : β} :
    f <$> x = .good b ↔ ∃ a, x = .good a ∧ f a = b := by
  cases x <;> simp [Functor.map, seq]

theorem seq_good {f : Checked (α → β)} {x : Checked α} {b : β} :
    f <*> x = .good b ↔ ∃ g a, f = .good g ∧ x = .good a ∧ g a = b := by
  cases f <;> cases x <;> simp [Seq.seq, seq]

theorem under_good {place : Place} {x : Checked α} {a : α} :
    x.under place = .good a ↔ x = .good a := by
  cases x <;> simp [under]

theorem toExcept_ok {record : String} {x : Checked α} {a : α} :
    x.toExcept record = .ok a ↔ x = .good a := by
  cases x <;> simp [toExcept]

end Checked

namespace Reading

/-- The integer that a value stands for: a number without fraction, which fits a word when it is not
written as an integer, a truth value, or the text of a numeral. -/
inductive IsInteger : Json → Int → Prop
  | number (n : Int) : IsInteger (.int n) n
  | truth (b : Bool) : IsInteger (.bool b) (if b then 1 else 0)
  | whole {x : Double} {n : Int} (equals : x.toInt? = some n) (above : -wordLimit < n)
      (below : n < wordLimit) : IsInteger (.float x) n
  | numeral {s : String} {n : Int} (spells : IntegerText.read s.toList = .ok n) :
      IsInteger (.str s) n

/-- The truth value that a value stands for: itself, one or zero, or one of a few words in any case
of its letters. -/
inductive IsBoolean : Json → Bool → Prop
  | truth (b : Bool) : IsBoolean (.bool b) b
  | number (b : Bool) : IsBoolean (.int (if b then 1 else 0)) b
  | whole {x : Double} {b : Bool} (equals : x.toInt? = some (if b then 1 else 0)) :
      IsBoolean (.float x) b
  | word {s : String} {b : Bool}
      (listed : asciiLower s ∈ if b then trueWords else falseWords) : IsBoolean (.str s) b

/-- The text that a value is. -/
def IsText (v : Json) (s : String) : Prop := v = .str s

/-- The one of some texts that a value is. -/
def IsOneOf (choices : List String) (v : Json) (s : String) : Prop := v = .str s ∧ s ∈ choices

theorem integerOfDouble_ok {x : Double} {n : Int} :
    integerOfDouble x = .ok n ↔ x.toInt? = some n ∧ -wordLimit < n ∧ n < wordLimit := by
  unfold integerOfDouble
  cases x with
  | finite negative significand exponent =>
    cases whole : (Double.finite negative significand exponent).toInt? with
    | none => simp [Double.isFinite]
    | some k =>
      simp only [Double.isFinite, Bool.not_true, Bool.false_eq_true, if_false, Option.some.injEq]
      split
      · rename_i fits
        constructor
        · rintro ⟨⟩
          exact ⟨rfl, fits⟩
        · rintro ⟨rfl, -⟩
          rfl
      · rename_i huge
        constructor
        · nofun
        · rintro ⟨rfl, fits⟩
          exact absurd fits huge
  | _ => simp [Double.isFinite, Double.toInt?]

theorem integer_good {v : Json} {n : Int} : integer v = .good n ↔ IsInteger v n := by
  constructor
  · intro reads
    cases v with
    | int k =>
      cases reads
      exact .number _
    | bool b =>
      cases reads
      exact .truth b
    | float x =>
      rw [integer] at reads
      split at reads
      · rename_i k exact
        cases reads
        obtain ⟨equals, above, below⟩ := integerOfDouble_ok.1 exact
        exact .whole equals above below
      · nomatch reads
    | str s =>
      rw [integer] at reads
      split at reads
      · rename_i k spells
        cases reads
        exact .numeral spells
      · nomatch reads
      · nomatch reads
    | _ => nomatch reads
  · rintro (_ | _ | ⟨equals, above, below⟩ | spells)
    · rfl
    · rfl
    · rw [integer, integerOfDouble_ok.2 ⟨equals, above, below⟩]
    · rw [integer, spells]

theorem booleanOfInt_good {n : Int} {b : Bool} :
    booleanOfInt n = .good b ↔ n = if b then 1 else 0 := by
  unfold booleanOfInt
  split
  · rename_i zero
    cases b <;> simp [zero]
  · split
    · rename_i one
      cases b <;> simp [one]
    · rename_i notZero notOne
      cases b <;> simp [notZero, notOne, Checked.fault]

theorem words_apart : ∀ word ∈ trueWords, word ∉ falseWords := by decide

theorem boolean_good {v : Json} {b : Bool} : boolean v = .good b ↔ IsBoolean v b := by
  constructor
  · intro reads
    cases v with
    | int n =>
      rw [boolean] at reads
      split at reads
      · rw [booleanOfInt_good.1 reads]
        exact .number b
      · nomatch reads
    | bool c =>
      cases reads
      exact .truth _
    | float x =>
      rw [boolean] at reads
      split at reads
      · rename_i n exact
        rw [booleanOfInt_good.1 reads] at exact
        exact .whole (integerOfDouble_ok.1 exact).1
      · nomatch reads
    | str s =>
      rw [boolean] at reads
      split at reads
      · rename_i listed
        cases reads
        exact .word (by simpa using listed)
      · split at reads
        · rename_i listed
          cases reads
          exact .word (by simpa using listed)
        · nomatch reads
    | _ => nomatch reads
  · rintro (_ | _ | equals | listed)
    · rfl
    · cases b <;> rfl
    · have fits : integerOfDouble _ = .ok (if b then 1 else 0) :=
        integerOfDouble_ok.2 ⟨equals, by cases b <;> decide⟩
      rw [boolean, fits]
      exact booleanOfInt_good.2 rfl
    · rw [boolean]
      cases b with
      | false => rw [if_pos (by simpa using listed)]
      | true =>
        rw [if_neg (by simpa using words_apart _ listed), if_pos (by simpa using listed)]

theorem text_good {v : Json} {s : String} : text v = .good s ↔ IsText v s := by
  cases v <;> simp [text, IsText, Checked.fault]

theorem oneOf_good {choices : List String} {v : Json} {s : String} :
    oneOf choices v = .good s ↔ IsOneOf choices v s := by
  unfold oneOf IsOneOf
  cases v with
  | str t =>
    dsimp only
    split
    · rename_i listed
      constructor
      · rintro ⟨⟩
        exact ⟨rfl, by simpa using listed⟩
      · rintro ⟨same, -⟩
        cases same
        rfl
    · rename_i missing
      constructor
      · nofun
      · rintro ⟨same, listed⟩
        cases same
        exact absurd (by simpa using listed) missing
  | _ => simp [Checked.fault]

section Fields

variable {α : Type}

/-- A field is there and stands for `a`. -/
def Holds (key : String) (is : Json → α → Prop) (fields : List (String × Json)) (a : α) : Prop :=
  ∃ v, fields.lookup key = some v ∧ is v a

/-- A field stands for a value, or it is absent or null. -/
def MayHold (key : String) (is : Json → α → Prop) (fields : List (String × Json)) :
    Option α → Prop
  | none => fields.lookup key = none ∨ fields.lookup key = some .null
  | some a => ∃ v, fields.lookup key = some v ∧ v ≠ .null ∧ is v a

/-- A field stands for `a`, or it is absent and `a` stands in for it. -/
def HoldsOr (absent : α) (key : String) (is : Json → α → Prop) (fields : List (String × Json))
    (a : α) : Prop :=
  fields.lookup key = none ∧ a = absent ∨ Holds key is fields a

def IsList (is : Json → α → Prop) (v : Json) (as : List α) : Prop :=
  ∃ items, v = .arr items ∧ List.Forall₂ is items as

variable {key : String} {read : Json → Checked α} {is : Json → α → Prop}
  {fields : List (String × Json)} {a : α}

theorem required_good (reads : ∀ {v a}, read v = .good a ↔ is v a) :
    required key read fields = .good a ↔ Holds key is fields a := by
  unfold required Holds
  cases fields.lookup key with
  | none => simp
  | some v => simp [Checked.under_good, reads]

theorem withDefault_good {absent : α} (reads : ∀ {v a}, read v = .good a ↔ is v a) :
    withDefault key read absent fields = .good a ↔ HoldsOr absent key is fields a := by
  unfold withDefault HoldsOr Holds
  cases fields.lookup key with
  | none => simp [eq_comm]
  | some v => simp [Checked.under_good, reads]

theorem optional_good {a? : Option α} (reads : ∀ {v a}, read v = .good a ↔ is v a) :
    optional key read fields = .good a? ↔ MayHold key is fields a? := by
  unfold optional
  split
  · rename_i absent
    cases a? <;> simp [MayHold, absent]
  · rename_i null
    cases a? <;> simp [MayHold, null]
  · rename_i v notNull found
    have other : v ≠ .null := notNull
    rw [Checked.under_good, Checked.map_good]
    cases a? <;> simp [MayHold, found, other, reads]

theorem itemsFrom_good (reads : ∀ {v a}, read v = .good a ↔ is v a) {start : Nat}
    {items : List Json} {as : List α} :
    Checked.itemsFrom read start items = .good as ↔ List.Forall₂ is items as := by
  induction items generalizing start as with
  | nil => cases as <;> simp [Checked.itemsFrom]
  | cons item items ih =>
    simp only [Checked.itemsFrom, Checked.seq_good, Checked.map_good, Checked.under_good, reads, ih]
    constructor
    · rintro ⟨_, rest, ⟨a, first, rfl⟩, others, rfl⟩
      exact .cons first others
    · rintro (_ | ⟨first, others⟩)
      exact ⟨_, _, ⟨_, first, rfl⟩, others, rfl⟩

theorem list_good (reads : ∀ {v a}, read v = .good a ↔ is v a) {v : Json} {as : List α} :
    list read v = .good as ↔ IsList is v as := by
  unfold IsList
  cases v with
  | arr items => simp [list, itemsFrom_good reads]
  | _ => simp [list, Checked.fault]

theorem record_good {name : String} {members : List (String × Json) → Checked α} {v : Json} :
    record name members v = .good a ↔ ∃ fields, v = .obj fields ∧ members fields = .good a := by
  cases v <;> simp [record, Checked.fault]

end Fields

end Reading

open Reading

/-- A value is an object with the fields of a repository. -/
inductive Repository.Valid : Json → Repository → Prop
  | intro {fields : List (String × Json)} {r : Repository}
      (id : Holds "id" IsInteger fields r.id)
      (name : Holds "name" IsText fields r.name)
      (fullName : MayHold "full_name" IsText fields r.fullName)
      (url : Holds "url" IsText fields r.url)
      (htmlUrl : MayHold "html_url" IsText fields r.htmlUrl)
      (isPrivate : MayHold "private" IsBoolean fields r.isPrivate) : Valid (.obj fields) r

theorem Repository.read_ok {v : Json} {r : Repository} :
    Repository.read v = .ok r ↔ Repository.Valid v r := by
  simp only [Repository.read, Checked.toExcept_ok, Repository.check, record_good,
    Repository.ofFields, Checked.seq_good, Checked.map_good, required_good integer_good,
    required_good text_good, optional_good text_good, optional_good boolean_good]
  constructor
  · rintro ⟨fields, rfl, _, _, ⟨_, _, ⟨_, _, ⟨_, _, ⟨_, _, ⟨_, id, rfl⟩, name, rfl⟩, fullName, rfl⟩,
      url, rfl⟩, htmlUrl, rfl⟩, isPrivate, rfl⟩
    exact .intro id name fullName url htmlUrl isPrivate
  · rintro ⟨id, name, fullName, url, htmlUrl, isPrivate⟩
    exact ⟨_, rfl, _, _, ⟨_, _, ⟨_, _, ⟨_, _, ⟨_, _, ⟨_, id, rfl⟩, name, rfl⟩, fullName, rfl⟩,
      url, rfl⟩, htmlUrl, rfl⟩, isPrivate, rfl⟩

/-- A value is an object with the fields of a label. -/
inductive Label.Valid : Json → Label → Prop
  | intro {fields : List (String × Json)} {l : Label}
      (name : Holds "name" IsText fields l.name)
      (id : MayHold "id" IsInteger fields l.id)
      (color : MayHold "color" IsText fields l.color) : Valid (.obj fields) l

theorem Label.check_good {v : Json} {l : Label} : Label.check v = .good l ↔ Label.Valid v l := by
  simp only [Label.check, record_good, Label.ofFields, Checked.seq_good, Checked.map_good,
    required_good text_good, optional_good integer_good, optional_good text_good]
  constructor
  · rintro ⟨fields, rfl, _, _, ⟨_, _, ⟨_, name, rfl⟩, id, rfl⟩, color, rfl⟩
    exact .intro name id color
  · rintro ⟨name, id, color⟩
    exact ⟨_, rfl, _, _, ⟨_, _, ⟨_, name, rfl⟩, id, rfl⟩, color, rfl⟩

/-- A value is an object with the fields of one end of a pull request. -/
inductive Branch.Valid : Json → Branch → Prop
  | intro {fields : List (String × Json)} {b : Branch}
      (ref : Holds "ref" IsText fields b.ref)
      (sha : Holds "sha" IsText fields b.sha) : Valid (.obj fields) b

theorem Branch.check_good {v : Json} {b : Branch} :
    Branch.check v = .good b ↔ Branch.Valid v b := by
  simp only [Branch.check, record_good, Branch.ofFields, Checked.seq_good, Checked.map_good,
    required_good text_good]
  constructor
  · rintro ⟨fields, rfl, _, _, ⟨_, ref, rfl⟩, sha, rfl⟩
    exact .intro ref sha
  · rintro ⟨ref, sha⟩
    exact ⟨_, rfl, _, _, ⟨_, ref, rfl⟩, sha, rfl⟩

/-- A value is an object with the fields of a pull request; its labels may be left out. -/
inductive PullRequest.Valid : Json → PullRequest → Prop
  | intro {fields : List (String × Json)} {p : PullRequest}
      (id : MayHold "id" IsInteger fields p.id)
      (number : Holds "number" IsInteger fields p.number)
      (state : MayHold "state" (IsOneOf PullRequest.states) fields p.state)
      (head : MayHold "head" Branch.Valid fields p.head)
      (labels : HoldsOr [] "labels" (IsList Label.Valid) fields p.labels)
      (htmlUrl : MayHold "html_url" IsText fields p.htmlUrl) : Valid (.obj fields) p

theorem PullRequest.read_ok {v : Json} {p : PullRequest} :
    PullRequest.read v = .ok p ↔ PullRequest.Valid v p := by
  simp only [PullRequest.read, Checked.toExcept_ok, PullRequest.check, record_good,
    PullRequest.ofFields, Checked.seq_good, Checked.map_good, optional_good integer_good,
    required_good integer_good, optional_good oneOf_good, optional_good Branch.check_good,
    withDefault_good (list_good Label.check_good), optional_good text_good]
  constructor
  · rintro ⟨fields, rfl, _, _, ⟨_, _, ⟨_, _, ⟨_, _, ⟨_, _, ⟨_, id, rfl⟩, number, rfl⟩, state, rfl⟩,
      head, rfl⟩, labels, rfl⟩, htmlUrl, rfl⟩
    exact .intro id number state head labels htmlUrl
  · rintro ⟨id, number, state, head, labels, htmlUrl⟩
    exact ⟨_, rfl, _, _, ⟨_, _, ⟨_, _, ⟨_, _, ⟨_, _, ⟨_, id, rfl⟩, number, rfl⟩, state, rfl⟩,
      head, rfl⟩, labels, rfl⟩, htmlUrl, rfl⟩

/-- A value is an object with the fields of a review. -/
inductive Review.Valid : Json → Review → Prop
  | intro {fields : List (String × Json)} {r : Review}
      (id : MayHold "id" IsInteger fields r.id)
      (state : Holds "state" IsText fields r.state)
      (commitId : MayHold "commit_id" IsText fields r.commitId)
      (htmlUrl : MayHold "html_url" IsText fields r.htmlUrl) : Valid (.obj fields) r

theorem Review.read_ok {v : Json} {r : Review} : Review.read v = .ok r ↔ Review.Valid v r := by
  simp only [Review.read, Checked.toExcept_ok, Review.check, record_good, Review.ofFields,
    Checked.seq_good, Checked.map_good, optional_good integer_good, required_good text_good,
    optional_good text_good]
  constructor
  · rintro ⟨fields, rfl, _, _, ⟨_, _, ⟨_, _, ⟨_, id, rfl⟩, state, rfl⟩, commitId, rfl⟩, htmlUrl,
      rfl⟩
    exact .intro id state commitId htmlUrl
  · rintro ⟨id, state, commitId, htmlUrl⟩
    exact ⟨_, rfl, _, _, ⟨_, _, ⟨_, _, ⟨_, id, rfl⟩, state, rfl⟩, commitId, rfl⟩, htmlUrl, rfl⟩

theorem Repository.read_toJson (r : Repository) : Repository.read r.toJson = .ok r := by
  obtain ⟨id, name, fullName, url, htmlUrl, isPrivate⟩ := r
  cases fullName <;> cases htmlUrl <;> cases isPrivate <;> rfl

theorem Label.read_toJson (l : Label) : Label.read l.toJson = .ok l := by
  obtain ⟨name, id, color⟩ := l
  cases id <;> cases color <;> rfl

theorem Branch.read_toJson (b : Branch) : Branch.read b.toJson = .ok b := rfl

theorem Review.read_toJson (r : Review) : Review.read r.toJson = .ok r := by
  obtain ⟨id, state, commitId, htmlUrl⟩ := r
  cases id <;> cases commitId <;> cases htmlUrl <;> rfl

theorem Comment.read_toJson (c : Comment) : Comment.read c.toJson = .ok c := by
  obtain ⟨id, body, htmlUrl⟩ := c
  cases htmlUrl <;> rfl

/-- A field that is written as null when there is no value stands for what was written. -/
theorem Reading.mayHold_ofOption {α : Type} {key : String} {is : Json → α → Prop}
    {fields : List (String × Json)} {write : α → Json} {a? : Option α}
    (found : fields.lookup key = some (.ofOption write a?))
    (stands : ∀ a, a? = some a → write a ≠ .null ∧ is (write a) a) : MayHold key is fields a? := by
  cases a? with
  | none => exact .inr found
  | some a => exact ⟨write a, found, stands a rfl⟩

/-- A pull request is read back when its state, if it has one, is one of the states. -/
theorem PullRequest.read_toJson {p : PullRequest} (listed : ∀ s, p.state = some s → s ∈ states) :
    PullRequest.read p.toJson = .ok p := by
  have labels : List.Forall₂ Label.Valid (p.labels.map Label.toJson) p.labels := by
    rw [List.forall₂_map_left_iff]
    exact List.forall₂_same.2 fun l _ =>
      Label.check_good.1 (Checked.toExcept_ok.1 (Label.read_toJson l))
  rw [PullRequest.read_ok]
  exact .intro (mayHold_ofOption rfl fun id _ => ⟨nofun, .number id⟩)
    ⟨_, rfl, .number p.number⟩
    (mayHold_ofOption rfl fun s is => ⟨nofun, rfl, listed s is⟩)
    (mayHold_ofOption rfl fun b _ => ⟨nofun, Branch.check_good.1 rfl⟩)
    (.inr ⟨_, rfl, _, rfl, labels⟩)
    (mayHold_ofOption rfl fun _ _ => ⟨nofun, rfl⟩)

end SuiteTrigger
