import SuiteTrigger.Proofs.Payloads

namespace SuiteTrigger

namespace Text

theorem splitOn_eq (separator : Char) (cs : List Char) :
    splitOn separator cs = cs.splitOn separator := by
  induction cs with
  | nil => rfl
  | cons c rest ih =>
    have cut : (c :: rest).splitOn separator =
        if c = separator then [] :: rest.splitOn separator
        else (rest.splitOn separator).modifyHead (List.cons c) := by
      simp [List.splitOn, List.splitOnP_cons_eq_if_modifyHead]
    rw [splitOn, ih, cut]
    by_cases ends : c = separator
    · rw [if_pos ends, if_pos ends]
    · rw [if_neg ends, if_neg ends]
      cases parts : rest.splitOn separator with
      | nil => exact absurd (ih.trans parts) (splitOn_ne_nil separator rest)
      | cons part parts => rfl

/-- Parts that are joined by commas are what a cut at the commas gives, when there is a part and
none holds a comma. -/
theorem split_intercalate {parts : List String} (some : parts ≠ [])
    (free : ∀ part ∈ parts, ',' ∉ part.toList) : split ',' (",".intercalate parts) = parts := by
  have joined : (",".intercalate parts).toList = [','].intercalate (parts.map String.toList) :=
    String.toList_intercalate
  rw [split, joined, splitOn_eq, List.splitOn_intercalate]
  · simp
  · simpa using free
  · simpa using some

end Text

/-- The full names of the private repositories that are served. -/
def Settings.listed (settings : Settings) : List String := settings.allowlist.getD []

/-- The environment lists names: one variable holds them with commas between them, and is not set
when there is none. -/
def Environment.Lists (env : Environment) (names : List String) : Prop :=
  env.lookup "REPO_ALLOWLIST" = if names = [] then none else some (",".intercalate names)

theorem allowlist_eq {env : Environment} {settings : Settings}
    (loads : Settings.ofEnvironment env = .ok settings) :
    settings.allowlist = (env.lookup "REPO_ALLOWLIST").map (Text.split ',') := by
  obtain ⟨appId, -, loads⟩ := bind_eq_ok.1 loads
  obtain ⟨lifetime, -, loads⟩ := bind_eq_ok.1 loads
  obtain ⟨port, -, loads⟩ := bind_eq_ok.1 loads
  cases loads
  rfl

/-- Settings list the names that the environment lists. -/
theorem listed_eq {env : Environment} {settings : Settings} {names : List String}
    (loads : Settings.ofEnvironment env = .ok settings) (lists : env.Lists names)
    (free : ∀ name ∈ names, ',' ∉ name.toList) : settings.listed = names := by
  rw [Settings.listed, allowlist_eq loads, lists]
  by_cases none : names = []
  · rw [if_pos none, none]
    rfl
  · rw [if_neg none, Option.map_some, Text.split_intercalate none free]
    rfl

/-- A repository is private, and its full name is none of some names. -/
def Repository.Hidden (names : List String) (r : Repository) : Prop :=
  r.isPrivate = some true ∧ ∀ name ∈ names, r.fullName ≠ some name

instance (names : List String) (r : Repository) : Decidable (r.Hidden names) :=
  inferInstanceAs (Decidable (_ ∧ _))

theorem serves_iff {settings : Settings} {repository : Repository} :
    settings.serves repository = true ↔ ¬ repository.Hidden settings.listed := by
  unfold Settings.serves Repository.Hidden Settings.listed
  by_cases isPrivate : repository.isPrivate = some true
  · cases settings.allowlist <;> cases repository.fullName <;> simp [isPrivate, eq_comm]
  · simp [isPrivate]

/-- The repository of a delivery is hidden to those who may not see beyond some names. -/
def Delivery.Withheld (names : List String) (d : Delivery) : Prop :=
  ∃ repository ∈ d.repository?, repository.Hidden names

instance (names : List String) (d : Delivery) : Decidable (d.Withheld names) :=
  inferInstanceAs (Decidable (∃ repository ∈ d.repository?, repository.Hidden names))

end SuiteTrigger
