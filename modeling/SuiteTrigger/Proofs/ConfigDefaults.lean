import SuiteTrigger.Pipeline.Handling
import SuiteTrigger.Proofs.ConfigChecks
import SuiteTrigger.Proofs.PrivateRepositories

/-!
# Configurations and the environment

Values that a caller gives for a configuration are checked. What the caller leaves out comes from
the environment, and that is not checked: a configuration is well formed (`WellFormed`) just when
the variables of the environment that it falls back to are (`Environment.Fills`). It has some target
in any case, and the comment that asks for a full run has a command for each target.
-/

namespace SuiteTrigger

namespace TriggerConfig

/-- A configuration of names that are not empty and of clean targets, of which there are some. -/
structure WellFormed (config : TriggerConfig) : Prop where
  approvedLabel : config.approvedLabel ≠ ""
  bot : config.bot ≠ ""
  fastTarget : config.fastTarget ≠ ""
  some : config.fullTargets ≠ []
  clean : ∀ t ∈ config.fullTargets, IsCleanTarget t

end TriggerConfig

open TriggerConfig Reading

/-- For each field that the caller leaves out, the variable of the environment is not set or holds
what a caller might give: a text that is not empty, or clean targets between commas. -/
structure Environment.Fills (env : Environment) (fields : List (String × Json)) : Prop where
  approvedLabel : fields.lookup "approved_label" = none → env.lookup "APPROVED_LABEL" ≠ some ""
  bot : fields.lookup "bot" = none → env.lookup "CI_BOT" ≠ some ""
  fastTarget : fields.lookup "fast_target" = none → env.lookup "FAST_TEST_TARGET" ≠ some ""
  fullTargets : fields.lookup "full_targets" = none →
    ∀ text, env.lookup "FULL_TEST_TARGETS" = some text → ∀ t ∈ Text.split ',' text, IsCleanTarget t

namespace TriggerConfig

variable {env : Environment} {settings : Settings} {fields : List (String × Json)}
  {config : TriggerConfig} {key : String}

/-- What the environment gives where a caller gives nothing. -/
theorem ofSettings_eq (loads : Settings.ofEnvironment env = .ok settings) :
    ofSettings settings =
      { approvedLabel := (env.lookup "APPROVED_LABEL").getD "approved"
        bot := (env.lookup "CI_BOT").getD "@slab-ci"
        fastTarget := (env.lookup "FAST_TEST_TARGET").getD "cpu_fast_test"
        fullTargets := Text.split ','
          ((env.lookup "FULL_TEST_TARGETS").getD Settings.defaultFullTargets) } := by
  obtain ⟨appId, -, loads⟩ := bind_eq_ok.1 loads
  obtain ⟨lifetime, -, loads⟩ := bind_eq_ok.1 loads
  obtain ⟨port, -, loads⟩ := bind_eq_ok.1 loads
  cases loads
  rfl

/-- A field of the configuration is not empty just when that does not depend on an empty variable.
-/
theorem text_ne_empty_iff {setting? : Option String} {standard s : String}
    (some : standard ≠ "") (holds : HoldsOr (setting?.getD standard) key IsNonEmptyText fields s) :
    s ≠ "" ↔ (fields.lookup key = none → setting? ≠ .some "") := by
  rcases holds with ⟨absent, rfl⟩ | ⟨v, given, isText⟩
  · cases setting? with
    | none => simp [some]
    | some value => simp [absent]
  · simp [given, isText.2.1]

theorem defaults_clean : ∀ t ∈ Text.split ',' Settings.defaultFullTargets, IsCleanTarget t := by
  unfold IsCleanTarget
  decide +kernel

/-- The targets are clean just when that does not depend on a variable with other targets. -/
theorem targets_clean_iff {setting? : Option String} {targets : List String}
    (holds : HoldsOr (Text.split ',' (setting?.getD Settings.defaultFullTargets)) key IsTargets
      fields targets) :
    (∀ t ∈ targets, IsCleanTarget t) ↔ (fields.lookup key = none →
      ∀ text, setting? = some text → ∀ t ∈ Text.split ',' text, IsCleanTarget t) := by
  rcases holds with ⟨absent, rfl⟩ | ⟨v, given, isTargets⟩
  · cases setting? with
    | none => simpa using defaults_clean
    | some value => simp [absent]
  · simpa [given] using isTargets.clean.2

theorem fullTargets_ne_nil (stands : Stands (ofSettings settings) fields config)
    (loads : Settings.ofEnvironment env = .ok settings) : config.fullTargets ≠ [] := by
  rcases stands.fullTargets with ⟨-, same⟩ | ⟨v, -, isTargets⟩
  · rw [same, ofSettings_eq loads]
    exact mt List.map_eq_nil_iff.1 (Text.splitOn_ne_nil _ _)
  · exact isTargets.clean.1

theorem intercalate_cons (separator first : String) (parts : List String) :
    separator.intercalate (first :: parts) =
      first ++ String.join (parts.map (separator ++ ·)) := by
  rw [← String.toList_inj, String.toList_intercalate, String.toList_append, String.toList_join,
    List.map_cons]
  induction parts generalizing first with
  | nil => simp
  | cons next parts ih => simp [ih, List.intercalate_cons_cons]

/-- Below the two lines of its head the comment has a line for each target: the bot, one space and
the target. -/
theorem fullTrigger_eq (config : TriggerConfig) : config.fullTrigger =
    "Pull Request has been approved :tada:\nLaunching full test suite..." ++
      String.join (config.fullTargets.map fun t => "\n" ++ (config.bot ++ " " ++ t)) := by
  rw [fullTrigger, fullHeader, List.cons_append, intercalate_cons]
  simp only [List.cons_append, List.nil_append, List.map_cons, List.map_map, String.join_cons,
    ← String.append_assoc]
  rfl

/-- Every configuration that is made has some target, and its full run a command for each. It is
well formed just when the environment is, where it falls back to it; for what nobody gives, the
whole pipeline falls back to the environment alone. -/
theorem well_formed_iff_filled (env : Environment) (settings : Settings)
    (fields : List (String × Json)) (config : TriggerConfig)
    (loads : Settings.ofEnvironment env = .ok settings)
    (reads : read settings fields = .ok config) :
    (config.WellFormed ↔ env.Fills fields) ∧ config.fullTargets ≠ [] ∧
      (config.fullTrigger =
        "Pull Request has been approved :tada:\nLaunching full test suite..." ++
          String.join (config.fullTargets.map fun t => "\n" ++ (config.bot ++ " " ++ t))) ∧
      read settings [] = .ok (Options.ofSettings settings).config := by
  have stands := read_ok_iff.1 reads
  have some := fullTargets_ne_nil stands loads
  have absent := ofSettings_eq loads
  have label := stands.approvedLabel
  have bot := stands.bot
  have fast := stands.fastTarget
  have full := stands.fullTargets
  rw [absent] at label bot fast full
  refine ⟨?_, some, fullTrigger_eq config, rfl⟩
  constructor
  · intro wellFormed
    exact ⟨(text_ne_empty_iff (by decide) label).1 wellFormed.approvedLabel,
      (text_ne_empty_iff (by decide) bot).1 wellFormed.bot,
      (text_ne_empty_iff (by decide) fast).1 wellFormed.fastTarget,
      (targets_clean_iff full).1 wellFormed.clean⟩
  · intro fills
    exact ⟨(text_ne_empty_iff (by decide) label).2 fills.approvedLabel,
      (text_ne_empty_iff (by decide) bot).2 fills.bot,
      (text_ne_empty_iff (by decide) fast).2 fills.fastTarget, some,
      (targets_clean_iff full).2 fills.fullTargets⟩

/-- An environment whose label is empty and whose targets have a blank behind the comma. -/
def exampleEnvironment : Environment :=
  [("APPROVED_LABEL", ""), ("FULL_TEST_TARGETS", "cpu_test, gpu_test")]

/-- What a caller gives in place of such values makes a configuration that is well formed, and what
a caller leaves out makes one that is not. -/
theorem spaced_targets_replaced :
    let given := [("approved_label", Json.str "done"), ("full_targets", .arr [.str " cpu_test"])]
    ∃ settings, Settings.ofEnvironment exampleEnvironment = .ok settings ∧
      (∃ config, read settings given = .ok config ∧ config.WellFormed ∧
        config.fullTrigger =
          "Pull Request has been approved :tada:\nLaunching full test suite..." ++
            String.join ["\n@slab-ci cpu_test"]) ∧
      ∃ config, read settings [] = .ok config ∧ ¬ config.WellFormed := by
  intro given
  refine ⟨_, rfl, ⟨_, rfl, ?_⟩, _, rfl, ?_⟩
  · obtain ⟨iff, -, trigger, -⟩ := well_formed_iff_filled exampleEnvironment _ given _ rfl rfl
    exact ⟨iff.2 ⟨nofun, fun _ => by decide, fun _ => by decide, nofun⟩, trigger⟩
  · obtain ⟨iff, -⟩ := well_formed_iff_filled exampleEnvironment _ [] _ rfl rfl
    intro wellFormed
    exact (iff.1 wellFormed).approvedLabel rfl rfl

/-- Not every configuration that is made is well formed. -/
theorem spaced_targets_pass : ¬ ∀ (env : Environment) (settings : Settings)
    (fields : List (String × Json)) (config : TriggerConfig),
    Settings.ofEnvironment env = .ok settings → read settings fields = .ok config →
      config.WellFormed := by
  intro all
  have wellFormed := all exampleEnvironment _ [] _ rfl rfl
  have clean := wellFormed.clean " gpu_test" (by decide)
  exact absurd clean.2 (by decide)

end TriggerConfig

end SuiteTrigger
