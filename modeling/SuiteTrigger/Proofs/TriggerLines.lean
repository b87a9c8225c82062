import SuiteTrigger.Text.LineBreak
import SuiteTrigger.Trigger.Config

/-!
# The lines of a comment that asks for a full run

Texts without line breaks, joined by line ends, are the lines of what they make
(`Text.lines_intercalate`). So a comment that asks for a full run has its two lines of head and then
one line for each target, and the targets are read back from it (`TriggerConfig.targetsIn?`).
-/

namespace SuiteTrigger

namespace Text

/-- A text of one line, with no break in it. -/
def Unbroken (s : String) : Prop := ∀ c ∈ s.toList, isLineBreak c = false

instance : DecidablePred Unbroken := fun s => List.decidableBAll _ s.toList

theorem splitLines_unbroken_cons {c : Char} (plain : isLineBreak c = false) (rest : List Char) :
    splitLines (c :: rest) = match splitLines rest with
      | [] => [[c]]
      | line :: lines => (c :: line) :: lines := by
  have notReturn : c ≠ '\r' := by
    rintro rfl
    exact absurd plain (by decide)
  rw [splitLines, plain]
  · rfl
  · rintro rest rfl
    exact absurd rfl notReturn

/-- A line ends at the first break behind it. -/
theorem splitLines_append {line : List Char} (unbroken : ∀ c ∈ line, isLineBreak c = false)
    (rest : List Char) : splitLines (line ++ '\n' :: rest) = line :: splitLines rest := by
  induction line with
  | nil => rfl
  | cons c line ih =>
    obtain ⟨plain, later⟩ := List.forall_mem_cons.1 unbroken
    rw [List.cons_append, splitLines_unbroken_cons plain, ih later]

theorem splitLines_unbroken {line : List Char} (some : line ≠ [])
    (unbroken : ∀ c ∈ line, isLineBreak c = false) : splitLines line = [line] := by
  induction line with
  | nil => exact absurd rfl some
  | cons c line ih =>
    obtain ⟨plain, later⟩ := List.forall_mem_cons.1 unbroken
    rw [splitLines_unbroken_cons plain]
    cases line with
    | nil => rfl
    | cons d line => rw [ih (List.cons_ne_nil d line) later]

theorem splitLines_intercalate {parts : List (List Char)} (some : ∀ part ∈ parts, part ≠ [])
    (unbroken : ∀ part ∈ parts, ∀ c ∈ part, isLineBreak c = false) :
    splitLines (['\n'].intercalate parts) = parts := by
  induction parts with
  | nil => rfl
  | cons part parts ih =>
    obtain ⟨first, later⟩ := List.forall_mem_cons.1 unbroken
    obtain ⟨here, others⟩ := List.forall_mem_cons.1 some
    cases parts with
    | nil => rw [List.intercalate_singleton, splitLines_unbroken here first]
    | cons next parts =>
      rw [List.intercalate_cons_cons, List.append_assoc, List.singleton_append,
        splitLines_append first, ih others later]

/-- Texts of one line each, none of them empty, are the lines of what they are joined to. -/
theorem lines_intercalate {parts : List String} (some : ∀ part ∈ parts, part ≠ "")
    (unbroken : ∀ part ∈ parts, Unbroken part) : lines ("\n".intercalate parts) = parts := by
  have joined : ("\n".intercalate parts).toList = ['\n'].intercalate (parts.map String.toList) :=
    String.toList_intercalate
  rw [lines, joined, splitLines_intercalate]
  · simp
  · simpa using some
  · simpa [Unbroken] using unbroken

theorem Unbroken.append {s t : String} (first : Unbroken s) (second : Unbroken t) :
    Unbroken (s ++ t) := by
  intro c inside
  rw [String.toList_append] at inside
  exact (List.mem_append.1 inside).elim (first c) (second c)

end Text

namespace TriggerConfig

/-- The target of a line that commands a bot. -/
def targetOf? (bot line : String) : Option String :=
  (Text.afterStart? (bot ++ " ").toList line.toList).map String.ofList

/-- The targets that a comment commands a bot to run, line by line below its head; none where a line
is no command to the bot. -/
def targetsIn? (bot comment : String) : Option (List String) :=
  ((Text.lines comment).drop fullHeader.length).mapM (targetOf? bot)

theorem targetOf?_command (config : TriggerConfig) (target : String) :
    targetOf? config.bot (config.command target) = some target := by
  have found : Text.afterStart? (config.bot ++ " ").toList (config.command target).toList =
      some target.toList := by
    rw [Text.afterStart?_eq_some_iff, command, String.toList_append]
  rw [targetOf?, found, Option.map_some, String.ofList_toList]

theorem mapM_targetOf? (config : TriggerConfig) (targets : List String) :
    (targets.map config.command).mapM (targetOf? config.bot) = some targets := by
  induction targets with
  | nil => rfl
  | cons target targets ih =>
    rw [List.map_cons, List.mapM_cons, targetOf?_command, ih]
    rfl

variable {config : TriggerConfig}

/-- A command to a bot stands on one line. -/
theorem unbroken_command (bot : Text.Unbroken config.bot) {target : String}
    (unbroken : Text.Unbroken target) : Text.Unbroken (config.command target) :=
  (bot.append (by decide)).append unbroken

theorem lines_fullTrigger (bot : Text.Unbroken config.bot)
    (targets : ∀ t ∈ config.fullTargets, Text.Unbroken t) :
    Text.lines config.fullTrigger = fullHeader ++ config.fullTargets.map config.command := by
  have head : ∀ line ∈ fullHeader, line ≠ "" ∧ Text.Unbroken line := by decide
  refine Text.lines_intercalate ?_ ?_
  · intro line inside
    rcases List.mem_append.1 inside with there | there
    · exact (head line there).1
    · obtain ⟨target, -, rfl⟩ := List.mem_map.1 there
      simp [command]
  · intro line inside
    rcases List.mem_append.1 inside with there | there
    · exact (head line there).2
    · obtain ⟨target, listed, rfl⟩ := List.mem_map.1 there
      exact unbroken_command bot (targets target listed)

/-- The targets of a full run are read back from the comment that asks for it. -/
theorem targetsIn?_fullTrigger (bot : Text.Unbroken config.bot)
    (targets : ∀ t ∈ config.fullTargets, Text.Unbroken t) :
    targetsIn? config.bot config.fullTrigger = some config.fullTargets := by
  rw [targetsIn?, lines_fullTrigger bot targets, List.drop_left, mapM_targetOf?]

/-- A comment that asks for a full run loses nothing of its targets, when neither the bot nor a
target has a line break in it.

Its lines are the two of its head and then, in the order of the targets, one for each: the bot, a
space and the target. The targets are read back from it, and with other targets the same bot is
asked by another comment. -/
theorem full_trigger_lossless (config : TriggerConfig) (bot : Text.Unbroken config.bot)
    (targets : ∀ t ∈ config.fullTargets, Text.Unbroken t) :
    (Text.lines config.fullTrigger =
      "Pull Request has been approved :tada:" :: "Launching full test suite..." ::
        config.fullTargets.map fun target => config.bot ++ " " ++ target) ∧
      targetsIn? config.bot config.fullTrigger = some config.fullTargets ∧
      ∀ other : TriggerConfig, other.bot = config.bot →
        (∀ t ∈ other.fullTargets, Text.Unbroken t) → other.fullTargets ≠ config.fullTargets →
          other.fullTrigger ≠ config.fullTrigger := by
  have read := targetsIn?_fullTrigger bot targets
  refine ⟨lines_fullTrigger bot targets, read, ?_⟩
  intro other sameBot unbroken differ sameComment
  have readToo := targetsIn?_fullTrigger (sameBot ▸ bot : Text.Unbroken other.bot) unbroken
  rw [sameBot, sameComment] at readToo
  exact differ (Option.some.inj (readToo.symm.trans read))

/-- Targets with blanks, with none but blanks and with letters of any script. -/
def exampleTargets : List String := ["cpu test", "", "@slab-ci größe", "\t"]

/-- Such targets are read back, and in another order they make another comment. -/
theorem odd_targets_lossless :
    let config : TriggerConfig := ⟨"approved", "@slab-ci", "cpu_fast_test", exampleTargets⟩
    let turned := { config with fullTargets := exampleTargets.reverse }
    targetsIn? "@slab-ci" config.fullTrigger = some exampleTargets ∧
      turned.fullTrigger ≠ config.fullTrigger := by
  intro config turned
  have targets : ∀ t ∈ exampleTargets, Text.Unbroken t := by decide +kernel
  have reversed : ∀ t ∈ exampleTargets.reverse, Text.Unbroken t := by decide +kernel
  obtain ⟨-, read, apart⟩ := full_trigger_lossless config (by decide +kernel) targets
  exact ⟨read, apart turned rfl reversed (by decide)⟩

/-- A break in a target hides where it ends. -/
example : fullTrigger ⟨"approved", "@ci", "fast", ["a\n@ci b"]⟩ =
    fullTrigger ⟨"approved", "@ci", "fast", ["a", "b"]⟩ := by decide

end TriggerConfig

end SuiteTrigger
