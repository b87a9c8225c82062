import SuiteTrigger.Command.Run
import SuiteTrigger.Proofs.DeliveryAnswers
import SuiteTrigger.Proofs.EntryPoints
import SuiteTrigger.Proofs.ObligingPlatforms
import SuiteTrigger.Proofs.ReaderLimits
import SuiteTrigger.Proofs.ShownActions

/-!
# Plans

A plan sends nothing and prints the actions that its event leads to wherever nothing fails and the
pull request has the labels that the plan assumes. It ends with the code of a wrong use exactly for
a malformed event, which `handle` drops (`plan_predicts`).
-/

namespace SuiteTrigger.Command

open Http (Client)

def planArgs (name path : String) (labels : List String) : List String :=
  "plan" :: name :: path :: labels.flatMap fun label => [labelOption, label]

def handleArgs (name path : String) : List String := ["handle", name, path]

theorem parse_operand {arg : String} (operand : isOption arg = false) (kinds : List OptionKind)
    (rest : List String) :
    parse? kinds (arg :: rest) = (parse? kinds rest).map (·.addOperand arg) := by
  have undashed : arg ≠ "--" := by
    rintro rfl
    exact absurd operand (by decide)
  rw [parse?, if_neg undashed, if_pos (by rw [operand]; rfl)]

theorem parse_labels (labels : List String) :
    parse? [⟨helpOption, false⟩, ⟨labelOption, true⟩]
      (labels.flatMap fun label => [labelOption, label]) =
        some ⟨[], labels.map fun label => (labelOption, label)⟩ := by
  induction labels with
  | nil => rfl
  | cons label labels ih =>
    have bare : splitOption labelOption = (labelOption, none) := by decide
    have known : [(⟨helpOption, false⟩ : OptionKind), ⟨labelOption, true⟩].find?
        (·.name = labelOption) = some ⟨labelOption, true⟩ := rfl
    rw [List.flatMap_cons, List.cons_append, List.singleton_append, parse?,
      if_neg (by decide), if_neg (by decide), bare]
    dsimp only
    rw [known, ih]
    rfl

section Usage

variable {name path : String}

theorem planUsage_eq (named : isOption name = false) (placed : isOption path = false)
    (labels : List String) :
    planUsage (name :: path :: labels.flatMap fun label => [labelOption, label]) =
      .task name path (.plan labels) := by
  have noHelp : (⟨[name, path], labels.map fun label => (labelOption, label)⟩ : Parsed).has
      helpOption = false := by
    have other : ¬ labelOption = helpOption := by decide
    simp [Parsed.has, other]
  have values : (⟨[name, path], labels.map fun label => (labelOption, label)⟩ : Parsed).values
      labelOption = labels := by
    simp [Parsed.values, List.filter_map, Function.comp_def]
  rw [planUsage, parse_operand named, parse_operand placed, parse_labels]
  simp only [Option.map_some, Parsed.addOperand, usageOf, noHelp, values, Bool.false_eq_true,
    if_false]

theorem handleUsage_eq (named : isOption name = false) (placed : isOption path = false) :
    handleUsage [name, path] = .task name path (.handle false) := by
  rw [handleUsage, parse_operand named, parse_operand placed]
  rfl

end Usage

section File

variable {name path : String} {bytes : List UInt8}

/-- The file holds no payload, or the payload tells of no event. -/
def Malformed (name path : String) (bytes : List UInt8) : Prop :=
  ∃ failure, readEvent name path bytes = .error failure ∧ failure.isMalformed = true

/-- What the reader refuses it refuses for its syntax: it meets no integer with too many digits, and
no lists and objects that stand too deep in each other. -/
def WithinLimits (bytes : List UInt8) : Prop :=
  ∀ cs, Utf8.decode bytes = .ok cs → ∀ e, Json.read (String.ofList (unifyLineEnds cs)) = .error e →
    ∃ fault, e = .syntaxError fault

/-- A file within the limits of the reader holds a payload or is malformed. -/
theorem readPayload_error (within : WithinLimits bytes) {failure : Failure}
    (refused : readPayload path bytes = .error failure) : failure.isMalformed = true := by
  unfold readPayload at refused
  cases decoded : Utf8.decode bytes with
  | error e =>
    rw [decoded] at refused
    cases refused
    rfl
  | ok cs =>
    rw [decoded] at refused
    dsimp only at refused
    cases read : Json.read (String.ofList (unifyLineEnds cs)) with
    | error e =>
      obtain ⟨fault, rfl⟩ := within cs decoded e read
      rw [read] at refused
      cases refused
      rfl
    | ok value =>
      rw [read] at refused
      cases value with
      | obj payload => nomatch refused
      | _ =>
        cases refused
        rfl

/-- A file is within the limits that has no longer run of digits and opens no more lists and
objects. -/
theorem withinLimits_of_small
    (digits : ∀ cs, Utf8.decode bytes = .ok cs → ∀ run, run <:+: unifyLineEnds cs →
      (∀ c ∈ run, Json.Reader.isDigit c = true) → run.length ≤ Numeral.digitLimit)
    (nests : ∀ cs, Utf8.decode bytes = .ok cs →
      Json.Reader.opened (unifyLineEnds cs) ≤ Json.nestingLimit) : WithinLimits bytes := by
  intro cs decoded e refused
  have reasons := Json.read_refused refused
  rw [String.toList_ofList] at reasons
  rcases reasons with syntaxError | ⟨run, among, isRun, long, -⟩ | ⟨nest, -, deep⟩
  · exact syntaxError
  · exact absurd (digits cs decoded run among isRun) (Nat.not_le.2 long)
  · exact absurd (nests cs decoded) (Nat.not_le.2 deep)

theorem readEvent_cases (name path : String) (within : WithinLimits bytes) :
    Malformed name path bytes ∨ ∃ payload event, readPayload path bytes = .ok payload ∧
      Event.ofDelivered name (.obj payload) = .ok event ∧
        readEvent name path bytes = .ok event := by
  unfold Malformed readEvent
  cases read : readPayload path bytes with
  | error failure => exact .inl ⟨failure, rfl, readPayload_error within read⟩
  | ok payload =>
    cases told : Event.ofDelivered name (.obj payload) with
    | error failure =>
      obtain ⟨cause, rfl⟩ := Event.ofDelivered_error told
      exact .inl ⟨_, told, rfl⟩
    | ok event => exact .inr ⟨payload, event, rfl, told, told⟩

end File

section Endings

open Work

variable {settings : Settings} {name path : String} {bytes : List UInt8}

theorem plan_refused {failure : Failure} (refused : readEvent name path bytes = .error failure)
    (malformed : failure.isMalformed = true) (settings : Settings) (labels : List String)
    (c : Client) :
    (plan settings name path bytes labels).Ends c
      ⟨.ok ⟨usageCode, [], some ("Malformed event: " ++ failure.message), none⟩, c, []⟩ := by
  unfold plan
  rw [refused]
  dsimp only
  rw [if_pos malformed]
  exact ends_pure c _

theorem plan_told {event : Event} (told : readEvent name path bytes = .ok event)
    (settings : Settings) (labels : List String) (c : Client) :
    (plan settings name path bytes labels).Ends c
      ⟨.ok (.prints (planned ((TriggerConfig.ofSettings settings).actionsFor
        (assumedLabels labels event) event))), c, []⟩ := by
  unfold plan
  rw [told]
  exact (ends_log c _ _).andThen (ends_pure c _)

theorem handle_refused {failure : Failure} (refused : readEvent name path bytes = .error failure)
    (malformed : failure.isMalformed = true) (settings : Settings) (dryRun : Bool) (c : Client) :
    (handle settings name path bytes dryRun).Ends c ⟨.ok (.quiet 0), c, []⟩ := by
  unfold handle
  have stopped : (do
      let payload ← Work.ofExcept (readPayload path bytes)
      let options := { Options.ofSettings settings with dryRun := dryRun || settings.dryRun }
      Pipeline.handlePayload Remote.ops options name (.obj payload)).Ends c
        ⟨.error failure, c, []⟩ := by
    unfold readEvent at refused
    cases read : readPayload path bytes with
    | error e =>
      rw [read] at refused
      cases refused
      exact (ends_fail c failure).stop
    | ok payload =>
      rw [read] at refused
      have untold : Event.ofDelivered name (.obj payload) = .error failure := refused
      refine (ends_ofExcept c (.ok payload)).andThen ?_
      dsimp only
      rw [Pipeline.handlePayload, untold]
      exact (ends_fail c failure).stop
  refine stopped.attempt.andThen ?_
  dsimp only
  rw [if_pos malformed]
  exact (ends_log c _ _).andThen (ends_pure c _)

end Endings

section Lines

theorem describe_ne (a : Action) : a.describe ≠ "No action" := by
  intro same
  have last := a.getLast?_describe
  rw [same] at last
  exact absurd last (by decide +kernel)

/-- A plan says that there is no action exactly when there is none. -/
theorem planned_eq_iff (actions : List Action) :
    planned actions = ["No action"] ↔ actions = [] := by
  cases actions with
  | nil => exact ⟨fun _ => rfl, fun _ => rfl⟩
  | cons a actions =>
    refine ⟨fun same => ?_, fun none => nomatch none⟩
    have first : (planned (a :: actions)).head? = some a.describe := rfl
    rw [same] at first
    exact absurd (Option.some.inj first).symm (describe_ne a)

/-- A text in which there is no control sequence is written as it is. -/
theorem written_eq {text : String} (kept : Text.dropSequences text.toList = text.toList) :
    written text = text := by
  rw [written, kept, String.ofList_toList]

theorem written_describe (a : Action) : written a.describe = a.describe :=
  written_eq (Text.dropSequences_visible a.visible_describe)

/-- Where no comment holds a control sequence, the lines are written as they are. -/
theorem written_lines {actions : List Action}
    (plain : ∀ a ∈ actions, ∀ body ∈ a.body?, Text.sequenceStart ∉ body.toList) :
    ∀ line ∈ planned actions, written line = line := by
  cases actions with
  | nil =>
    intro line printed
    rw [List.mem_singleton.1 printed]
    exact written_eq (Text.dropSequences_visible (Text.visible_ascii rfl))
  | cons first actions =>
    intro line printed
    obtain ⟨a, member, printed⟩ := List.mem_flatMap.1 printed
    rcases List.mem_cons.1 printed with rfl | body
    · exact written_describe a
    · exact written_eq (Text.dropSequences_eq_self (plain a member line (Option.mem_toList.1 body)))

end Lines

section CommandLine

variable {settings : Settings} {files : Files} {name path : String} {bytes : List UInt8}
  {least : Nat}

theorem run_plan (named : isOption name = false) (placed : isOption path = false)
    (plain : '\x00' ∉ path.toList) (file : files (plainPath path) = some bytes)
    (threshold : settings.logThreshold = .severity least) (labels : List String) :
    run settings files (planArgs name path labels) =
      plan settings name (plainPath path) bytes labels := by
  have known : commands.lookup "plan" = some planUsage := rfl
  have noZero : path.toList.contains '\x00' = false := by simpa using plain
  have called : run settings files (planArgs name path labels) = runCommand settings files "plan"
    (name :: path :: labels.flatMap fun label => [labelOption, label]) := rfl
  rw [called, runCommand, known, threshold]
  dsimp only
  rw [planUsage_eq named placed]
  dsimp only
  rw [noZero, if_neg Bool.false_ne_true, runTask, file]

theorem run_handle (named : isOption name = false) (placed : isOption path = false)
    (plain : '\x00' ∉ path.toList) (file : files (plainPath path) = some bytes)
    (threshold : settings.logThreshold = .severity least) (token : settings.token.isSome = true) :
    run settings files (handleArgs name path) =
      handle settings name (plainPath path) bytes false := by
  have known : commands.lookup "handle" = some handleUsage := rfl
  have noZero : path.toList.contains '\x00' = false := by simpa using plain
  have called : run settings files (handleArgs name path) =
    runCommand settings files "handle" [name, path] := rfl
  obtain ⟨text, set⟩ := Option.isSome_iff_exists.1 token
  rw [called, runCommand, known, threshold]
  dsimp only
  rw [handleUsage_eq named placed]
  dsimp only
  rw [noZero, if_neg Bool.false_ne_true, runTask, file, set]

end CommandLine

/-- The output of a plan shows some actions: each on a line of its own with the text of a comment
below it, and a line that says so when there is none. -/
structure Outcome.Shows (o : Outcome) (actions : List Action) : Prop where
  exitCode : o.exitCode = 0
  output : o.output = planned actions
  none_iff : o.output = ["No action"] ↔ actions = []
  written : (∀ a ∈ actions, ∀ body ∈ a.body?, Text.sequenceStart ∉ body.toList) →
    o.writtenOutput = String.join ((planned actions).map (· ++ "\n"))

theorem shows_planned (actions : List Action) :
    (Outcome.prints (planned actions)).Shows actions where
  exitCode := rfl
  output := rfl
  none_iff := planned_eq_iff actions
  written plain := by
    have same : (planned actions).map (fun text => Command.written text ++ "\n") =
        (planned actions).map (· ++ "\n") := by
      refine List.map_congr_left fun line printed => ?_
      rw [written_lines plain line printed]
    exact congrArg String.join same

/-- What a run of `plan` with some labels tells of a run of `handle` on the same file, both with
client `c`. -/
structure Predicts (settings : Settings) (name path : String) (bytes : List UInt8)
    (labels : List String) (c : Client) (plan handle : Except Failure Outcome × Scene Client) :
    Prop where
  unsent : plan.2.platform = c
  wrong_iff : (∃ o, plan.1 = .ok o ∧ o.exitCode = usageCode) ↔ Malformed name path bytes
  dropped : Malformed name path bytes → settings.token.isSome = true →
    handle.1 = .ok (.quiet 0) ∧ handle.2.platform = c
  /-- On any platform on which nothing fails and the labels are the assumed ones, the payload leads
  to the actions that the plan shows. -/
  predicted : ¬ Malformed name path bytes → ∃ payload event o,
    readPayload path bytes = .ok payload ∧ Event.ofDelivered name (.obj payload) = .ok event ∧
    plan.1 = .ok o ∧
    ∀ {σ : Type} (p : Platform σ) (good : σ → Prop) (s : σ) (dryRun : Bool),
      p.Obliging good event.pr.issue →
      p.Shows good event.pr.issue s (assumedLabels labels event) →
      ∃ actions, o.Shows actions ∧
        ((Pipeline.handlePayload p ⟨.ofSettings settings, dryRun⟩ name (.obj payload)).on
          ⟨s, .empty⟩).1 = .ok actions

section

variable {settings : Settings} {files : Files} {name path : String} {bytes : List UInt8}
  {least : Nat}

/-- A plan predicts what handling the same event comes to. -/
theorem plan_predicts (named : isOption name = false) (placed : isOption path = false)
    (plain : '\x00' ∉ path.toList) (file : files (plainPath path) = some bytes)
    (threshold : settings.logThreshold = .severity least) (within : WithinLimits bytes)
    (labels : List String) (c : Client) :
    Predicts settings name (plainPath path) bytes labels c
      ((run settings files (planArgs name path labels)).on ⟨c, .empty⟩)
      ((run settings files (handleArgs name path)).on ⟨c, .empty⟩) := by
  rw [run_plan named placed plain file threshold]
  rcases readEvent_cases name (plainPath path) within with
    ⟨failure, refused, malformed⟩ | ⟨payload, event, read, delivered, told⟩
  · obtain ⟨planOutcome, planLeft, -⟩ := (plan_refused refused malformed settings labels c).on_eq
    have isMalformed : Malformed name (plainPath path) bytes := ⟨failure, refused, malformed⟩
    exact
      { unsent := planLeft
        wrong_iff := ⟨fun _ => isMalformed, fun _ => ⟨_, planOutcome, rfl⟩⟩
        dropped := by
          intro _ token
          rw [run_handle named placed plain file threshold token]
          obtain ⟨outcome, left, -⟩ := (handle_refused refused malformed settings false c).on_eq
          exact ⟨outcome, left⟩
        predicted := fun wellFormed => absurd isMalformed wellFormed }
  · obtain ⟨planOutcome, planLeft, -⟩ := (plan_told told settings labels c).on_eq
    have wellFormed : ¬ Malformed name (plainPath path) bytes := by
      rintro ⟨failure, refused, -⟩
      rw [told] at refused
      nomatch refused
    exact
      { unsent := planLeft
        wrong_iff := by
          constructor
          · rintro ⟨o, came, code⟩
            rw [planOutcome] at came
            cases came
            nomatch code
          · exact fun isMalformed => absurd isMalformed wellFormed
        dropped := fun isMalformed => absurd isMalformed wellFormed
        predicted := by
          intro _
          refine ⟨payload, event, _, read, delivered, planOutcome, ?_⟩
          intro σ p good s dryRun obliging shows
          have handled := handlePayload_yields delivered obliging shows
            ⟨.ofSettings settings, dryRun⟩
          exact ⟨_, shows_planned _, handled.outcome .empty⟩ }

end

def exampleText : String :=
  "\x7b\"action\": \"opened\",\n" ++
  " \"repository\": \x7b\"id\": 1, \"name\": \"r\", \"url\": \"u\"\x7d,\n" ++
  " \"pull_request\": \x7b\"number\": 7, \"labels\": [\x7b\"name\": \"approved\"\x7d]\x7d\x7d\n"

def exampleBytes : List UInt8 := Utf8.encode exampleText.toList

def examplePushed : Event.Payload :=
  [("action", .str "opened"),
    ("repository", .obj [("id", .int 1), ("name", .str "r"), ("url", .str "u")]),
    ("pull_request", .obj [("number", .int 7),
      ("labels", .arr [.obj [("name", .str "approved")]])])]

theorem exampleBytes_holds : readPayload "event.json" exampleBytes = .ok examplePushed := by
  have holds : (readPayload "event.json" exampleBytes).toOption = some examplePushed := by
    decide +kernel
  cases read : readPayload "event.json" exampleBytes with
  | ok payload =>
    rw [read] at holds
    exact congrArg Except.ok (Option.some.inj holds)
  | error failure =>
    rw [read] at holds
    nomatch holds

theorem exampleBytes_withinLimits : WithinLimits exampleBytes := by
  have decodes : (Utf8.decode exampleBytes).toOption = some exampleText.toList := by decide +kernel
  have text : ∀ cs, Utf8.decode exampleBytes = .ok cs → cs = exampleText.toList := by
    intro cs decoded
    rw [decoded] at decodes
    exact Option.some.inj decodes
  have short : (unifyLineEnds exampleText.toList).length ≤ Numeral.digitLimit := by decide +kernel
  have flat : Json.Reader.opened (unifyLineEnds exampleText.toList) ≤ Json.nestingLimit := by
    decide +kernel
  apply withinLimits_of_small
  · intro cs decoded run among _
    rw [text cs decoded] at among
    exact Nat.le_trans among.length_le short
  · intro cs decoded
    rw [text cs decoded]
    exact flat

def exampleFiles : Files := fun path => if path = "event.json" then some exampleBytes else none

/-- The plan for a push takes the labels from the payload, and a platform on which the pull request
has them is told to do what the plan shows. -/
theorem marked_push_planned :
    let m : Memory := ⟨[(7, .ofList ["approved"])], [], [], []⟩
    let actions := [Action.removeLabel "approved", .postComment "@slab-ci cpu_fast_test" true]
    (∃ o, ((run exampleListed exampleFiles (planArgs "pull_request" "./event.json" [])).on
        ⟨client exampleListed [], .empty⟩).1 = .ok o ∧
      o.output = ["RemoveLabel(name='approved')",
        "PostComment('@slab-ci cpu_fast_test', allow_repeats=True)", "@slab-ci cpu_fast_test"]) ∧
      ((Pipeline.handlePayload Memory.ops ⟨.ofSettings exampleListed, false⟩ "pull_request"
        (.obj examplePushed)).on ⟨m, .empty⟩).1 = .ok actions := by
  intro m actions
  have place : plainPath "./event.json" = "event.json" := by decide +kernel
  have file : exampleFiles (plainPath "./event.json") = some exampleBytes := by
    rw [place]
    rfl
  have told : Event.ofDelivered "pull_request" (.obj examplePushed) = .ok (.codePush
      ⟨"u", 7, none, none, some (.ofList ["approved"])⟩ "opened") := rfl
  have shown : exampleListed.logThreshold = .severity 30 := rfl
  have named : isOption "pull_request" = false := by decide
  have predicts := plan_predicts named (by decide) (by decide) file shown
    exampleBytes_withinLimits [] (client exampleListed [])
  rw [place] at predicts
  have wellFormed : ¬ Malformed "pull_request" "event.json" exampleBytes := by
    rintro ⟨failure, refused, -⟩
    rw [readEvent, exampleBytes_holds] at refused
    nomatch told.symm.trans refused
  obtain ⟨payload, event, o, holds, tells, came, agrees⟩ := predicts.predicted wellFormed
  cases exampleBytes_holds.symm.trans holds
  cases told.symm.trans tells
  obtain ⟨handled, shows, outcome⟩ := agrees Memory.ops _ m false (Memory.obliging _)
    (Memory.shows rfl _)
  have done : ((Pipeline.handlePayload Memory.ops ⟨.ofSettings exampleListed, false⟩ "pull_request"
      (.obj examplePushed)).on ⟨m, .empty⟩).1 = .ok actions := rfl
  cases done.symm.trans outcome
  refine ⟨⟨o, came, shows.output.trans ?_⟩, done⟩
  decide +kernel

end SuiteTrigger.Command
