import SuiteTrigger.Proofs.EntryPoints

/-!
# What a run leaves alone

Deliveries come in by any of the three ways, one after another, each with its own failing methods.
Whatever they are, comments are only ever added and no label but the marker is changed
(`run_framed`). A single delivery adds at most one comment, works on the pull request that its
payload names, and leaves everything alone when it is idle (`Intake.framed_run`).
-/

namespace SuiteTrigger

/-- The label that an action puts on or takes off. -/
def Action.label? : Action → Option String
  | .addLabel name => some name
  | .removeLabel name => some name
  | .postComment .. => none

namespace Memory

variable {m : Memory} {a : Action} {name : String}

theorem mem_labelsOf_perform (other : a.label? ≠ some name) (m : Memory) (n k : Int) :
    name ∈ (m.perform n a).labelsOf k ↔ name ∈ m.labelsOf k := by
  by_cases here : k = n
  · subst here
    cases a with
    | addLabel added =>
      have different : name ≠ added := fun same => other (congrArg some same.symm)
      rw [labelsOf_addLabel, LabelSet.mem_insert]
      simp [different]
    | removeLabel removed =>
      have different : name ≠ removed := fun same => other (congrArg some same.symm)
      rw [labelsOf_removeLabel, LabelSet.mem_erase]
      simp [different]
    | postComment body allowRepeats => rw [labelsOf_postComment]
  · rw [labelsOf_perform_other here]

theorem mem_labelsOf_performAll {actions : List Action}
    (others : ∀ a ∈ actions, a.label? ≠ some name) (m : Memory) (n k : Int) :
    name ∈ (m.performAll n actions).labelsOf k ↔ name ∈ m.labelsOf k := by
  induction actions generalizing m with
  | nil => exact Iff.rfl
  | cons a actions ih =>
    rw [performAll_cons, ih fun b later => others b (List.mem_cons_of_mem a later)]
    exact mem_labelsOf_perform (others a List.mem_cons_self) m n k

def posts (actions : List Action) : Nat := actions.countP (·.kind = .postComment)

theorem commentsOf_perform (m : Memory) (n k : Int) (a : Action) :
    ∃ added, (m.perform n a).commentsOf k = m.commentsOf k ++ added ∧
      added.length ≤ posts [a] := by
  by_cases here : k = n
  · subst here
    cases a with
    | addLabel name => exact ⟨[], by simp, Nat.zero_le _⟩
    | removeLabel name => exact ⟨[], by simp, Nat.zero_le _⟩
    | postComment body allowRepeats =>
      rw [perform]
      split
      · exact ⟨[], by simp, Nat.zero_le _⟩
      · exact ⟨[body], by simp, Nat.le_refl 1⟩
  · exact ⟨[], by rw [commentsOf_perform_other here, List.append_nil], Nat.zero_le _⟩

/-- Actions add comments at the end, no more than there are actions that post. -/
theorem commentsOf_performAll (m : Memory) (n k : Int) (actions : List Action) :
    ∃ added, (m.performAll n actions).commentsOf k = m.commentsOf k ++ added ∧
      added.length ≤ posts actions := by
  induction actions generalizing m with
  | nil => exact ⟨[], (List.append_nil _).symm, Nat.le_refl 0⟩
  | cons a actions ih =>
    obtain ⟨first, begins, few⟩ := m.commentsOf_perform n k a
    obtain ⟨rest, ends, fewToo⟩ := ih (m.perform n a)
    refine ⟨first ++ rest, ?_, ?_⟩
    · rw [performAll_cons, ends, begins, List.append_assoc]
    · have total : posts ([a] ++ actions) = posts [a] + posts actions := List.countP_append
      rw [List.length_append, ← List.singleton_append, total]
      exact Nat.add_le_add few fewToo

/-- A decision is empty, or changes the marker at most and then posts one comment. -/
theorem decided_cases (m : Memory) (config : TriggerConfig) (event : Event) :
    m.decided config event = [] ∨ ∃ changes body,
      m.decided config event = changes ++ [.postComment body true] ∧
      ∀ a ∈ changes, a.label? = some config.approvedLabel := by
  cases event with
  | codePush pr action =>
    refine .inr ⟨_, _, m.decided_push config pr action, ?_⟩
    intro a changed
    split at changed
    · rw [List.mem_singleton.1 changed]
      rfl
    · exact absurd changed List.not_mem_nil
  | reviewSubmitted pr outcome =>
    cases outcome with
    | approved =>
      rw [decided_approval]
      split
      · exact .inl rfl
      · refine .inr ⟨[.addLabel config.approvedLabel], config.fullTrigger, rfl, ?_⟩
        intro a changed
        rw [List.mem_singleton.1 changed]
        rfl
    | changesRequested => exact .inl rfl
    | commented => exact .inl rfl
  | ignored pr kind action => exact .inl rfl

/-- A decision is about no label but the marker. -/
theorem label_decided {config : TriggerConfig} {event : Event} (other : name ≠ config.approvedLabel)
    (decides : a ∈ m.decided config event) : a.label? ≠ some name := by
  rcases m.decided_cases config event with none | ⟨changes, body, split, marks⟩
  · rw [none] at decides
    exact absurd decides List.not_mem_nil
  · rw [split] at decides
    rcases List.mem_append.1 decides with changed | posted
    · rw [marks a changed]
      exact fun same => other (Option.some.inj same).symm
    · rw [List.mem_singleton.1 posted]
      exact nofun

/-- A decision asks for one comment at most. -/
theorem posts_decided (m : Memory) (config : TriggerConfig) (event : Event) :
    posts (m.decided config event) ≤ 1 := by
  rcases m.decided_cases config event with none | ⟨changes, body, split, marks⟩
  · rw [none]
    exact Nat.zero_le 1
  · have silent : posts changes = 0 := by
      refine List.countP_eq_zero.2 fun a changed posts => ?_
      have mark := marks a changed
      cases a with
      | postComment body allowRepeats => nomatch mark
      | _ => nomatch posts
    have total : posts (changes ++ [.postComment body true]) =
        posts changes + posts [.postComment body true] := List.countP_append
    rw [split, total, silent]
    exact Nat.le_refl 1

/-- An event performs some first part of what it asks for. It performs nothing when it is ignored,
in a dry run, and when its labels are not read. -/
theorem eventEnding_performs (m : Memory) (options : Options) (event : Event) :
    ∃ done, done <+: m.decided options.config event ∧
      (m.eventEnding options event).platform.contents =
        (m.performAll event.pr.number done).contents ∧
      (options.dryRun = true ∨ event.isIgnored = true ∨ .getLabels ∈ m.failing → done = []) := by
  by_cases idle : options.dryRun = true ∨ event.isIgnored = true ∨ .getLabels ∈ m.failing
  · refine ⟨[], List.nil_prefix, ?_, fun _ => rfl⟩
    by_cases ignored : event.isIgnored = true
    · rw [(m.eventEnding_ignored options ignored).2]
      rfl
    · have acts : m.eventEnding options event = m.actEnding options event := by
        cases event with
        | ignored pr kind action => exact absurd rfl ignored
        | _ => rfl
      rw [acts, actEnding]
      by_cases unread : Method.getLabels ∈ m.failing
      · rw [if_pos unread]
        rfl
      · have dry : options.dryRun = true := by
          rcases idle with dry | ignoredToo | unreadToo
          · exact dry
          · exact absurd ignoredToo ignored
          · exact absurd unreadToo unread
        rw [if_neg unread]
        dsimp only
        rw [if_pos dry]
        rfl
  · obtain ⟨config, dryRun⟩ := options
    have wet : dryRun = false := Bool.eq_false_iff.2 fun dry => idle (.inl dry)
    subst wet
    obtain ⟨done, first, contents⟩ := m.eventEnding_begins config event
    exact ⟨done, first, contents, fun idles => absurd idles idle⟩

end Memory

/-- A way into the pipeline with what is passed along: a payload is handled or dispatched, or the
webhook receives it. -/
inductive Entry where
  | handled (options : Options)
  | dispatched (settings : Settings) (options : Options)
  | received (settings : Settings) (connection : Memory.Connection)

namespace Entry

def options : Entry → Options
  | handled options => options
  | dispatched _ options => options
  | received settings _ => .ofSettings settings

/-- The settings of the gate for private repositories, where there is one on the way. -/
def gate? : Entry → Option Settings
  | handled _ => none
  | dispatched settings _ => some settings
  | received settings _ => some settings

def leaves (entry : Entry) (d : Delivery) (m : Memory) : Memory :=
  match entry with
  | handled options =>
    ((Pipeline.handlePayload Memory.ops options d.name d.data).on ⟨m, .empty⟩).2.platform
  | dispatched settings options =>
    ((Pipeline.dispatch Memory.ops settings options d.name d.data).on ⟨m, .empty⟩).2.platform
  | received settings connection =>
    ((Pipeline.deliver Memory.ops settings connection.connect d).on ⟨m, .empty⟩).2.platform

/-- A dispatched delivery changes nothing, or what its event changes that passed the gate. -/
theorem gated_platform (m : Memory) (settings : Settings) (options : Options) (d : Delivery) :
    (m.dispatchEnding settings options d).platform = m ∨
      ∃ event, d.TellsOf event ∧ (∀ gate ∈ some settings, ¬ d.Withheld gate.listed) ∧
        (m.dispatchEnding settings options d).platform =
          (m.eventEnding options event).platform := by
  rcases m.dispatchEnding_cases settings options d with
    ⟨kept, -⟩ | ⟨event, tells, served, ending⟩
  · exact .inl kept
  · refine .inr ⟨event, tells, ?_, congrArg Ending.platform ending⟩
    intro gate inside
    exact Option.some.inj inside ▸ served

/-- Whichever way it comes in, a delivery changes nothing, or what its event changes that passed the
gate. -/
theorem leaves_cases (entry : Entry) (d : Delivery) (m : Memory) :
    entry.leaves d m = m ∨
      ∃ event, d.TellsOf event ∧ (∀ settings ∈ entry.gate?, ¬ d.Withheld settings.listed) ∧
        entry.leaves d m = (m.eventEnding entry.options event).platform := by
  cases entry with
  | handled options =>
    unfold leaves
    dsimp only
    rw [(Memory.payload_ends m options d).on_eq.2.1]
    unfold Memory.payloadEnding
    cases read : Event.ofDelivered d.name d.data with
    | error failure => exact .inl rfl
    | ok event =>
      refine .inr ⟨event, read, ?_, rfl⟩
      intro gate inside
      exact absurd inside (Option.not_mem_none gate)
  | dispatched settings options =>
    unfold leaves
    dsimp only
    rw [(Memory.dispatch_ends m settings options d).on_eq.2.1]
    exact gated_platform m settings options d
  | received settings connection =>
    unfold leaves
    dsimp only
    rw [(Memory.delivery_ends m settings connection d).on_eq.2.1]
    rcases m.deliveryEnding_platform settings connection d with kept | same
    · exact .inl kept
    · rw [same]
      exact gated_platform m settings (.ofSettings settings) d

end Entry

/-- A delivery on its way into the pipeline, and the methods that fail meanwhile. -/
structure Intake where
  entry : Entry
  delivery : Delivery
  failing : List Method

namespace Intake

def run (i : Intake) (m : Memory) : Memory := i.entry.leaves i.delivery (m.withFailing i.failing)

def runAll (intakes : List Intake) (m : Memory) : Memory := intakes.foldl (fun m i => i.run m) m

/-- Why a delivery has no effect. -/
inductive Idle (i : Intake) : Prop
  | dryRun (dry : i.entry.options.dryRun = true)
  | ignored (event : Event) (tells : i.delivery.TellsOf event) (ignored : event.isIgnored = true)
  | malformed (tellsNone : ∀ event, ¬ i.delivery.TellsOf event)
  | withheld (settings : Settings) (gate : settings ∈ i.entry.gate?)
    (hidden : i.delivery.Withheld settings.listed)
  | unread (fails : .getLabels ∈ i.failing)

end Intake

/-- From platform `m` to platform `q` comments are only added, and no label but the marker changes.
-/
structure Framed (marker : String) (m q : Memory) : Prop where
  labels : ∀ n name, name ≠ marker → (name ∈ q.labelsOf n ↔ name ∈ m.labelsOf n)
  comments : ∀ n, m.commentsOf n <+: q.commentsOf n

namespace Framed

variable {marker : String} {m q r : Memory}

theorem refl (marker : String) (m : Memory) : Framed marker m m where
  labels _ _ _ := Iff.rfl
  comments _ := List.prefix_rfl

theorem trans (first : Framed marker m q) (second : Framed marker q r) : Framed marker m r where
  labels n name other := (second.labels n name other).trans (first.labels n name other)
  comments n := (first.comments n).trans (second.comments n)

end Framed

/-- What a single delivery leaves alone on the way from platform `m` to platform `q`. -/
structure Intake.Framed (marker : String) (i : Intake) (m q : Memory) : Prop
    extends SuiteTrigger.Framed marker m q where
  once : ∀ n, (q.commentsOf n).length ≤ (m.commentsOf n).length + 1
  elsewhere : ∀ n, i.delivery.number? ≠ some n →
    q.labelsOf n = m.labelsOf n ∧ q.commentsOf n = m.commentsOf n
  idle : i.Idle → q.contents = m.contents

namespace Intake

variable {marker : String} {m q : Memory} {i : Intake}

theorem framed_of_contents (same : q.contents = m.contents) : i.Framed marker m q where
  labels n name _ := by rw [Memory.labelsOf_eq same]
  comments n := ⟨[], by rw [List.append_nil, Memory.commentsOf_eq same]⟩
  once n := by
    rw [Memory.commentsOf_eq same]
    exact Nat.le_succ _
  elsewhere n _ := ⟨Memory.labelsOf_eq same n, Memory.commentsOf_eq same n⟩
  idle _ := same

/-- Some first part of a decision keeps the frame. -/
theorem framed_of_decided {event : Event} {config : TriggerConfig} {done : List Action}
    (fixed : config.approvedLabel = marker) (tells : i.delivery.TellsOf event)
    (first : done <+: m.decided config event)
    (contents : q.contents = (m.performAll event.pr.number done).contents)
    (idle : i.Idle → done = []) : i.Framed marker m q where
  labels n name other := by
    have others : ∀ a ∈ done, a.label? ≠ some name := by
      intro a performed
      exact Memory.label_decided (fixed ▸ other) (first.subset performed)
    rw [Memory.labelsOf_eq contents]
    exact Memory.mem_labelsOf_performAll others m event.pr.number n
  comments n := by
    obtain ⟨added, grown, -⟩ := m.commentsOf_performAll event.pr.number n done
    rw [Memory.commentsOf_eq contents, grown]
    exact List.prefix_append _ _
  once n := by
    obtain ⟨added, grown, few⟩ := m.commentsOf_performAll event.pr.number n done
    have fewer : Memory.posts done ≤ 1 :=
      Nat.le_trans (first.sublist.countP_le) (m.posts_decided config event)
    rw [Memory.commentsOf_eq contents, grown, List.length_append]
    exact Nat.add_le_add_left (Nat.le_trans few fewer) _
  elsewhere n other := by
    have away : n ≠ event.pr.number := by
      rintro rfl
      exact other tells.number
    rw [Memory.labelsOf_eq contents, Memory.commentsOf_eq contents]
    exact ⟨Memory.labelsOf_performAll_other away m done,
      Memory.commentsOf_performAll_other away m done⟩
  idle idles := by
    rw [contents, idle idles]
    rfl

/-- Whichever way a delivery comes in, and whatever fails meanwhile, it keeps the frame. -/
theorem framed_run (fixed : i.entry.options.config.approvedLabel = marker) (m : Memory) :
    i.Framed marker m (i.run m) := by
  rcases i.entry.leaves_cases i.delivery (m.withFailing i.failing) with
    same | ⟨event, tells, served, left⟩
  · refine framed_of_contents ?_
    rw [run, same]
    rfl
  · obtain ⟨done, first, contents, idles⟩ :=
      (m.withFailing i.failing).eventEnding_performs i.entry.options event
    have kept := m.contents_withFailing i.failing
    rw [Memory.decided_congr kept] at first
    rw [← left] at contents
    refine framed_of_decided fixed tells first
      (contents.trans (Memory.contents_performAll kept _ _)) ?_
    intro idle
    apply idles
    cases idle with
    | dryRun dry => exact .inl dry
    | ignored other tellsToo ignored =>
      have same : event = other := Except.ok.inj (tells.symm.trans tellsToo)
      exact .inr (.inl (same ▸ ignored))
    | malformed tellsNone => exact absurd tells (tellsNone event)
    | withheld settings gate hidden => exact absurd hidden (served settings gate)
    | unread fails => exact .inr (.inr fails)

end Intake

/-- With one marker for all deliveries of a run, the run only adds comments and changes no label but
the marker, and each delivery keeps its own frame wherever the run has come to. -/
theorem run_framed {marker : String} {intakes : List Intake}
    (fixed : ∀ i ∈ intakes, i.entry.options.config.approvedLabel = marker) (m : Memory) :
    Framed marker m (Intake.runAll intakes m) ∧
      ∀ i ∈ intakes, ∀ q, i.Framed marker q (i.run q) := by
  have each : ∀ i ∈ intakes, ∀ q, i.Framed marker q (i.run q) := by
    intro i inside q
    exact Intake.framed_run (fixed i inside) q
  refine ⟨?_, each⟩
  induction intakes generalizing m with
  | nil => exact .refl marker m
  | cons i intakes ih =>
    have first := (each i List.mem_cons_self m).toFramed
    have rest := ih (fun j later => fixed j (List.mem_cons_of_mem i later)) (i.run m)
      (fun j later => each j (List.mem_cons_of_mem i later))
    exact first.trans rest

/-- An approval that is handled, a push that is dispatched while comments fail, and a push that the
webhook receives. -/
def exampleIntakes : List Intake :=
  [⟨.handled ⟨exampleConfig, false⟩, exampleApproval, []⟩,
    ⟨.dispatched exampleListed ⟨exampleConfig, false⟩, examplePush, [.postComment]⟩,
    ⟨.received exampleListed (.denying fun _ => none), examplePrivatePush "o/b", []⟩]

/-- A run on a pull request with a label and a comment of other origin keeps both. -/
theorem label_and_comment_kept :
    let m : Memory := ⟨[(7, .ofList ["bug"])], [(7, ["hello"])], [], []⟩
    "bug" ∈ (Intake.runAll exampleIntakes m).labelsOf 7 ∧
      ["hello"] <+: (Intake.runAll exampleIntakes m).commentsOf 7 := by
  intro m
  have fixed : ∀ i ∈ exampleIntakes, i.entry.options.config.approvedLabel = "approved" := by
    decide
  obtain ⟨framed, -⟩ := run_framed fixed m
  exact ⟨(framed.labels 7 "bug" (by decide)).2 (by decide), framed.comments 7⟩

end SuiteTrigger
