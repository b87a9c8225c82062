import SuiteTrigger.Proofs.MemoryDeliveries

/-!
# Answers to deliveries

Whatever the webhook receives, it answers. It asks for redelivery exactly when the token is denied,
or when an event gets past all checks and the work on it calls a method that is set to fail
(`delivery_answered`). The work on an event fails only there, and transiently (`Ending.Calls`,
`eventEnding_calls`).
-/

namespace SuiteTrigger

/-- A method that is set to fail is among some methods. -/
def Memory.Meets (m : Memory) (methods : List Method) : Prop :=
  ∃ method ∈ methods, method ∈ m.failing

/-- The work called the methods `made` on platform `m`. It failed transiently exactly when one of
them is set to fail. -/
structure Ending.Calls {α : Type} (e : Ending Memory α) (m : Memory) (made : List Method) :
    Prop where
  recorded : e.platform.calls = m.calls ++ made
  succeeds : ¬ m.Meets made → ∃ value, e.outcome = .ok value
  fails : m.Meets made → ∃ failure, failure.isTransient = true ∧ e.outcome = .error failure

namespace Ending.Calls

variable {α β : Type} {e : Ending Memory α} {m q : Memory} {first made : List Method}

theorem none {value : α} {moves : List Counter} : Calls ⟨.ok value, m, moves⟩ m [] where
  recorded := (List.append_nil m.calls).symm
  succeeds _ := ⟨value, rfl⟩
  fails := by
    rintro ⟨method, called, -⟩
    exact absurd called List.not_mem_nil

/-- What work calls comes after the calls before it, when none of those failed. -/
theorem after (calls : e.Calls q made) (earlier : q.calls = m.calls ++ first)
    (same : q.failing = m.failing) (free : ¬ m.Meets first) : e.Calls m (first ++ made) := by
  have meets : m.Meets (first ++ made) ↔ q.Meets made := by
    unfold Memory.Meets at free ⊢
    rw [same]
    constructor
    · rintro ⟨method, called, fails⟩
      rcases List.mem_append.1 called with before | now
      · exact absurd ⟨method, before, fails⟩ free
      · exact ⟨method, now, fails⟩
    · rintro ⟨method, called, fails⟩
      exact ⟨method, List.mem_append_right first called, fails⟩
  refine ⟨?_, ?_, ?_⟩
  · rw [calls.recorded, earlier, List.append_assoc]
  · intro passes
    exact calls.succeeds fun fails => passes (meets.2 fails)
  · intro fails
    exact calls.fails (meets.1 fails)

theorem map (calls : e.Calls m made) (f : α → β) : (e.map f).Calls m made := by
  refine ⟨calls.recorded, ?_, ?_⟩
  · intro passes
    obtain ⟨value, outcome⟩ := calls.succeeds passes
    exact ⟨f value, congrArg (Except.map f) outcome⟩
  · intro fails
    obtain ⟨failure, transient, outcome⟩ := calls.fails fails
    exact ⟨failure, transient, congrArg (Except.map f) outcome⟩

end Ending.Calls

namespace Memory

/-- Calls that are made up to the first that fails do meet it. -/
theorem meets_reached {m : Memory} {methods : List Method} (meets : m.Meets methods) :
    m.Meets (m.reached methods) := by
  induction methods with
  | nil => exact meets
  | cons method methods ih =>
    obtain ⟨other, called, fails⟩ := meets
    rw [reached]
    by_cases stops : method ∈ m.failing
    · rw [if_pos stops]
      exact ⟨method, List.mem_singleton_self method, stops⟩
    · rw [if_neg stops]
      rcases List.mem_cons.1 called with rfl | later
      · exact absurd fails stops
      · obtain ⟨another, reached, failsToo⟩ := ih ⟨other, later, fails⟩
        exact ⟨another, List.mem_cons_of_mem method reached, failsToo⟩

theorem listEnding_calls (n : Int) (applied actions : List Action) (m : Memory) :
    ∃ made, (listEnding n applied actions m).Calls m made := by
  induction actions generalizing applied m with
  | nil => exact ⟨[], .none⟩
  | cons a actions ih =>
    by_cases blocked : m.Blocks n a
    · obtain ⟨method, ending⟩ := listEnding_blocked blocked applied actions
      rw [ending]
      refine ⟨m.reached (m.methodsFor n a), rfl, ?_, ?_⟩
      · intro passes
        exact absurd (meets_reached blocked) passes
      · intro _
        exact ⟨_, rfl, rfl⟩
    · rw [listEnding_works blocked]
      obtain ⟨made, calls⟩ := ih (applied ++ [a]) ((m.perform n a).record (m.methodsFor n a))
      have earlier : ((m.perform n a).record (m.methodsFor n a)).calls =
          m.calls ++ m.methodsFor n a := by
        rw [record, calls_perform]
      have all := calls.after earlier (failing_perform m n a) blocked
      exact ⟨m.methodsFor n a ++ made, all.recorded, all.succeeds, all.fails⟩

theorem actEnding_calls (m : Memory) (options : Options) (event : Event) :
    ∃ made, (m.actEnding options event).Calls m made := by
  unfold actEnding
  by_cases unread : Method.getLabels ∈ m.failing
  · rw [if_pos unread]
    refine ⟨[.getLabels], rfl, ?_, ?_⟩
    · intro passes
      exact absurd ⟨.getLabels, List.mem_singleton_self _, unread⟩ passes
    · intro _
      exact ⟨_, rfl, rfl⟩
  · rw [if_neg unread]
    have free : ¬ m.Meets [.getLabels] := by
      rintro ⟨method, called, fails⟩
      exact unread (List.mem_singleton.1 called ▸ fails)
    cases options.dryRun with
    | true =>
      refine ⟨[.getLabels], rfl, ?_, ?_⟩
      · intro _
        exact ⟨_, rfl⟩
      · intro fails
        exact absurd fails free
    | false =>
      obtain ⟨made, calls⟩ := listEnding_calls event.pr.number []
        (options.config.actionsFor (m.labelsOf event.pr.number) event) (m.record [.getLabels])
      exact ⟨.getLabels :: made, calls.after rfl rfl free⟩

/-- The work on an event fails exactly when it calls a method that is set to fail. -/
theorem eventEnding_calls (m : Memory) (options : Options) (event : Event) :
    ∃ made, (m.eventEnding options event).Calls m made := by
  cases event with
  | codePush pr action => exact actEnding_calls m options _
  | reviewSubmitted pr outcome => exact actEnding_calls m options _
  | ignored pr kind action => exact ⟨[], .none⟩

end Memory

namespace Delivery

/-- The data of a delivery are an object with an installation, which is an object with an id. -/
def Installed (d : Delivery) (id : Json) : Prop :=
  ∃ fields installation, d.data = .obj fields ∧
    fields.lookup "installation" = some (.obj installation) ∧ installation.lookup "id" = some id

theorem installation?_eq_some_iff {d : Delivery} {id : Json} :
    d.installation? = some id ↔ d.Installed id := by
  unfold installation? Installed
  constructor
  · intro named
    obtain ⟨v, found, inside⟩ := Option.bind_eq_some_iff.1 named
    cases data : d.data with
    | obj fields =>
      rw [data] at found
      cases v with
      | obj installation => exact ⟨fields, installation, rfl, found, inside⟩
      | _ => nomatch inside
    | _ =>
      rw [data] at found
      nomatch found
  · rintro ⟨fields, installation, data, found, inside⟩
    rw [data, Json.field?, found]
    exact inside

theorem Installed.object {d : Delivery} {id : Json} (installed : d.Installed id) :
    ∃ fields, d.data = .obj fields := by
  obtain ⟨fields, -, data, -⟩ := installed
  exact ⟨fields, data⟩

theorem Installed.unique {d : Delivery} {id other : Json} (installed : d.Installed id)
    (installedToo : d.Installed other) : id = other := by
  have named := installation?_eq_some_iff.2 installed
  rw [installation?_eq_some_iff.2 installedToo] at named
  exact (Option.some.inj named).symm

end Delivery

def Event.isIgnored : Event → Bool
  | .ignored .. => true
  | _ => false

/-- Why a delivery is dropped, when the private repositories with the names in `listed` are served.
-/
inductive Delivery.Dropped (listed : List String) (d : Delivery) : Prop
  | unsupported (other : ¬ d.isSupported = true)
  | notInstalled (nowhere : ∀ id, ¬ d.Installed id)
  | malformed (tellsNone : ∀ event, ¬ d.TellsOf event)
  | withheld (hidden : d.Withheld listed)
  | ignored (event : Event) (tells : d.TellsOf event) (ignored : event.isIgnored = true)

/-- A delivery is not dropped whose event gets past all checks. -/
theorem Delivery.not_dropped {d : Delivery} {id : Json} {event : Event} {listed : List String}
    (installed : d.Installed id) (tells : d.TellsOf event) (served : ¬ d.Withheld listed)
    (acts : ¬ event.isIgnored = true) : ¬ d.Dropped listed := by
  intro dropped
  cases dropped with
  | unsupported other => exact other tells.supported
  | notInstalled nowhere => exact nowhere id installed
  | malformed tellsNone => exact tellsNone event tells
  | withheld hidden => exact served hidden
  | ignored other tellsToo ignored =>
    have same : event = other := Except.ok.inj (tells.symm.trans tellsToo)
    exact acts (same ▸ ignored)

/-- An object that tells of no event is malformed. -/
theorem Event.ofDelivered_error {name : String} {fields : Payload} {failure : Failure}
    (refused : ofDelivered name (.obj fields) = .error failure) :
    ∃ cause, failure = .malformed cause := by
  unfold ofDelivered at refused
  dsimp only at refused
  cases read : ofPayload name fields with
  | ok event =>
    rw [read] at refused
    nomatch refused
  | error cause =>
    rw [read] at refused
    exact ⟨cause, (Except.error.inj refused).symm⟩

namespace Memory

variable {m : Memory} {settings : Settings} {c : Connection} {d : Delivery}

/-- A delivery is answered at once when its name is not handled or it names no installation. -/
theorem deliveryEnding_early (early : ¬ (d.isSupported = true ∧ ∃ id, d.Installed id)) :
    (m.deliveryEnding settings c d).outcome = .ok .ok ∧
      (m.deliveryEnding settings c d).platform = m := by
  unfold deliveryEnding
  by_cases supported : d.isSupported = true
  · rw [if_pos supported]
    cases named : d.installation? with
    | none => exact ⟨rfl, rfl⟩
    | some id => exact absurd ⟨supported, id, Delivery.installation?_eq_some_iff.1 named⟩ early
  · rw [if_neg supported]
    exact ⟨rfl, rfl⟩

theorem deliveryEnding_connected {id : Json} (supported : d.isSupported = true)
    (installed : d.Installed id) :
    m.deliveryEnding settings c d =
      let e := (m.connectedEnding settings d (c.fetched id).outcome).answered
      ⟨e.outcome, e.platform, .webhook d.name :: ((c.fetched id).moves ++ e.moves)⟩ := by
  unfold deliveryEnding
  rw [if_pos supported, Delivery.installation?_eq_some_iff.2 installed]

/-- A received delivery leaves the platform as it is, or as it is left when the delivery is
dispatched. -/
theorem deliveryEnding_platform (m : Memory) (settings : Settings) (c : Connection) (d : Delivery) :
    (m.deliveryEnding settings c d).platform = m ∨
      (m.deliveryEnding settings c d).platform =
        (m.dispatchEnding settings (.ofSettings settings) d).platform := by
  by_cases connects : d.isSupported = true ∧ ∃ id, d.Installed id
  · obtain ⟨supported, id, installed⟩ := connects
    rw [deliveryEnding_connected supported installed]
    cases (c.fetched id).outcome with
    | ok value => exact .inr rfl
    | error failure => exact .inl rfl
  · exact .inl (deliveryEnding_early connects).2

/-- A dispatched delivery is not let through to the pipeline, or its event is handled there. An
object that is not let through is answered with 200. -/
theorem dispatchEnding_cases (m : Memory) (settings : Settings) (options : Options) (d : Delivery) :
    (m.dispatchEnding settings options d).platform = m ∧
        (∀ fields, d.data = .obj fields →
          (m.dispatchEnding settings options d).answered.outcome = .ok .ok) ∨
      ∃ event, d.TellsOf event ∧ ¬ d.Withheld settings.listed ∧
        m.dispatchEnding settings options d = (m.eventEnding options event).map fun _ => () := by
  unfold dispatchEnding
  by_cases supported : d.isSupported = true
  · rw [if_pos supported]
    cases read : Event.ofDelivered d.name d.data with
    | error failure =>
      refine .inl ⟨rfl, ?_⟩
      intro fields isObject
      rw [isObject] at read
      obtain ⟨cause, rfl⟩ := Event.ofDelivered_error read
      exact answered_malformed rfl
    | ok event =>
      dsimp only
      by_cases withheld : d.Withheld settings.listed
      · rw [if_pos withheld]
        exact .inl ⟨rfl, fun _ _ => rfl⟩
      · rw [if_neg withheld]
        exact .inr ⟨event, read, withheld, rfl⟩
  · rw [if_neg supported]
    exact .inl ⟨rfl, fun _ _ => rfl⟩

theorem eventEnding_ignored (m : Memory) (options : Options) {event : Event}
    (ignored : event.isIgnored = true) :
    (m.eventEnding options event).outcome = .ok [] ∧
      (m.eventEnding options event).platform = m := by
  cases event with
  | ignored pr kind action => exact ⟨rfl, rfl⟩
  | _ => nomatch ignored

end Memory

/-- A delivery is to be sent again when the token of its installation is denied, or when its event
is handled and meets a method that is set to fail among those in `made`. -/
def Delivery.Again (settings : Settings) (c : Memory.Connection) (m : Memory)
    (made : List Method) (d : Delivery) : Prop :=
  d.isSupported = true ∧ ∃ id, d.Installed id ∧ (c.Denies id ∨
    ∃ event, d.TellsOf event ∧ ¬ d.Withheld settings.listed ∧ ¬ event.isIgnored = true ∧
      m.Meets made)

/-- How a delivery is answered that calls the methods `made` on platform `m` and leaves platform
`after`. -/
structure Answered (settings : Settings) (c : Memory.Connection) (d : Delivery)
    (m after : Memory) (made : List Method) (status : DeliveryStatus) : Prop where
  calls : after.calls = m.calls ++ made
  status_iff : status.code = 502 ↔ d.Again settings c m made
  untouched : d.Dropped settings.listed ∨ (∃ id, d.Installed id ∧ c.Denies id) → after = m

namespace Answered

variable {m : Memory} {settings : Settings} {c : Memory.Connection} {d : Delivery}

theorem quiet (granted : d.isSupported = true → ∀ id, d.Installed id → ¬ c.Denies id) :
    Answered settings c d m m [] .ok where
  calls := (List.append_nil m.calls).symm
  status_iff := by
    constructor
    · intro again
      nomatch again
    · rintro ⟨supported, id, installed, denied | ⟨event, -, -, -, method, called, -⟩⟩
      · exact absurd denied (granted supported id installed)
      · exact absurd called List.not_mem_nil
  untouched _ := rfl

theorem denied {id : Json} (supported : d.isSupported = true) (installed : d.Installed id)
    (denied : c.Denies id) : Answered settings c d m m [] .badGateway where
  calls := (List.append_nil m.calls).symm
  status_iff := by
    constructor
    · intro _
      exact ⟨supported, id, installed, .inl denied⟩
    · intro _
      rfl
  untouched _ := rfl

/-- A delivery whose event gets past all checks is answered by the calls that the work on it makes.
-/
theorem handled {id : Json} {event : Event} {e : Ending Memory Unit} {made : List Method}
    (installed : d.Installed id) (granted : ¬ c.Denies id) (tells : d.TellsOf event)
    (served : ¬ d.Withheld settings.listed) (acts : ¬ event.isIgnored = true)
    (calls : e.Calls m made) :
    ∃ status, e.answered.outcome = .ok status ∧
      Answered settings c d m e.platform made status := by
  have undenied : ∀ other, d.Installed other → ¬ c.Denies other := by
    intro other installedToo
    rwa [← installed.unique installedToo]
  have touched : ¬ (d.Dropped settings.listed ∨ ∃ other, d.Installed other ∧ c.Denies other) := by
    rintro (dropped | ⟨other, installedToo, denied⟩)
    · exact Delivery.not_dropped installed tells served acts dropped
    · exact undenied other installedToo denied
  by_cases meets : m.Meets made
  · obtain ⟨failure, transient, failed⟩ := calls.fails meets
    refine ⟨.badGateway, answered_transient transient failed, calls.recorded, ?_,
      fun untouched => absurd untouched touched⟩
    constructor
    · intro _
      exact ⟨tells.supported, id, installed, .inr ⟨event, tells, served, acts, meets⟩⟩
    · intro _
      rfl
  · obtain ⟨value, done⟩ := calls.succeeds meets
    refine ⟨.ok, answered_ok done, calls.recorded, ?_,
      fun untouched => absurd untouched touched⟩
    constructor
    · intro again
      nomatch again
    · rintro ⟨-, other, installedToo, denied | ⟨-, -, -, -, met⟩⟩
      · exact absurd denied (undenied other installedToo)
      · exact absurd met meets

theorem dispatched {id : Json} (installed : d.Installed id) (granted : ¬ c.Denies id) :
    ∃ status made,
      (m.dispatchEnding settings (.ofSettings settings) d).answered.outcome = .ok status ∧
      Answered settings c d m (m.dispatchEnding settings (.ofSettings settings) d).platform
        made status := by
  obtain ⟨fields, isObject⟩ := installed.object
  have silent : Answered settings c d m m [] .ok := by
    refine quiet fun _ other installedToo => ?_
    rwa [← installed.unique installedToo]
  rcases m.dispatchEnding_cases settings (.ofSettings settings) d with
    ⟨kept, ok⟩ | ⟨event, tells, served, ending⟩
  · rw [ok fields isObject, kept]
    exact ⟨.ok, [], rfl, silent⟩
  rw [ending]
  by_cases ignored : event.isIgnored = true
  · obtain ⟨ok, kept⟩ := m.eventEnding_ignored (.ofSettings settings) ignored
    have same : ((m.eventEnding (.ofSettings settings) event).map fun _ => ()).platform = m := kept
    rw [same]
    exact ⟨.ok, [], answered_ok (congrArg (Except.map fun _ => ()) ok), silent⟩
  · obtain ⟨made, calls⟩ := m.eventEnding_calls (.ofSettings settings) event
    obtain ⟨status, answer, answered⟩ :=
      handled installed granted tells served ignored (calls.map fun _ => ())
    exact ⟨status, made, answer, answered⟩

end Answered

/-- However installations are connected, every delivery is answered. It is to be sent again exactly
when its token is denied or its event meets a failing method, and it leaves the platform as it is
when it is dropped or the token is denied. -/
theorem delivery_answered (settings : Settings) (c : Memory.Connection) (m : Memory)
    (d : Delivery) :
    let received := (Pipeline.deliver Memory.ops settings c.connect d).on ⟨m, .empty⟩
    ∃ status made, received.1 = .ok status ∧
      Answered settings c d m received.2.platform made status := by
  intro received
  obtain ⟨came, left, -⟩ := (Memory.delivery_ends m settings c d).on_eq
  have outcome : received.1 = (m.deliveryEnding settings c d).outcome := came
  have platform : received.2.platform = (m.deliveryEnding settings c d).platform := left
  rw [outcome, platform]
  by_cases connects : d.isSupported = true ∧ ∃ id, d.Installed id
  · obtain ⟨supported, id, installed⟩ := connects
    rw [Memory.deliveryEnding_connected supported installed]
    cases token : (c.fetched id).outcome with
    | ok value => exact Answered.dispatched installed fun denied => denied token
    | error failure =>
      have denied : c.Denies id := by
        rw [Memory.Connection.Denies, token]
        exact nofun
      exact ⟨.badGateway, [], answered_transient (c.transient token) rfl,
        .denied supported installed denied⟩
  · obtain ⟨ok, same⟩ := Memory.deliveryEnding_early connects
    rw [ok, same]
    refine ⟨.ok, [], rfl, .quiet ?_⟩
    intro supported id installed
    exact absurd ⟨supported, id, installed⟩ connects

end SuiteTrigger
