import SuiteTrigger.Proofs.DryRuns

/-!
# Accounts of deliveries

Every delivery is counted once under its name. Besides, it is settled by at most one more counter:
it was skipped, or it ended in an error (`Settled`). It is settled by none exactly when it goes all
the way through: the token is granted, the event is let through, its labels are read, and every
action that they lead to is carried out (`Delivery.GoesThrough`, `delivery_settled`). What holds of
one delivery adds up over any run of them (`deliveries_accounted`).
-/

namespace SuiteTrigger

namespace Counter

def isWebhook : Counter → Bool
  | .webhook _ => true
  | _ => false

/-- Whether a counter tells that a delivery was skipped or ended in an error. -/
def settles : Counter → Bool
  | .skipped .. => true
  | .error .malformedEvent => true
  | .error .eventDispatch => true
  | _ => false

def isAction : Counter → Bool
  | .action .. => true
  | _ => false

def settling (moves : List Counter) : List Counter := moves.filter settles

theorem settling_append (first second : List Counter) :
    settling (first ++ second) = settling first ++ settling second := List.filter_append ..

theorem settles_action {c : Counter} (action : c.isAction = true) : ¬ c.settles = true := by
  cases c with
  | action kind result => exact Bool.false_ne_true
  | _ => nomatch action

theorem isWebhook_action {c : Counter} (action : c.isAction = true) : ¬ c.isWebhook = true := by
  cases c with
  | action kind result => exact Bool.false_ne_true
  | _ => nomatch action

theorem isWebhook_call {c : Counter} (call : c.isCall = true) : ¬ c.isWebhook = true := by
  cases c with
  | apiCall endpoint => exact Bool.false_ne_true
  | _ => nomatch call

theorem settling_calls {moves : List Counter} (calls : ∀ c ∈ moves, c.isCall = true) :
    settling moves = [] := by
  refine List.filter_eq_nil_iff.2 fun c moved => ?_
  cases c with
  | apiCall endpoint => exact Bool.false_ne_true
  | _ => nomatch calls _ moved

theorem settling_actions {moves : List Counter} (actions : ∀ c ∈ moves, c.isAction = true) :
    settling moves = [] :=
  List.filter_eq_nil_iff.2 fun c moved => settles_action (actions c moved)

/-- A counter that settles deliveries is moved as often as it is among those that settle. -/
theorem count_settling {c : Counter} (settles : c.settles = true) (moves : List Counter) :
    (settling moves).count c = moves.count c :=
  List.count_filter settles

end Counter

namespace Memory

theorem listEnding_moves (n : Int) (applied actions : List Action) (m : Memory) :
    ∀ c ∈ (listEnding n applied actions m).moves, c.isAction = true := by
  induction actions generalizing applied m with
  | nil => exact fun c moved => absurd moved List.not_mem_nil
  | cons a actions ih =>
    by_cases blocked : m.Blocks n a
    · obtain ⟨method, ending⟩ := listEnding_blocked blocked applied actions
      rw [ending]
      intro c moved
      rw [List.mem_singleton.1 moved]
      rfl
    · rw [listEnding_works blocked]
      intro c moved
      rcases List.mem_cons.1 moved with rfl | later
      · rfl
      · exact ih _ _ c later

/-- The work on an event that is not ignored counts what becomes of its actions and nothing else. -/
theorem actEnding_moves (m : Memory) (options : Options) (event : Event) :
    ∀ c ∈ (m.actEnding options event).moves, c.isAction = true := by
  unfold actEnding
  by_cases unread : Method.getLabels ∈ m.failing
  · rw [if_pos unread]
    exact fun c moved => absurd moved List.not_mem_nil
  rw [if_neg unread]
  cases options.dryRun with
  | true =>
    intro c moved
    obtain ⟨a, -, rfl⟩ := List.mem_map.1 moved
    rfl
  | false => exact listEnding_moves _ _ _ _

/-- An event is worked off: its labels are read, and the actions that they lead to are all carried
out. -/
def WorksOff (m : Memory) (options : Options) (event : Event) : Prop :=
  ∃ labels, ((ops.readLabels event.pr).on ⟨m, .empty⟩).1 = .ok labels ∧
    ((Execution.apply ops event.pr options.dryRun (options.config.actionsFor labels event)).on
      ⟨((ops.readLabels event.pr).on ⟨m, .empty⟩).2.platform, .empty⟩).1 =
        .ok (options.config.actionsFor labels event)

/-- The work on an event succeeds exactly when the event is worked off. -/
theorem worksOff_iff (m : Memory) (options : Options) (event : Event) :
    m.WorksOff options event ↔ ∃ actions, (m.actEnding options event).outcome = .ok actions := by
  unfold WorksOff actEnding
  by_cases unread : Method.getLabels ∈ m.failing
  · rw [if_pos unread, (readLabels_stops unread event.pr).on_eq.1]
    constructor
    · rintro ⟨labels, read, -⟩
      nomatch read
    · rintro ⟨actions, came⟩
      nomatch came
  · obtain ⟨read, left, -⟩ := (readLabels_ends unread event.pr).on_eq
    rw [if_neg unread, read, left]
    have applied (labels : LabelSet) := (apply_ends event.pr options.dryRun
      (options.config.actionsFor labels event) (m.record [.getLabels])).on_eq.1
    constructor
    · rintro ⟨labels, same, done⟩
      cases same
      rw [applied] at done
      exact ⟨_, done⟩
    · rintro ⟨actions, came⟩
      refine ⟨_, rfl, ?_⟩
      rw [applied]
      cases dry : options.dryRun with
      | true => rfl
      | false =>
        simp only [dry, Bool.false_eq_true, if_false] at came ⊢
        rcases listEnding_cases rfl rfl event.pr.number []
          (options.config.actionsFor (m.labelsOf event.pr.number) event) with
          ⟨-, succeeds⟩ | ⟨done, -, fails⟩
        · exact succeeds.outcome
        · obtain ⟨failure, -, failed⟩ := fails.outcome
          rw [failed] at came
          nomatch came

end Memory

/-- A delivery goes all the way through: the token of its installation is granted, its event gets
past all checks, and the event is worked off. -/
def Delivery.GoesThrough (settings : Settings) (c : Memory.Connection) (m : Memory)
    (d : Delivery) : Prop :=
  ∃ id event, d.Installed id ∧ ¬ c.Denies id ∧ d.TellsOf event ∧
    ¬ d.Withheld settings.listed ∧ ¬ event.isIgnored = true ∧
    m.WorksOff (.ofSettings settings) event

/-- How a delivery that goes through or does not is answered, and the counters that settle it. -/
inductive Settled (through : Prop) : DeliveryStatus → List Counter → Prop
  | done (holds : through) : Settled through .ok []
  | dropped {c : Counter} (stops : ¬ through) (other : c ≠ .error .eventDispatch) :
    Settled through .ok [c]
  | again (stops : ¬ through) : Settled through .badGateway [.error .eventDispatch]

/-- Whether the answer to a delivery asks to send it again. -/
def asksAgain : Except Failure DeliveryStatus → Bool
  | .ok status => status.code = 502
  | .error _ => false

namespace Settled

variable {through : Prop} {status : DeliveryStatus} {counters : List Counter}

theorem atMostOne (settled : Settled through status counters) : counters.length ≤ 1 := by
  cases settled with
  | done holds => exact Nat.zero_le 1
  | dropped stops other => exact Nat.le_refl 1
  | again stops => exact Nat.le_refl 1

theorem count_again (settled : Settled through status counters) :
    counters.count (.error .eventDispatch) = if asksAgain (.ok status) then 1 else 0 := by
  cases settled with
  | done holds => rfl
  | dropped stops other =>
    exact List.count_eq_zero.2 fun same => other (List.mem_singleton.1 same).symm
  | again stops => rfl

theorem eq_nil_iff (settled : Settled through status counters) :
    counters = [] ↔ status = .ok ∧ through := by
  cases settled with
  | done holds => exact ⟨fun _ => ⟨rfl, holds⟩, fun _ => rfl⟩
  | dropped stops other => exact ⟨nofun, fun all => absurd all.2 stops⟩
  | again stops => exact ⟨nofun, fun all => absurd all.2 stops⟩

end Settled

/-- The ending answers a delivery, and besides its name it counts what settles it. -/
structure Ending.Settles (e : Ending Memory DeliveryStatus) (through : Prop) : Prop where
  unnamed : ∀ c ∈ e.moves, ¬ c.isWebhook = true
  settled : ∃ status, e.outcome = .ok status ∧ Settled through status (Counter.settling e.moves)

theorem answerTo_transient {failure : Failure} (transient : failure.isTransient = true) :
    answerTo (.error failure) = (.ok .badGateway, [.error .eventDispatch]) := by
  cases failure with
  | transient message => rfl
  | actionFailed message action applied => rfl
  | _ => nomatch transient

namespace Memory

variable {m : Memory} {settings : Settings} {connection : Connection} {d : Delivery}

theorem settles_dropped {e : Ending Memory DeliveryStatus} {through : Prop} {c : Counter}
    (ok : e.outcome = .ok .ok) (moves : e.moves = [c]) (settles : c.settles = true)
    (other : c ≠ .error .eventDispatch) (unnamed : ¬ c.isWebhook = true) (stops : ¬ through) :
    e.Settles through where
  unnamed := by
    rw [moves]
    intro moved inside
    rwa [List.mem_singleton.1 inside]
  settled := by
    rw [moves, Counter.settling, List.filter_cons_of_pos settles]
    exact ⟨.ok, ok, .dropped stops other⟩

/-- The calls that are counted before do not settle a delivery. -/
theorem settles_after {e : Ending Memory DeliveryStatus} {through : Prop} {calls : List Counter}
    (only : ∀ c ∈ calls, c.isCall = true) (settles : e.Settles through) :
    Ending.Settles ⟨e.outcome, e.platform, calls ++ e.moves⟩ through where
  unnamed c moved := by
    rcases List.mem_append.1 moved with called | after
    · exact Counter.isWebhook_call (only c called)
    · exact settles.unnamed c after
  settled := by
    rw [Counter.settling_append, Counter.settling_calls only, List.nil_append]
    exact settles.settled

theorem settles_denied {failure : Failure} {through : Prop}
    (transient : failure.isTransient = true) (stops : ¬ through) :
    (Ending.answered ⟨.error failure, m, []⟩).Settles through := by
  rw [Ending.answered, answerTo_transient transient]
  refine ⟨?_, .badGateway, rfl, .again stops⟩
  intro c moved
  rw [List.mem_singleton.1 moved]
  exact Bool.false_ne_true

/-- The work on an event that gets past all checks settles its delivery by its outcome. -/
theorem act_settles {event : Event} {through : Prop}
    (works : through ↔ m.WorksOff (.ofSettings settings) event) :
    ((m.actEnding (.ofSettings settings) event).map fun _ => ()).answered.Settles through := by
  have actions := m.actEnding_moves (.ofSettings settings) event
  obtain ⟨made, calls⟩ := m.actEnding_calls (.ofSettings settings) event
  rw [m.worksOff_iff] at works
  by_cases meets : m.Meets made
  · obtain ⟨failure, transient, failed⟩ := calls.fails meets
    have stops : ¬ through := by
      rw [works]
      rintro ⟨value, came⟩
      rw [failed] at came
      nomatch came
    rw [Ending.answered, Ending.map, failed]
    dsimp only [Except.map]
    rw [answerTo_transient transient]
    refine ⟨?_, .badGateway, rfl, ?_⟩
    · intro c moved
      rcases List.mem_append.1 moved with acted | last
      · exact Counter.isWebhook_action (actions c acted)
      · rw [List.mem_singleton.1 last]
        exact Bool.false_ne_true
    · rw [Counter.settling_append, Counter.settling_actions actions]
      exact .again stops
  · obtain ⟨value, came⟩ := calls.succeeds meets
    rw [Ending.answered, Ending.map, came]
    dsimp only [Except.map, answerTo]
    rw [List.append_nil]
    refine ⟨fun c moved => Counter.isWebhook_action (actions c moved), .ok, rfl, ?_⟩
    rw [Counter.settling_actions actions]
    exact .done (works.2 ⟨value, came⟩)

/-- A delivery whose token is granted is settled by what it comes to when it is dispatched. -/
theorem dispatch_settles {id : Json} (supported : d.isSupported = true) (installed : d.Installed id)
    (granted : ¬ connection.Denies id) :
    (m.dispatchEnding settings (.ofSettings settings) d).answered.Settles
      (d.GoesThrough settings connection m) := by
  unfold dispatchEnding
  rw [if_pos supported]
  cases read : Event.ofDelivered d.name d.data with
  | error failure =>
    obtain ⟨fields, isObject⟩ := installed.object
    rw [isObject] at read
    obtain ⟨cause, rfl⟩ := Event.ofDelivered_error read
    refine settles_dropped rfl rfl rfl nofun nofun ?_
    rintro ⟨-, event, -, -, tells, -⟩
    rw [Delivery.TellsOf, isObject, read] at tells
    nomatch tells
  | ok event =>
    have only : ∀ other, d.TellsOf other → event = other :=
      fun other tells => Except.ok.inj (read.symm.trans tells)
    dsimp only
    by_cases withheld : d.Withheld settings.listed
    · rw [if_pos withheld]
      refine settles_dropped rfl rfl rfl nofun nofun ?_
      rintro ⟨-, -, -, -, -, served, -⟩
      exact served withheld
    rw [if_neg withheld]
    by_cases ignored : event.isIgnored = true
    · cases event with
      | ignored pr kind action =>
        refine settles_dropped rfl rfl rfl nofun nofun ?_
        rintro ⟨-, other, -, -, tells, -, acts, -⟩
        exact acts (only other tells ▸ ignored)
      | _ => nomatch ignored
    · rw [eventEnding_acts ignored]
      refine act_settles ⟨?_, ?_⟩
      · rintro ⟨-, other, -, -, tells, -, -, works⟩
        rwa [only other tells]
      · intro works
        exact ⟨id, event, installed, granted, read, withheld, ignored, works⟩

/-- A delivery of an installation is settled by what it comes to once its token was asked for. -/
theorem connected_settles {id : Json} (supported : d.isSupported = true)
    (installed : d.Installed id) :
    (m.connectedEnding settings d (connection.fetched id).outcome).answered.Settles
      (d.GoesThrough settings connection m) := by
  cases token : (connection.fetched id).outcome with
  | ok value => exact dispatch_settles supported installed fun denied => denied token
  | error failure =>
    refine settles_denied (connection.transient token) ?_
    rintro ⟨other, -, installedToo, granted, -⟩
    rw [← installed.unique installedToo, Connection.Denies, token] at granted
    refine granted ?_
    rintro ⟨⟩

/-- Every received delivery is answered, counted once under its name, and settled by whether it goes
all the way through. -/
theorem delivery_settled (m : Memory) (settings : Settings) (connection : Connection)
    (d : Delivery) :
    ∃ e : Ending Memory DeliveryStatus, e.Settles (d.GoesThrough settings connection m) ∧
      m.deliveryEnding settings connection d =
        ⟨e.outcome, e.platform, .webhook d.name :: e.moves⟩ := by
  by_cases supported : d.isSupported = true
  · cases named : d.installation? with
    | none =>
      refine ⟨⟨.ok .ok, m, [.error .malformedEvent]⟩, ?_, ?_⟩
      · refine settles_dropped rfl rfl rfl nofun nofun ?_
        rintro ⟨id, -, installed, -⟩
        rw [Delivery.installation?_eq_some_iff.2 installed] at named
        nomatch named
      · rw [deliveryEnding, if_pos supported, named]
    | some id =>
      have installed := Delivery.installation?_eq_some_iff.1 named
      have settles : (m.connectedEnding settings d
          (connection.fetched id).outcome).answered.Settles (d.GoesThrough settings connection m) :=
        connected_settles supported installed
      exact ⟨_, settles_after (connection.calls id) settles,
        deliveryEnding_connected supported installed⟩
  · refine ⟨⟨.ok .ok, m, [.skipped d.name .event]⟩, ?_, ?_⟩
    · refine settles_dropped rfl rfl rfl nofun nofun ?_
      rintro ⟨-, event, -, -, tells, -⟩
      exact supported tells.supported
    · rw [deliveryEnding, if_neg supported]

end Memory

/-! ## Runs of deliveries -/

/-- A delivery that the webhook receives, the methods that fail meanwhile, and how installations are
connected. -/
structure Reception where
  delivery : Delivery
  failing : List Method
  connection : Memory.Connection

namespace Reception

/-- Receives a delivery on a platform with a journal. -/
def on (settings : Settings) (r : Reception) (s : Scene Memory) :
    Except Failure DeliveryStatus × Scene Memory :=
  (Pipeline.deliver Memory.ops settings r.connection.connect r.delivery).on
    ⟨s.platform.withFailing r.failing, s.journal⟩

/-- Receives deliveries one after another and gives the answers to them. -/
def all (settings : Settings) :
    List Reception → Scene Memory → List (Except Failure DeliveryStatus) × Scene Memory
  | [], s => ([], s)
  | r :: receptions, s =>
    let (answer, s) := r.on settings s
    let (answers, s) := all settings receptions s
    (answer :: answers, s)

/-- What the counters `moved` tell of a delivery on scene `s`. -/
structure Accounts (settings : Settings) (r : Reception) (s : Scene Memory)
    (moved : List Counter) : Prop where
  moves : (r.on settings s).2.journal.moves = s.journal.moves ++ moved
  named : ∀ name, moved.count (.webhook name) = if r.delivery.name = name then 1 else 0
  atMostOnce : (Counter.settling moved).length ≤ 1
  again : moved.count (.error .eventDispatch) = if asksAgain (r.on settings s).1 then 1 else 0
  unsettled : Counter.settling moved = [] ↔ (r.on settings s).1 = .ok .ok ∧
    r.delivery.GoesThrough settings r.connection (s.platform.withFailing r.failing)

theorem accounts (settings : Settings) (r : Reception) (s : Scene Memory) :
    ∃ moved, r.Accounts settings s moved := by
  obtain ⟨e, ⟨unnamed, status, answered, settled⟩, ending⟩ := Memory.delivery_settled
    (s.platform.withFailing r.failing) settings r.connection r.delivery
  have ends :=
    Memory.delivery_ends (s.platform.withFailing r.failing) settings r.connection r.delivery
  rw [ending, answered] at ends
  obtain ⟨entries, run⟩ := ends s.journal
  have came : (r.on settings s).1 = .ok status := congrArg Prod.fst run
  have settling : Counter.settling (.webhook r.delivery.name :: e.moves) =
      Counter.settling e.moves := List.filter_cons_of_neg Bool.false_ne_true
  refine ⟨.webhook r.delivery.name :: e.moves, ?_, ?_, ?_, ?_, ?_⟩
  · rw [on, run]
  · intro name
    have others : e.moves.count (.webhook name) = 0 :=
      List.count_eq_zero.2 fun moved => unnamed _ moved rfl
    rw [List.count_cons, others]
    simp
  · rw [settling]
    exact settled.atMostOne
  · rw [← Counter.count_settling rfl, settling, came]
    exact settled.count_again
  · rw [settling, came, settled.eq_nil_iff]
    simp

/-- Over a run of deliveries the counter of a name grows by the deliveries of that name, and the
counter of failed dispatches by the answers that ask to send again. -/
theorem all_counts (settings : Settings) (receptions : List Reception) (s : Scene Memory) :
    (∀ name, (all settings receptions s).2.journal.count (.webhook name) =
      s.journal.count (.webhook name) + receptions.countP (·.delivery.name = name)) ∧
    (all settings receptions s).2.journal.count (.error .eventDispatch) =
      s.journal.count (.error .eventDispatch) +
        (all settings receptions s).1.countP asksAgain := by
  induction receptions generalizing s with
  | nil => exact ⟨fun name => rfl, rfl⟩
  | cons r receptions ih =>
    obtain ⟨moved, accounts⟩ := r.accounts settings s
    obtain ⟨named, again⟩ := ih (r.on settings s).2
    have step (c : Counter) : (r.on settings s).2.journal.count c =
        s.journal.count c + moved.count c := by
      rw [Journal.count, accounts.moves, List.count_append]
      rfl
    constructor
    · intro name
      rw [all]
      dsimp only
      rw [named, step, accounts.named, List.countP_cons]
      simp only [decide_eq_true_eq]
      omega
    · rw [all]
      dsimp only
      rw [again, step, accounts.again, List.countP_cons]
      omega

end Reception

/-- Over any run of deliveries, the counter of each name grows by the deliveries of that name, and
the counter of failed dispatches by the answers that ask to send again. Each delivery moves at most
one counter that settles it, and none exactly when it is answered with 200 and goes all the way
through. -/
theorem deliveries_accounted (settings : Settings) (receptions : List Reception)
    (s : Scene Memory) :
    let run := Reception.all settings receptions s
    (∀ name, run.2.journal.count (.webhook name) =
      s.journal.count (.webhook name) + receptions.countP (·.delivery.name = name)) ∧
    run.2.journal.count (.error .eventDispatch) =
      s.journal.count (.error .eventDispatch) + run.1.countP asksAgain ∧
    ∀ r before, ∃ moved, Reception.Accounts settings r before moved := by
  intro run
  obtain ⟨named, again⟩ := Reception.all_counts settings receptions s
  exact ⟨named, again, Reception.accounts settings⟩

/-- Of three pushes one is withheld, one comes when labels cannot be read, and one goes through. -/
example :
    let receive := Reception.all exampleListed
      [⟨examplePrivatePush "o/c", [], .denying fun _ => none⟩,
        ⟨examplePrivatePush "o/b", [.getLabels], .denying fun _ => none⟩,
        ⟨examplePrivatePush "o/b", [], .denying fun _ => none⟩] ⟨.empty, .empty⟩
    receive.1.map Except.toOption = [some .ok, some .badGateway, some .ok] ∧
      Counter.settling receive.2.journal.moves =
        [.skipped "pull_request" .isPrivate, .error .eventDispatch] := by
  decide +kernel

end SuiteTrigger
