import SuiteTrigger.Pipeline.Delivery
import SuiteTrigger.Proofs.PrivateRepositories

namespace SuiteTrigger

open Work

section Gate

variable {σ : Type} {p : Platform σ} {settings : Settings} {options : Options} {d : Delivery}
  {event : Event} {s : σ}

theorem letsThrough_ends (settings : Settings) (repository : Repository) (s : σ) :
    (Pipeline.letsThrough settings repository).Ends s
      ⟨.ok (settings.serves repository), s, []⟩ := by
  unfold Pipeline.letsThrough
  cases settings.serves repository with
  | true => exact ends_pure s true
  | false => exact (ends_log _ _ _).andThen (ends_pure s false)

theorem dispatch_unsupported (unsupported : ¬ d.isSupported = true) (s : σ) :
    (Pipeline.dispatch p settings options d.name d.data).Ends s ⟨.ok (), s, []⟩ := by
  have nothing : EventKind.ofName? d.name = none := by
    simpa [Delivery.isSupported] using unsupported
  unfold Pipeline.dispatch
  rw [nothing]
  exact ends_pure s ()

/-- A dispatched delivery that tells of no event fails with what is wrong with it. -/
theorem dispatch_refused {failure : Failure} (supported : d.isSupported = true)
    (refused : Event.ofDelivered d.name d.data = .error failure) (s : σ) :
    (Pipeline.dispatch p settings options d.name d.data).Ends s ⟨.error failure, s, []⟩ := by
  have handled : (EventKind.ofName? d.name).isSome = true := supported
  obtain ⟨kind, known⟩ := Option.isSome_iff_exists.1 handled
  unfold Pipeline.dispatch
  rw [known]
  cases isObject : d.data with
  | obj payload =>
    rw [isObject] at refused
    dsimp only [Pipeline.onPullRequest]
    rw [refused]
    refine (ends_log _ _ _).andThen ?_
    exact (ends_ofExcept s (.error failure)).stop
  | _ =>
    rw [isObject] at refused
    dsimp only [Event.ofDelivered] at refused
    rw [if_pos handled] at refused
    cases refused
    exact ends_fail s _

/-- A dispatched event is handled when the gate is open, and else only counted as skipped. -/
theorem dispatch_told (tells : d.TellsOf event) {e : Ending σ (List Action)}
    (handled : (Pipeline.handleEvent p options event).Ends s e) :
    (Pipeline.dispatch p settings options d.name d.data).Ends s
      (if d.Withheld settings.listed then ⟨.ok (), s, [.skipped d.name .isPrivate]⟩
        else e.map fun _ => ()) := by
  obtain ⟨kind, known⟩ := Option.isSome_iff_exists.1 tells.supported
  obtain ⟨payload, repository, isObject, named, looked⟩ := tells.repository
  have told : Event.ofDelivered d.name (.obj payload) = .ok event := isObject ▸ tells
  have gate : d.Withheld settings.listed ↔ ¬ settings.serves repository = true := by
    rw [serves_iff, Decidable.not_not, Delivery.Withheld, named]
    simp
  unfold Pipeline.dispatch
  rw [known, isObject]
  dsimp only [Pipeline.onPullRequest]
  rw [told, looked]
  refine (ends_log _ _ _).andThen ?_
  refine (ends_ofExcept s (.ok event)).andThen ?_
  refine (ends_ofExcept s (.ok repository)).andThen ?_
  refine (letsThrough_ends settings repository s).andThen ?_
  by_cases served : settings.serves repository = true
  · rw [if_pos served, if_neg fun withheld => gate.1 withheld served]
    exact handled.map fun _ => ()
  · rw [if_neg served, if_pos (gate.2 served)]
    exact ends_count s _

end Gate

/-- What a delivery is answered that comes to an outcome, and what the answer counts: malformed ones
are dropped, transient failures are to be sent again. -/
def answerTo : Except Failure Unit → Except Failure DeliveryStatus × List Counter
  | .ok () => (.ok .ok, [])
  | .error failure =>
    if failure.isMalformed then (.ok .ok, [.error .malformedEvent])
    else if failure.isTransient then (.ok .badGateway, [.error .eventDispatch])
    else (.error failure, [])

/-- The ending of a delivery with the answer to it. -/
def Ending.answered {σ : Type} (e : Ending σ Unit) : Ending σ DeliveryStatus :=
  ⟨(answerTo e.outcome).1, e.platform, e.moves ++ (answerTo e.outcome).2⟩

theorem recover_ends {σ : Type} (name : String) (failure : Failure) (s : σ) :
    (Pipeline.recover name failure).Ends s
      ⟨(answerTo (.error failure)).1, s, (answerTo (.error failure)).2⟩ := by
  dsimp only [Pipeline.recover, answerTo]
  by_cases malformed : failure.isMalformed = true
  · rw [if_pos malformed, if_pos malformed]
    exact (ends_count _ _).bind ((ends_log _ _ _).andThen (ends_pure _ _))
  rw [if_neg malformed, if_neg malformed]
  by_cases transient : failure.isTransient = true
  · rw [if_pos transient, if_pos transient]
    exact (ends_count _ _).bind ((ends_log _ _ _).andThen (ends_pure _ _))
  · rw [if_neg transient, if_neg transient]
    exact ends_fail s failure

theorem answered_ends {σ : Type} {work : Work σ Unit} {s : σ} {e : Ending σ Unit}
    (ends : work.Ends s e) (name : String) :
    (Work.attempt work >>= fun outcome => match outcome with
      | .ok () => pure DeliveryStatus.ok
      | .error failure => Pipeline.recover name failure).Ends s e.answered := by
  refine ends.attempt.bind ?_
  cases e.outcome with
  | ok value => exact ends_pure e.platform DeliveryStatus.ok
  | error failure => exact recover_ends name failure e.platform

theorem answered_malformed {σ : Type} {e : Ending σ Unit} {cause : MalformedEvent}
    (failed : e.outcome = .error (.malformed cause)) : e.answered.outcome = .ok .ok := by
  rw [Ending.answered, failed]
  rfl

theorem answered_transient {σ : Type} {e : Ending σ Unit} {failure : Failure}
    (transient : failure.isTransient = true) (failed : e.outcome = .error failure) :
    e.answered.outcome = .ok .badGateway := by
  rw [Ending.answered, failed]
  cases failure with
  | transient message => rfl
  | actionFailed message action applied => rfl
  | _ => nomatch transient

theorem answered_ok {σ : Type} {e : Ending σ Unit} (done : e.outcome = .ok ()) :
    e.answered.outcome = .ok .ok := by
  rw [Ending.answered, done]
  rfl

namespace Memory

/-- What the fetch of a token comes to, and the counters that it moves. -/
structure Fetched where
  outcome : Except Failure Unit
  moves : List Counter

/-- How installations are connected to a platform in memory. The fetch of a token fails transiently
if at all, it leaves the platform as it is, and it counts nothing but calls. -/
structure Connection where
  connect : Json → Work Memory Unit
  fetched : Json → Fetched
  ends (m : Memory) (id : Json) :
    (connect id).Ends m ⟨(fetched id).outcome, m, (fetched id).moves⟩
  transient {id : Json} {failure : Failure} (failed : (fetched id).outcome = .error failure) :
    failure.isTransient = true
  calls (id : Json) : ∀ c ∈ (fetched id).moves, c.isCall = true

namespace Connection

/-- The token of an installation cannot be had. -/
def Denies (c : Connection) (id : Json) : Prop := (c.fetched id).outcome ≠ .ok ()

/-- Every installation is connected, unless its token is denied for a reason. -/
def denying (denied? : Json → Option String) : Connection where
  connect := Pipeline.connectUnless denied? fun _ => pure ()
  fetched id :=
    match denied? id with
    | none => ⟨.ok (), []⟩
    | some reason => ⟨.error (.transient reason), []⟩
  ends m id := by
    unfold Pipeline.connectUnless
    cases denied? id with
    | none => exact ends_pure m ()
    | some reason => exact ends_fail m _
  transient {id failure} failed := by
    cases denied : denied? id with
    | none =>
      rw [denied] at failed
      nomatch failed
    | some reason =>
      rw [denied] at failed
      cases failed
      rfl
  calls id := by
    cases denied? id <;> exact fun c moved => absurd moved List.not_mem_nil

end Connection

def payloadEnding (m : Memory) (options : Options) (d : Delivery) : Ending Memory (List Action) :=
  match Event.ofDelivered d.name d.data with
  | .ok event => m.eventEnding options event
  | .error failure => ⟨.error failure, m, []⟩

/-- What a delivery comes to that is dispatched. -/
def dispatchEnding (m : Memory) (settings : Settings) (options : Options) (d : Delivery) :
    Ending Memory Unit :=
  if d.isSupported then
    match Event.ofDelivered d.name d.data with
    | .ok event =>
      if d.Withheld settings.listed then ⟨.ok (), m, [.skipped d.name .isPrivate]⟩
      else (m.eventEnding options event).map fun _ => ()
    | .error failure => ⟨.error failure, m, []⟩
  else ⟨.ok (), m, []⟩

/-- What a delivery comes to once its token was asked for: it is dispatched, unless there is none.
-/
def connectedEnding (m : Memory) (settings : Settings) (d : Delivery) :
    Except Failure Unit → Ending Memory Unit
  | .ok () => m.dispatchEnding settings (.ofSettings settings) d
  | .error failure => ⟨.error failure, m, []⟩

/-- What a delivery comes to that the webhook receives. -/
def deliveryEnding (m : Memory) (settings : Settings) (c : Connection) (d : Delivery) :
    Ending Memory DeliveryStatus :=
  if d.isSupported then
    match d.installation? with
    | none => ⟨.ok .ok, m, [.webhook d.name, .error .malformedEvent]⟩
    | some id =>
      let e := (m.connectedEnding settings d (c.fetched id).outcome).answered
      ⟨e.outcome, e.platform, .webhook d.name :: ((c.fetched id).moves ++ e.moves)⟩
  else ⟨.ok .ok, m, [.webhook d.name, .skipped d.name .event]⟩

theorem payload_ends (m : Memory) (options : Options) (d : Delivery) :
    (Pipeline.handlePayload ops options d.name d.data).Ends m (m.payloadEnding options d) := by
  unfold payloadEnding
  cases read : Event.ofDelivered d.name d.data with
  | ok event => exact handlePayload_ends read options m
  | error failure => exact handlePayload_stops read options m

theorem dispatch_ends (m : Memory) (settings : Settings) (options : Options) (d : Delivery) :
    (Pipeline.dispatch ops settings options d.name d.data).Ends m
      (m.dispatchEnding settings options d) := by
  unfold dispatchEnding
  by_cases supported : d.isSupported = true
  · rw [if_pos supported]
    cases read : Event.ofDelivered d.name d.data with
    | ok event => exact dispatch_told read (handleEvent_ends options event m)
    | error failure => exact dispatch_refused supported read m
  · rw [if_neg supported]
    exact dispatch_unsupported supported m

theorem connected_ends (m : Memory) (settings : Settings) (c : Connection) (id : Json)
    (d : Delivery) :
    let e := m.connectedEnding settings d (c.fetched id).outcome
    (do
      c.connect id
      Work.log .debug s!"Dispatching event {d.name}"
      Pipeline.dispatch ops settings (.ofSettings settings) d.name d.data).Ends m
        ⟨e.outcome, e.platform, (c.fetched id).moves ++ e.moves⟩ := by
  have fetched := c.ends m id
  cases granted : (c.fetched id).outcome with
  | ok value =>
    rw [granted] at fetched
    exact fetched.bind ((ends_log _ _ _).andThen (dispatch_ends m settings _ d))
  | error failure =>
    rw [granted] at fetched
    dsimp only [connectedEnding]
    rw [List.append_nil]
    exact fetched.stop

theorem delivery_ends (m : Memory) (settings : Settings) (c : Connection) (d : Delivery) :
    (Pipeline.deliver ops settings c.connect d).Ends m (m.deliveryEnding settings c d) := by
  unfold Pipeline.deliver deliveryEnding
  by_cases supported : d.isSupported = true
  · rw [if_pos supported]
    cases named : d.installation? with
    | none =>
      refine (ends_count m (.webhook d.name)).bind ?_
      rw [if_neg (by simp [supported])]
      refine (ends_count m (.error .malformedEvent)).bind ?_
      exact (ends_log _ _ _).andThen (ends_pure m _)
    | some id =>
      refine (ends_count m (.webhook d.name)).bind ?_
      rw [if_neg (by simp [supported])]
      refine (ends_log _ _ _).andThen ?_
      have ends := answered_ends (connected_ends m settings c id d) d.name
      rw [Ending.answered, List.append_assoc] at ends
      exact ends
  · rw [if_neg supported]
    refine (ends_count m (.webhook d.name)).bind ?_
    rw [if_pos (by simp [supported])]
    exact (ends_count m (.skipped d.name .event)).bind (ends_pure m _)

end Memory

end SuiteTrigger
