import SuiteTrigger.Proofs.Attempts

namespace SuiteTrigger

theorem bind_eq_ok {ε α β : Type} {x : Except ε α} {next : α → Except ε β} {b : β} :
    (x >>= next) = .ok b ↔ ∃ a, x = .ok a ∧ next a = .ok b := by
  cases x <;> simp [bind, Except.bind]

namespace Event

variable {payload : Payload} {pr : PullRequestRef}

theorem refusedBy_ok {α : Type} {result : Except Refusal α} {value : α} :
    refusedBy result = .ok value ↔ result = .ok value := by
  cases result <;> simp [refusedBy]

theorem found_section_iff {name : String} {v : Json} :
    (section? payload name = .ok v) ↔ payload.lookup name = some v := by
  unfold section?
  cases payload.lookup name <;> simp

/-- A reference is taken from the two sections of a payload. -/
theorem reference_ok (read : reference payload = .ok pr) :
    ∃ v w repository pullRequest, payload.lookup "repository" = some v ∧
      Repository.read v = .ok repository ∧ payload.lookup "pull_request" = some w ∧
      PullRequest.read w = .ok pullRequest ∧ pr.number = pullRequest.number := by
  rw [reference, bind_eq_ok] at read
  obtain ⟨v, found, read⟩ := read
  obtain ⟨repository, valid, read⟩ := bind_eq_ok.1 read
  obtain ⟨w, foundToo, read⟩ := bind_eq_ok.1 read
  obtain ⟨pullRequest, validToo, read⟩ := bind_eq_ok.1 read
  refine ⟨v, w, repository, pullRequest, found_section_iff.1 found, refusedBy_ok.1 valid,
    found_section_iff.1 foundToo, refusedBy_ok.1 validToo, ?_⟩
  cases read
  rfl

/-- What an event is on can be read from its payload, and its name is one of those that are
handled. -/
theorem ofPayload_ok {name : String} {event : Event} (read : ofPayload name payload = .ok event) :
    (EventKind.ofName? name).isSome ∧ reference payload = .ok event.pr := by
  rw [ofPayload] at read
  cases known : EventKind.ofName? name with
  | none =>
    rw [known] at read
    nomatch read
  | some kind =>
    refine ⟨rfl, ?_⟩
    rw [known] at read
    dsimp only at read
    split at read
    · obtain ⟨pr, referred, read⟩ := bind_eq_ok.1 read
      rw [referred]
      cases kind with
      | pullRequest =>
        obtain rfl := Except.ok.inj read
        split <;> rfl
      | review =>
        dsimp only at read
        split at read
        · obtain ⟨outcome, -, read⟩ := bind_eq_ok.1 read
          cases read
          rfl
        · cases read
          rfl
    · nomatch read

end Event

namespace Delivery

/-- The repository that the data of a delivery name, where it can be read. -/
def repository? (d : Delivery) : Option Repository :=
  (d.data.field? "repository").bind fun v => (Repository.read v).toOption

/-- The number of the pull request that the data of a delivery name, where it can be read. -/
def number? (d : Delivery) : Option Int :=
  (d.data.field? "pull_request").bind fun v => (PullRequest.read v).toOption.map (·.number)

namespace TellsOf

variable {d : Delivery} {event : Event}

theorem payload (tells : d.TellsOf event) :
    ∃ payload, d.data = .obj payload ∧ Event.ofPayload d.name payload = .ok event := by
  unfold TellsOf Event.ofDelivered at tells
  split at tells
  · rename_i payload isObject
    refine ⟨payload, isObject, ?_⟩
    split at tells
    · rename_i read
      rw [read, Except.ok.inj tells]
    · nomatch tells
  · split at tells
    · nomatch tells
    · nomatch tells

theorem supported (tells : d.TellsOf event) : d.isSupported = true := by
  obtain ⟨payload, -, read⟩ := tells.payload
  exact (Event.ofPayload_ok read).1

/-- The repository of an event can be read, and is the one that is looked at before the event is
handled. -/
theorem repository (tells : d.TellsOf event) :
    ∃ payload repository, d.data = .obj payload ∧ d.repository? = some repository ∧
      Pipeline.repositoryOf payload = .ok repository := by
  obtain ⟨payload, isObject, read⟩ := tells.payload
  obtain ⟨v, -, repository, -, found, valid, -⟩ := Event.reference_ok (Event.ofPayload_ok read).2
  refine ⟨payload, repository, isObject, ?_, ?_⟩
  · rw [repository?, isObject, Json.field?, found, Option.bind_some, valid]
    rfl
  · rw [Pipeline.repositoryOf, found]
    dsimp only
    rw [valid]

theorem number (tells : d.TellsOf event) : d.number? = some event.pr.number := by
  obtain ⟨payload, isObject, read⟩ := tells.payload
  obtain ⟨-, w, -, pullRequest, -, -, found, valid, same⟩ :=
    Event.reference_ok (Event.ofPayload_ok read).2
  rw [number?, isObject, Json.field?, found, Option.bind_some, valid, same]
  rfl

end TellsOf

end Delivery

end SuiteTrigger
