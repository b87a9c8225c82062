import SuiteTrigger.Proofs.Payloads
import SuiteTrigger.Proofs.ReviewStates
import SuiteTrigger.Proofs.ValidRecords

/-!
# The checks of a payload

Six checks decide whether a payload tells of an event. What each of them may find fault with stands
here for itself (`Event.Faults`), and so does what a payload tells of that passes them all
(`Event.Tells`). A payload gives the event that it tells of, or the fault of the first check that
finds one, and nothing else (`Event.told_or_faulted`).
-/

namespace SuiteTrigger.Event

/-- The reference that a repository and a pull request give. -/
def referenceTo (repository : Repository) (pullRequest : PullRequest) : PullRequestRef where
  repoUrl := repository.url
  number := pullRequest.number
  fullName := repository.fullName
  headSha := pullRequest.head.map (·.sha)
  inlineLabels := some (LabelSet.ofList (pullRequest.labels.map (·.name)))

/-- A payload holds a valid repository and a valid pull request, which give a reference. -/
inductive Refers (payload : Payload) : PullRequestRef → Prop
  | intro {v w : Json} {repository : Repository} {pullRequest : PullRequest}
      (found : payload.lookup "repository" = some v) (valid : Repository.Valid v repository)
      (foundToo : payload.lookup "pull_request" = some w)
      (validToo : PullRequest.Valid w pullRequest) :
      Refers payload (referenceTo repository pullRequest)

def Acts (payload : Payload) (action : String) : Prop :=
  payload.lookup "action" = some (.str action)

/-- The event that a payload of the given name tells of. -/
inductive Tells (name : String) (payload : Payload) : Event → Prop
  | push {pr : PullRequestRef} {action : String} (named : name = "pull_request")
      (acts : Acts payload action) (refers : Refers payload pr)
      (pushes : action = "opened" ∨ action = "synchronize" ∨ action = "reopened") :
      Tells name payload (.codePush pr action)
  | review {pr : PullRequestRef} {v : Json} {review : Review} {outcome : ReviewOutcome}
      (named : name = "pull_request_review") (acts : Acts payload "submitted")
      (refers : Refers payload pr) (found : payload.lookup "review" = some v)
      (valid : Review.Valid v review)
      (state : Reading.asciiLower review.state = outcome.name) :
      Tells name payload (.reviewSubmitted pr outcome)
  | other {pr : PullRequestRef} {action : String}
      (named : name = "pull_request" ∧
          ¬ (action = "opened" ∨ action = "synchronize" ∨ action = "reopened") ∨
        name = "pull_request_review" ∧ action ≠ "submitted")
      (acts : Acts payload action) (refers : Refers payload pr) :
      Tells name payload (.ignored pr name action)

/-- The checks of a payload. -/
inductive Check where
  | name
  | action
  | repository
  | pullRequest
  | review
  | state

/-- The place of a check in their order. -/
def Check.rank : Check → Nat
  | .name => 0
  | .action => 1
  | .repository => 2
  | .pullRequest => 3
  | .review => 4
  | .state => 5

/-- A payload has to hold a review: it tells that one was submitted. -/
def AsksReview (name : String) (payload : Payload) : Prop :=
  name = "pull_request_review" ∧ Acts payload "submitted"

/-- A check finds fault with a payload, whatever the others find. -/
inductive Faults (name : String) (payload : Payload) : Check → MalformedEvent → Prop
  | name (notOne : name ≠ "pull_request") (notOther : name ≠ "pull_request_review") :
      Faults name payload .name (.unsupported name)
  | action (noText : ∀ action, ¬ Acts payload action) :
      Faults name payload .action (.noAction name)
  | noRepository (absent : payload.lookup "repository" = none) :
      Faults name payload .repository (.noSection "repository")
  | badRepository {v : Json} {refusal : Refusal} (found : payload.lookup "repository" = some v)
      (invalid : ∀ r, ¬ Repository.Valid v r) (told : Repository.read v = .error refusal) :
      Faults name payload .repository (.refused refusal)
  | noPullRequest (absent : payload.lookup "pull_request" = none) :
      Faults name payload .pullRequest (.noSection "pull_request")
  | badPullRequest {v : Json} {refusal : Refusal} (found : payload.lookup "pull_request" = some v)
      (invalid : ∀ p, ¬ PullRequest.Valid v p) (told : PullRequest.read v = .error refusal) :
      Faults name payload .pullRequest (.refused refusal)
  | noReview (asked : AsksReview name payload) (absent : payload.lookup "review" = none) :
      Faults name payload .review .noReview
  | badReview {v : Json} {refusal : Refusal} (asked : AsksReview name payload)
      (found : payload.lookup "review" = some v) (invalid : ∀ r, ¬ Review.Valid v r)
      (told : Review.read v = .error refusal) :
      Faults name payload .review (.refused refusal)
  | state {v : Json} {review : Review} (asked : AsksReview name payload)
      (found : payload.lookup "review" = some v) (valid : Review.Valid v review)
      (unknown : ∀ outcome : ReviewOutcome, Reading.asciiLower review.state ≠ outcome.name) :
      Faults name payload .state (.unknownState review.state)

def Passes (name : String) (payload : Payload) (check : Check) : Prop :=
  ∀ cause, ¬ Faults name payload check cause

/-- No check before one finds fault. -/
def PassesBefore (name : String) (payload : Payload) (check : Check) : Prop :=
  ∀ earlier : Check, earlier.rank < check.rank → Passes name payload earlier

/-- The fault of the first check that finds one. -/
def FirstFault (name : String) (payload : Payload) (cause : MalformedEvent) : Prop :=
  ∃ check, Faults name payload check cause ∧ PassesBefore name payload check

variable {name : String} {payload : Payload} {pr : PullRequestRef} {event : Event}
  {check : Check} {cause : MalformedEvent}

theorem Check.rank_inj {a b : Check} (same : a.rank = b.rank) : a = b := by
  cases a <;> cases b <;> first | rfl | nomatch same

theorem passesBefore_name : PassesBefore name payload .name :=
  fun _ before => absurd before (Nat.not_lt_zero _)

/-- One more check that passes. -/
theorem PassesBefore.next {later : Check} (before : PassesBefore name payload check)
    (passes : Passes name payload check) (next : later.rank = check.rank + 1) :
    PassesBefore name payload later := by
  intro earlier lower
  rcases Nat.lt_or_ge earlier.rank check.rank with below | above
  · exact before earlier below
  · have same : earlier = check := Check.rank_inj (by omega)
    exact same ▸ passes

theorem Faults.unique {other : MalformedEvent} (finds : Faults name payload check cause)
    (findsToo : Faults name payload check other) : cause = other := by
  cases finds with
  | name => cases findsToo; rfl
  | action => cases findsToo; rfl
  | noRepository absent => cases findsToo <;> grind
  | badRepository found invalid told => cases findsToo <;> grind
  | noPullRequest absent => cases findsToo <;> grind
  | badPullRequest found invalid told => cases findsToo <;> grind
  | noReview asked absent => cases findsToo <;> grind
  | badReview asked found invalid told => cases findsToo <;> grind
  | state asked found valid unknown =>
    cases findsToo with
    | state askedToo foundToo validToo =>
      obtain rfl := Option.some.inj (found.symm.trans foundToo)
      have same := (Review.read_ok.2 valid).symm.trans (Review.read_ok.2 validToo)
      rw [Except.ok.inj same]

theorem FirstFault.unique {other : MalformedEvent} (first : FirstFault name payload cause)
    (firstToo : FirstFault name payload other) : cause = other := by
  obtain ⟨check, finds, before⟩ := first
  obtain ⟨check', findsToo, beforeToo⟩ := firstToo
  rcases Nat.lt_trichotomy check.rank check'.rank with earlier | same | later
  · exact absurd finds (beforeToo check earlier cause)
  · obtain rfl := Check.rank_inj same
    exact finds.unique findsToo
  · exact absurd findsToo (before check' later other)

theorem passes_name (named : name = "pull_request" ∨ name = "pull_request_review") :
    Passes name payload .name := by
  rintro cause ⟨notOne, notOther⟩
  exact named.elim notOne notOther

theorem passes_action {action : String} (acts : Acts payload action) :
    Passes name payload .action := by
  intro cause finds
  cases finds with
  | action noText => exact noText action acts

theorem passes_repository {v : Json} {repository : Repository}
    (found : payload.lookup "repository" = some v) (valid : Repository.Valid v repository) :
    Passes name payload .repository := by
  intro cause finds
  cases finds with
  | noRepository absent => nomatch found.symm.trans absent
  | badRepository foundToo invalid told =>
    obtain rfl := Option.some.inj (found.symm.trans foundToo)
    exact invalid repository valid

theorem passes_pullRequest {v : Json} {pullRequest : PullRequest}
    (found : payload.lookup "pull_request" = some v) (valid : PullRequest.Valid v pullRequest) :
    Passes name payload .pullRequest := by
  intro cause finds
  cases finds with
  | noPullRequest absent => nomatch found.symm.trans absent
  | badPullRequest foundToo invalid told =>
    obtain rfl := Option.some.inj (found.symm.trans foundToo)
    exact invalid pullRequest valid

theorem passes_review {v : Json} {review : Review} (found : payload.lookup "review" = some v)
    (valid : Review.Valid v review) : Passes name payload .review := by
  intro cause finds
  cases finds with
  | noReview asked absent => nomatch found.symm.trans absent
  | badReview asked foundToo invalid told =>
    obtain rfl := Option.some.inj (found.symm.trans foundToo)
    exact invalid review valid

theorem passes_state {v : Json} {review : Review} {outcome : ReviewOutcome}
    (found : payload.lookup "review" = some v) (valid : Review.Valid v review)
    (state : Reading.asciiLower review.state = outcome.name) : Passes name payload .state := by
  intro cause finds
  cases finds with
  | state asked foundToo validToo unknown =>
    obtain rfl := Option.some.inj (found.symm.trans foundToo)
    have same := (Review.read_ok.2 valid).symm.trans (Review.read_ok.2 validToo)
    exact unknown outcome (Except.ok.inj same ▸ state)

/-- Nothing is looked for in a review that is not asked for. -/
theorem passes_unasked (unasked : ¬ AsksReview name payload) :
    Passes name payload .review ∧ Passes name payload .state := by
  constructor
  · intro cause finds
    cases finds with
    | noReview asked => exact unasked asked
    | badReview asked => exact unasked asked
  · intro cause finds
    cases finds with
    | state asked => exact unasked asked

theorem Acts.unique {action other : String} (acts : Acts payload action)
    (actsToo : Acts payload other) : action = other :=
  Json.str.inj (Option.some.inj (acts.symm.trans actsToo))

theorem Refers.passes (refers : Refers payload pr) :
    Passes name payload .repository ∧ Passes name payload .pullRequest := by
  obtain ⟨found, valid, foundToo, validToo⟩ := refers
  exact ⟨passes_repository found valid, passes_pullRequest foundToo validToo⟩

theorem Tells.passes (tells : Tells name payload event) (check : Check) :
    Passes name payload check := by
  have checked (named : name = "pull_request" ∨ name = "pull_request_review") {action : String}
      (acts : Acts payload action) {pr : PullRequestRef} (refers : Refers payload pr)
      (review : Passes name payload .review ∧ Passes name payload .state) :
      Passes name payload check := by
    cases check with
    | name => exact passes_name named
    | action => exact passes_action acts
    | repository => exact refers.passes.1
    | pullRequest => exact refers.passes.2
    | review => exact review.1
    | state => exact review.2
  cases tells with
  | push named acts refers pushes =>
    refine checked (.inl named) acts refers (passes_unasked ?_)
    rintro ⟨other, -⟩
    exact absurd (named.symm.trans other) (by decide)
  | review named acts refers found valid state =>
    exact checked (.inr named) acts refers
      ⟨passes_review found valid, passes_state found valid state⟩
  | other named acts refers =>
    refine checked (named.imp And.left And.left) acts refers (passes_unasked ?_)
    rintro ⟨isReview, submits⟩
    rcases named with ⟨isPullRequest, -⟩ | ⟨-, notSubmits⟩
    · exact absurd (isPullRequest.symm.trans isReview) (by decide)
    · exact notSubmits (acts.unique submits)

/-! ## What is made of a payload -/

theorem Refers.read (refers : Refers payload pr) : reference payload = .ok pr := by
  obtain ⟨found, valid, foundToo, validToo⟩ := refers
  simp only [reference, section?, found, foundToo, refusedBy, Repository.read_ok.2 valid,
    PullRequest.read_ok.2 validToo, bind, Except.bind]
  rfl

/-- A reference is given, or one of the two sections is at fault. -/
theorem reference_cases (name : String) (payload : Payload) :
    (∃ pr, reference payload = .ok pr ∧ Refers payload pr) ∨
      ∃ cause, reference payload = .error cause ∧
        (Faults name payload .repository cause ∨
          Passes name payload .repository ∧ Faults name payload .pullRequest cause) := by
  cases found : payload.lookup "repository" with
  | none =>
    have stops : reference payload = .error (.noSection "repository") := by
      simp only [reference, section?, found, bind, Except.bind]
    exact .inr ⟨_, stops, .inl (.noRepository found)⟩
  | some v =>
    cases read : Repository.read v with
    | error refusal =>
      have stops : reference payload = .error (.refused refusal) := by
        simp only [reference, section?, found, refusedBy, read, bind, Except.bind]
      have invalid : ∀ r, ¬ Repository.Valid v r := by
        intro r valid
        cases (Repository.read_ok.2 valid).symm.trans read
      exact .inr ⟨_, stops, .inl (.badRepository found invalid read)⟩
    | ok repository =>
      have valid := Repository.read_ok.1 read
      have passes : Passes name payload .repository := passes_repository found valid
      cases foundToo : payload.lookup "pull_request" with
      | none =>
        have stops : reference payload = .error (.noSection "pull_request") := by
          simp only [reference, section?, found, foundToo, refusedBy, read, bind, Except.bind]
        exact .inr ⟨_, stops, .inr ⟨passes, .noPullRequest foundToo⟩⟩
      | some w =>
        cases readToo : PullRequest.read w with
        | error refusal =>
          have stops : reference payload = .error (.refused refusal) := by
            simp only [reference, section?, found, foundToo, refusedBy, read, readToo, bind,
              Except.bind]
          have invalid : ∀ p, ¬ PullRequest.Valid w p := by
            intro p validToo
            cases (PullRequest.read_ok.2 validToo).symm.trans readToo
          exact .inr ⟨_, stops, .inr ⟨passes, .badPullRequest foundToo invalid readToo⟩⟩
        | ok pullRequest =>
          have refers : Refers payload (referenceTo repository pullRequest) :=
            .intro found valid foundToo (PullRequest.read_ok.1 readToo)
          exact .inl ⟨_, refers.read, refers⟩

theorem reviewOutcome_ok {v : Json} {review : Review} {outcome : ReviewOutcome}
    (found : payload.lookup "review" = some v) (valid : Review.Valid v review)
    (state : Reading.asciiLower review.state = outcome.name) :
    reviewOutcome payload = .ok outcome := by
  simp only [reviewOutcome, found, refusedBy, Review.read_ok.2 valid,
    ReviewOutcome.ofState?_iff.2 state, bind, Except.bind]
  rfl

/-- A review that is asked for has an outcome, or it is at fault or its state is. -/
theorem reviewOutcome_cases (asked : AsksReview name payload) :
    (∃ v review, ∃ outcome : ReviewOutcome, payload.lookup "review" = some v ∧
        Review.Valid v review ∧ Reading.asciiLower review.state = outcome.name) ∨
      ∃ cause, reviewOutcome payload = .error cause ∧
        (Faults name payload .review cause ∨
          Passes name payload .review ∧ Faults name payload .state cause) := by
  cases found : payload.lookup "review" with
  | none =>
    have stops : reviewOutcome payload = .error .noReview := by
      simp only [reviewOutcome, found]
    exact .inr ⟨_, stops, .inl (.noReview asked found)⟩
  | some v =>
    cases read : Review.read v with
    | error refusal =>
      have stops : reviewOutcome payload = .error (.refused refusal) := by
        simp only [reviewOutcome, found, refusedBy, read, bind, Except.bind]
      have invalid : ∀ r, ¬ Review.Valid v r := by
        intro r valid
        cases (Review.read_ok.2 valid).symm.trans read
      exact .inr ⟨_, stops, .inl (.badReview asked found invalid read)⟩
    | ok review =>
      have valid := Review.read_ok.1 read
      cases folds : ReviewOutcome.ofState? review.state with
      | none =>
        have stops : reviewOutcome payload = .error (.unknownState review.state) := by
          simp only [reviewOutcome, found, refusedBy, read, folds, bind, Except.bind]
          rfl
        have unknown := ReviewOutcome.ofState?_none.1 folds
        exact .inr ⟨_, stops, .inr ⟨passes_review found valid, .state asked found valid unknown⟩⟩
      | some outcome =>
        have state := ReviewOutcome.ofState?_iff.1 folds
        exact .inl ⟨v, review, outcome, rfl, valid, state⟩

/-- What is made of a payload with a known name and an action. -/
theorem ofPayload_acts {kind : EventKind} {action : String}
    (known : EventKind.ofName? name = some kind) (acts : Acts payload action) :
    ofPayload name payload = do
      let pr ← reference payload
      match kind with
      | .pullRequest =>
        return if pushActions.contains action then .codePush pr action
          else .ignored pr name action
      | .review =>
        if action = submitAction then return .reviewSubmitted pr (← reviewOutcome payload)
        else return .ignored pr name action := by
  unfold Acts at acts
  unfold ofPayload
  generalize payload.lookup "action" = found at acts ⊢
  generalize EventKind.ofName? name = kind? at known ⊢
  subst acts known
  rfl

theorem pushes_iff {action : String} :
    pushActions.contains action = true ↔
      action = "opened" ∨ action = "synchronize" ∨ action = "reopened" := by
  simp [pushActions]

theorem known_cases (name : String) :
    EventKind.ofName? name = some .pullRequest ∧ name = "pull_request" ∨
      EventKind.ofName? name = some .review ∧ name = "pull_request_review" ∨
      EventKind.ofName? name = none ∧ name ≠ "pull_request" ∧ name ≠ "pull_request_review" := by
  unfold EventKind.ofName? EventKind.name
  by_cases isPullRequest : name = "pull_request"
  · simp [isPullRequest]
  · by_cases isReview : name = "pull_request_review"
    · simp [isReview]
    · simp [isPullRequest, isReview]

theorem Tells.read (tells : Tells name payload event) : ofPayload name payload = .ok event := by
  cases tells with
  | push named acts refers pushes =>
    subst named
    rw [ofPayload_acts rfl acts, refers.read]
    exact congrArg Except.ok (if_pos (pushes_iff.2 pushes))
  | review named acts refers found valid state =>
    subst named
    rw [ofPayload_acts rfl acts, refers.read, reviewOutcome_ok found valid state]
    rfl
  | other named acts refers =>
    rcases named with ⟨rfl, notPushes⟩ | ⟨rfl, notSubmits⟩
    · rw [ofPayload_acts rfl acts, refers.read]
      exact congrArg Except.ok (if_neg (mt pushes_iff.1 notPushes))
    · rw [ofPayload_acts rfl acts, refers.read]
      exact if_neg notSubmits

/-- A submitted review is told of, or the review or its state is at fault. -/
theorem review_cases (named : name = "pull_request_review") (acts : Acts payload "submitted")
    (refers : Refers payload pr) (before : PassesBefore name payload .review) :
    (∃ event, Tells name payload event) ∨
      ∃ cause, ofPayload name payload = .error cause ∧ FirstFault name payload cause := by
  have stops {cause : MalformedEvent} (failed : reviewOutcome payload = .error cause) :
      ofPayload name payload = .error cause := by
    subst named
    rw [ofPayload_acts rfl acts, refers.read, failed]
    rfl
  rcases reviewOutcome_cases ⟨named, acts⟩ with
    ⟨v, review, outcome, found, valid, state⟩ | ⟨cause, failed, finds | ⟨passes, finds⟩⟩
  · exact .inl ⟨_, .review named acts refers found valid state⟩
  · exact .inr ⟨cause, stops failed, .review, finds, before⟩
  · exact .inr ⟨cause, stops failed, .state, finds, before.next passes rfl⟩

/-- A payload whose name is known tells of an event, or gives the first fault. -/
theorem known_name_cases {kind : EventKind} (known : EventKind.ofName? name = some kind)
    (named : name = kind.name) :
    (∃ event, Tells name payload event) ∨
      ∃ cause, ofPayload name payload = .error cause ∧ FirstFault name payload cause := by
  have passesName : Passes name payload .name :=
    passes_name (by cases kind with
      | pullRequest => exact .inl named
      | review => exact .inr named)
  have beforeAction : PassesBefore name payload .action := passesBefore_name.next passesName rfl
  by_cases hasAction : ∃ action, Acts payload action
  · obtain ⟨action, acts⟩ := hasAction
    have beforeRepository : PassesBefore name payload .repository :=
      beforeAction.next (passes_action acts) rfl
    rcases reference_cases name payload with
      ⟨pr, -, refers⟩ | ⟨cause, failed, finds⟩
    · have beforePullRequest : PassesBefore name payload .pullRequest :=
        beforeRepository.next refers.passes.1 rfl
      cases kind with
      | pullRequest =>
        by_cases pushes : action = "opened" ∨ action = "synchronize" ∨ action = "reopened"
        · exact .inl ⟨_, .push named acts refers pushes⟩
        · exact .inl ⟨_, .other (.inl ⟨named, pushes⟩) acts refers⟩
      | review =>
        by_cases submits : action = "submitted"
        · subst submits
          exact review_cases named acts refers (beforePullRequest.next refers.passes.2 rfl)
        · exact .inl ⟨_, .other (.inr ⟨named, submits⟩) acts refers⟩
    · have stops : ofPayload name payload = .error cause := by
        rw [ofPayload_acts known acts, failed]
        rfl
      rcases finds with finds | ⟨passes, finds⟩
      · exact .inr ⟨cause, stops, .repository, finds, beforeRepository⟩
      · exact .inr ⟨cause, stops, .pullRequest, finds, beforeRepository.next passes rfl⟩
  · have stops : ofPayload name payload = .error (.noAction name) := by
      rw [ofPayload, known]
      dsimp only
      split
      · rename_i action found
        exact absurd ⟨action, found⟩ hasAction
      · rfl
    exact .inr ⟨_, stops, .action, .action (not_exists.1 hasAction), beforeAction⟩

/-- A payload tells of an event, or gives the first fault. -/
theorem tells_or_faults (name : String) (payload : Payload) :
    (∃ event, Tells name payload event) ∨
      ∃ cause, ofPayload name payload = .error cause ∧ FirstFault name payload cause := by
  rcases known_cases name with ⟨known, named⟩ | ⟨known, named⟩ | ⟨unknown, notOne, notOther⟩
  · exact known_name_cases known named
  · exact known_name_cases known named
  · have stops : ofPayload name payload = .error (.unsupported name) := by
      rw [ofPayload, unknown]
      rfl
    exact .inr ⟨_, stops, .name, .name notOne notOther, passesBefore_name⟩

theorem FirstFault.read (first : FirstFault name payload cause) :
    ofPayload name payload = .error cause := by
  rcases tells_or_faults name payload with ⟨event, tells⟩ | ⟨other, stops, firstToo⟩
  · obtain ⟨check, finds, -⟩ := first
    exact absurd finds (tells.passes check cause)
  · rw [first.unique firstToo, stops]

theorem delivered_iff :
    ofDelivered name (.obj payload) = .ok event ↔ Tells name payload event := by
  constructor
  · intro gives
    rcases tells_or_faults name payload with ⟨other, tells⟩ | ⟨cause, stops, -⟩
    · rw [ofDelivered, tells.read] at gives
      exact Except.ok.inj gives ▸ tells
    · rw [ofDelivered, stops] at gives
      nomatch gives
  · intro tells
    rw [ofDelivered, tells.read]

theorem refused_iff {failure : Failure} :
    ofDelivered name (.obj payload) = .error failure ↔
      ∃ cause, failure = .malformed cause ∧ FirstFault name payload cause := by
  constructor
  · intro refuses
    rcases tells_or_faults name payload with ⟨event, tells⟩ | ⟨cause, stops, first⟩
    · rw [ofDelivered, tells.read] at refuses
      nomatch refuses
    · rw [ofDelivered, stops] at refuses
      exact ⟨cause, (Except.error.inj refuses).symm, first⟩
  · rintro ⟨cause, rfl, first⟩
    rw [ofDelivered, first.read]

/-- Every name and payload give an event or tell that the payload is malformed. An event is given
just when all checks pass, and it is the one that the payload tells of; otherwise the cause is the
fault of the first check that finds one. Lower case takes no text for the name of an outcome but
that name in any case of its ASCII letters. -/
theorem told_or_faulted (name : String) (payload : Payload) :
    (∀ event, ofDelivered name (.obj payload) = .ok event ↔ Tells name payload event) ∧
      (∀ failure, ofDelivered name (.obj payload) = .error failure ↔
        ∃ cause, failure = .malformed cause ∧ FirstFault name payload cause) ∧
      ((∃ event, ofDelivered name (.obj payload) = .ok event) ↔
        ∀ check, Passes name payload check) ∧
      ∀ (state : String) (outcome : ReviewOutcome), Text.lower state = outcome.name ↔
        Reading.asciiLower state = outcome.name ∧ ∀ c ∈ state.toList, c.toNat < 128 := by
  refine ⟨fun _ => delivered_iff, fun _ => refused_iff, ?_, ?_⟩
  · constructor
    · rintro ⟨event, gives⟩ check
      exact (delivered_iff.1 gives).passes check
    · intro passes
      rcases tells_or_faults name payload with ⟨event, tells⟩ | ⟨cause, -, check, finds, -⟩
      · exact ⟨event, delivered_iff.2 tells⟩
      · exact absurd finds (passes check cause)
  · intro state outcome
    have folds := Text.lower_eq_iff (s := state) outcome.name_plain
    exact ⟨fun lowers => ⟨folds.1 lowers, ReviewOutcome.ascii_of_lower lowers⟩,
      fun same => folds.2 same.1⟩

end SuiteTrigger.Event
