import SuiteTrigger.Proofs.Attempts

/-!
# Comments that may not be repeated

Lists of actions are carried out on one pull request, one after another, each with its own failing
methods. Every action that is tried leaves a deed: what it met, what came of it and what it left.
Comments are only ever added, so a text that stands goes on standing, and no action that may not
repeat it posts it again (`posted_at_most_once`).
-/

namespace SuiteTrigger

/-- An action that was tried: the platform that it met, what came of it and the platform that it
left. -/
structure Deed where
  action : Action
  before : Memory
  outcome : Except Failure Unit
  after : Memory

namespace Deed

/-- The comments that a deed added to an issue. -/
def added (n : Int) (d : Deed) : List String :=
  (d.after.commentsOf n).drop (d.before.commentsOf n).length

/-- The texts that a deed posted, blanks at their ends aside, when it may not repeat any. -/
def postedOnce (n : Int) (d : Deed) : List String :=
  match d.action with
  | .postComment _ false => (d.added n).map Text.strip
  | _ => []

/-- A deed performed its action, or it failed and left labels and comments as they were. -/
inductive Carried (n : Int) (d : Deed) : Prop
  | done (outcome : d.outcome = .ok ())
      (contents : d.after.contents = (d.before.perform n d.action).contents)
  | failed (failure : Failure) (outcome : d.outcome = .error failure)
      (contents : d.after.contents = d.before.contents)

/-- Deeds lead from one platform to another: each is carried out where the one before it ended. -/
def Lead (n : Int) (m : Memory) : List Deed → Memory → Prop
  | [], q => q.contents = m.contents
  | d :: ds, q => d.before.contents = m.contents ∧ d.Carried n ∧ Lead n d.after ds q

/-- The deeds of a list of actions after others were applied. Each action is carried out in its
turn, up to the first that fails. -/
def ofActions (pr : PullRequestRef) (applied : List Action) : List Action → Memory → List Deed
  | [], _ => []
  | a :: actions, m =>
    let (outcome, scene) := (Execution.step Memory.ops pr false applied a).on ⟨m, .empty⟩
    ⟨a, m, outcome, scene.platform⟩ ::
      match outcome with
      | .ok () => ofActions pr (applied ++ [a]) actions scene.platform
      | .error _ => []

end Deed

/-- A list of actions to carry out and the methods that fail meanwhile. -/
structure ActionRun where
  failing : List Method
  actions : List Action

namespace ActionRun

def on (pr : PullRequestRef) (run : ActionRun) (m : Memory) :
    Except Failure (List Action) × Memory :=
  let (outcome, scene) :=
    (Execution.apply Memory.ops pr false run.actions).on ⟨m.withFailing run.failing, .empty⟩
  (outcome, scene.platform)

def deeds (pr : PullRequestRef) (run : ActionRun) (m : Memory) : List Deed :=
  Deed.ofActions pr [] run.actions (m.withFailing run.failing)

def leave (pr : PullRequestRef) (runs : List ActionRun) (m : Memory) : Memory :=
  runs.foldl (fun m run => (run.on pr m).2) m

def history (pr : PullRequestRef) : List ActionRun → Memory → List Deed
  | [], _ => []
  | run :: runs, m => run.deeds pr m ++ history pr runs (run.on pr m).2

end ActionRun

namespace Deed

variable {n : Int} {m q r : Memory} {d : Deed} {ds : List Deed}

/-- Only the contents of the platform matter that deeds start from. -/
theorem Lead.of_contents {m' : Memory} (same : m.contents = m'.contents) (leads : Lead n m ds q) :
    Lead n m' ds q := by
  cases ds with
  | nil => exact Eq.trans leads same
  | cons d ds => exact ⟨leads.1.trans same, leads.2⟩

theorem Lead.append {first second : List Deed} (leads : Lead n m first q)
    (rest : Lead n q second r) : Lead n m (first ++ second) r := by
  induction first generalizing m with
  | nil => exact rest.of_contents leads
  | cons d first ih => exact ⟨leads.1, leads.2.1, ih leads.2.2⟩

/-- The deeds of a list of actions lead to where the list ends. -/
theorem ofActions_lead (pr : PullRequestRef) (applied actions : List Action) (m : Memory) :
    Lead pr.number m (ofActions pr applied actions m)
      (Memory.listEnding pr.number applied actions m).platform := by
  induction actions generalizing applied m with
  | nil => exact rfl
  | cons a actions ih =>
    by_cases blocked : m.Blocks pr.number a
    · obtain ⟨method, stopped⟩ := Memory.actionEnding_blocked blocked
      obtain ⟨entries, ran⟩ := Memory.step_stops applied stopped .empty
      rw [ofActions, ran, Memory.listEnding, stopped]
      exact ⟨rfl, .failed _ rfl rfl, rfl⟩
    · obtain ⟨entries, ran⟩ := Memory.step_ends applied blocked .empty
      rw [ofActions, ran, Memory.listEnding_works blocked]
      exact ⟨rfl, .done rfl rfl, ih (applied ++ [a]) _⟩

/-- The actions of the deeds are a first part of the list, and the whole list when it ends well. -/
theorem ofActions_actions (pr : PullRequestRef) (applied actions : List Action) (m : Memory) :
    (ofActions pr applied actions m).map (·.action) <+: actions ∧
      ∀ given, (Memory.listEnding pr.number applied actions m).outcome = .ok given →
        (ofActions pr applied actions m).map (·.action) = actions := by
  induction actions generalizing applied m with
  | nil => exact ⟨List.prefix_rfl, fun _ _ => rfl⟩
  | cons a actions ih =>
    by_cases blocked : m.Blocks pr.number a
    · obtain ⟨method, stopped⟩ := Memory.actionEnding_blocked blocked
      obtain ⟨entries, ran⟩ := Memory.step_stops applied stopped .empty
      obtain ⟨_, stops⟩ := Memory.listEnding_blocked blocked applied actions
      rw [ofActions, ran, stops]
      exact ⟨⟨actions, rfl⟩, nofun⟩
    · obtain ⟨entries, ran⟩ := Memory.step_ends applied blocked .empty
      obtain ⟨begins, whole⟩ := ih (applied ++ [a]) ((m.perform pr.number a).record _)
      rw [ofActions, ran, Memory.listEnding_works blocked]
      exact ⟨(List.cons_prefix_cons).2 ⟨rfl, begins⟩,
        fun given ends => congrArg (a :: ·) (whole given ends)⟩

end Deed

namespace ActionRun

theorem on_eq (pr : PullRequestRef) (run : ActionRun) (m : Memory) :
    run.on pr m =
      ((Memory.listEnding pr.number [] run.actions (m.withFailing run.failing)).outcome,
        (Memory.listEnding pr.number [] run.actions (m.withFailing run.failing)).platform) := by
  obtain ⟨outcome, platform, -⟩ :=
    (Memory.apply_ends pr false run.actions (m.withFailing run.failing)).on_eq
  exact Prod.ext outcome platform

theorem deeds_lead (pr : PullRequestRef) (run : ActionRun) (m : Memory) :
    Deed.Lead pr.number m (run.deeds pr m) (run.on pr m).2 := by
  rw [on_eq]
  exact (Deed.ofActions_lead pr [] run.actions (m.withFailing run.failing)).of_contents
    (m.contents_withFailing run.failing)

/-- A run has deeds for a first part of its actions, and for all of them when it does not fail. -/
theorem deeds_actions (pr : PullRequestRef) (run : ActionRun) (m : Memory) :
    (run.deeds pr m).map (·.action) <+: run.actions ∧
      ∀ given, (run.on pr m).1 = .ok given → (run.deeds pr m).map (·.action) = run.actions := by
  rw [on_eq]
  exact Deed.ofActions_actions pr [] run.actions (m.withFailing run.failing)

theorem history_lead (pr : PullRequestRef) (runs : List ActionRun) (m : Memory) :
    Deed.Lead pr.number m (history pr runs m) (leave pr runs m) := by
  induction runs generalizing m with
  | nil => exact rfl
  | cons run runs ih => exact (run.deeds_lead pr m).append (ih (run.on pr m).2)

end ActionRun

/-- Whether a text, blanks at its ends aside, is that of a comment on an issue. -/
def Memory.HasText (m : Memory) (n : Int) (text : String) : Prop :=
  text ∈ (m.commentsOf n).map Text.strip

theorem Memory.stands_iff (m : Memory) (n : Int) (body : String) :
    m.stands n body = true ↔ m.HasText n (Text.strip body) := by
  simp [stands, HasText]

theorem Memory.HasText.grows {m q : Memory} {n : Int} {text : String} (has : m.HasText n text)
    (grown : m.commentsOf n <+: q.commentsOf n) : q.HasText n text :=
  (grown.map Text.strip).subset has

namespace Deed

variable {n : Int} {m q : Memory} {d : Deed} {ds : List Deed} {text : String}

/-- What a deed adds to the comments, case by case. -/
inductive Adds (n : Int) (d : Deed) : Prop
  | nothing (none : d.added n = []) (same : d.after.commentsOf n = d.before.commentsOf n)
  | its (body : String) (allowRepeats : Bool) (posts : d.action = .postComment body allowRepeats)
      (one : d.added n = [body]) (grown : d.after.commentsOf n = d.before.commentsOf n ++ [body])
      (new : allowRepeats = false → ¬ d.before.HasText n (Text.strip body))

theorem adds_nothing (same : d.after.commentsOf n = d.before.commentsOf n) : d.Adds n := by
  refine .nothing ?_ same
  rw [added, same, List.drop_length]

/-- A deed adds its own comment or none, and never one that may not be repeated and stands. -/
theorem Carried.adds (carried : d.Carried n) : d.Adds n := by
  rcases carried with ⟨-, contents⟩ | ⟨failure, -, contents⟩
  · have after := Memory.commentsOf_eq contents n
    cases acts : d.action with
    | addLabel name => exact adds_nothing (by rw [after, acts, Memory.commentsOf_addLabel])
    | removeLabel name => exact adds_nothing (by rw [after, acts, Memory.commentsOf_removeLabel])
    | postComment body allowRepeats =>
      rw [acts, Memory.perform] at after
      split at after
      · exact adds_nothing after
      · rename_i fresh
        rw [Memory.commentsOf_setComments, if_pos rfl] at after
        refine .its body allowRepeats acts ?_ after ?_
        · rw [added, after, List.drop_left]
        · rintro rfl stands
          exact fresh (by simpa using (Memory.stands_iff _ _ _).2 stands)
  · exact adds_nothing (Memory.commentsOf_eq contents n)

theorem Carried.grows (carried : d.Carried n) :
    d.after.commentsOf n = d.before.commentsOf n ++ d.added n := by
  rcases carried.adds with ⟨none, same⟩ | ⟨body, allowRepeats, -, one, grown, -⟩
  · rw [same, none, List.append_nil]
  · rw [grown, one]

/-- What a deed posts stands afterwards. -/
theorem Carried.hasText (carried : d.Carried n) {comment : String} (posted : comment ∈ d.added n) :
    d.after.HasText n (Text.strip comment) := by
  rw [Memory.HasText, carried.grows]
  exact List.mem_map_of_mem (List.mem_append_right _ posted)

/-- A deed that may not repeat a text posts it at most once, and only where it does not stand. -/
theorem Carried.postedOnce_cases (carried : d.Carried n) :
    d.postedOnce n = [] ∨ ∃ comment, d.added n = [comment] ∧
      d.postedOnce n = [Text.strip comment] ∧ ¬ d.before.HasText n (Text.strip comment) := by
  unfold postedOnce
  rcases carried.adds with ⟨none, -⟩ | ⟨body, allowRepeats, acts, one, -, new⟩
  · refine .inl ?_
    rw [none, List.map_nil]
    split <;> rfl
  · rw [acts, one]
    cases allowRepeats with
    | true => exact .inl rfl
    | false => exact .inr ⟨body, rfl, rfl, new rfl⟩

/-- A comment that was to be posted stands when its deed did not fail. -/
theorem Carried.present (carried : d.Carried n) {body : String}
    (acts : d.action = .postComment body false) (done : d.outcome = .ok ()) :
    d.after.HasText n (Text.strip body) := by
  rcases carried with ⟨-, contents⟩ | ⟨failure, failed, -⟩
  · rw [Memory.HasText, Memory.commentsOf_eq contents, acts, Memory.perform]
    split
    · rename_i stands
      exact (Memory.stands_iff _ _ _).1 (by simpa using stands)
    · simp
  · rw [done] at failed
    cases failed

/-! ## Texts along a history -/

/-- Comments are only added by deeds. -/
theorem Lead.grows (leads : Lead n m ds q) : m.commentsOf n <+: q.commentsOf n := by
  induction ds generalizing m with
  | nil =>
    have same : q.commentsOf n = m.commentsOf n := Memory.commentsOf_eq leads n
    exact ⟨[], by rw [same, List.append_nil]⟩
  | cons d ds ih =>
    obtain ⟨met, carried, rest⟩ := leads
    have first : m.commentsOf n <+: d.after.commentsOf n := by
      rw [carried.grows, Memory.commentsOf_eq met]
      exact List.prefix_append _ _
    exact first.trans (ih rest)

/-- A text that stands is not posted by any later deed that may not repeat it. -/
theorem Lead.fresh (leads : Lead n m ds q) (has : m.HasText n text) :
    text ∉ ds.flatMap (·.postedOnce n) := by
  induction ds generalizing m with
  | nil => exact List.not_mem_nil
  | cons d ds ih =>
    obtain ⟨met, carried, rest⟩ := leads
    have before : d.before.HasText n text := by
      rw [Memory.HasText, Memory.commentsOf_eq met]
      exact has
    have after : d.after.HasText n text :=
      before.grows (by rw [carried.grows]; exact List.prefix_append _ _)
    rw [List.flatMap_cons, List.mem_append, not_or]
    refine ⟨?_, ih rest after⟩
    rcases carried.postedOnce_cases with none | ⟨comment, -, once, new⟩
    · rw [none]
      exact List.not_mem_nil
    · rw [once, List.mem_singleton]
      rintro rfl
      exact new before

/-- No text is posted twice by deeds that may not repeat it. -/
theorem Lead.nodup (leads : Lead n m ds q) : (ds.flatMap (·.postedOnce n)).Nodup := by
  induction ds generalizing m with
  | nil => exact List.nodup_nil
  | cons d ds ih =>
    obtain ⟨-, carried, rest⟩ := leads
    rw [List.flatMap_cons]
    rcases carried.postedOnce_cases with none | ⟨comment, one, once, -⟩
    · rw [none]
      exact ih rest
    · rw [once]
      have posted : d.after.HasText n (Text.strip comment) :=
        carried.hasText (by rw [one]; exact List.mem_singleton_self _)
      exact List.nodup_cons.2 ⟨rest.fresh posted, ih rest⟩

/-- What any deed posted is not posted by a later one that may not repeat it. -/
theorem Lead.unposted (leads : Lead n m ds q) :
    ds.Pairwise fun earlier later =>
      ∀ comment ∈ earlier.added n, Text.strip comment ∉ later.postedOnce n := by
  induction ds generalizing m with
  | nil => exact .nil
  | cons d ds ih =>
    obtain ⟨-, carried, rest⟩ := leads
    refine .cons ?_ (ih rest)
    intro later inside comment posted again
    exact rest.fresh (carried.hasText posted) (List.mem_flatMap.2 ⟨later, inside, again⟩)

theorem Lead.carried (leads : Lead n m ds q) {d : Deed} (inside : d ∈ ds) :
    d.Carried n ∧ d.after.commentsOf n <+: q.commentsOf n := by
  induction ds generalizing m with
  | nil => exact absurd inside List.not_mem_nil
  | cons first ds ih =>
    obtain ⟨-, carried, rest⟩ := leads
    rcases List.mem_cons.1 inside with rfl | later
    · exact ⟨carried, rest.grows⟩
    · exact ih rest later

end Deed

/-- Whether an action puts on a label or posts a comment that it may not repeat. -/
def Action.addsOnce : Action → Bool
  | .addLabel _ => true
  | .removeLabel _ => false
  | .postComment _ allowRepeats => !allowRepeats

theorem Table.put_lookup {β : Type} {n : Int} {value : β} {t : Table β}
    (there : t.lookup n = some value) : t.put n value = t := by
  induction t with
  | nil => nomatch there
  | cons entry entries ih =>
    rw [Table.lookup_cons] at there
    rw [Table.put]
    by_cases here : entry.1 = n
    · rw [if_pos here.symm] at there
      rw [if_pos here, ← here, ← Option.some.inj there]
    · rw [if_neg (Ne.symm here)] at there
      rw [if_neg here, ih there]

namespace Memory

variable {m q : Memory} {n : Int} {a b : Action}

/-- What an action adds is there. -/
def Shows (m : Memory) (n : Int) : Action → Prop
  | .addLabel name => name ∈ m.labelsOf n
  | .removeLabel _ => False
  | .postComment body _ => m.HasText n (Text.strip body)

theorem Shows.of_contents (same : q.contents = m.contents) (shows : m.Shows n a) :
    q.Shows n a := by
  cases a with
  | addLabel name => rwa [Shows, labelsOf_eq same]
  | removeLabel name => exact shows
  | postComment body allowRepeats => rwa [Shows, HasText, commentsOf_eq same]

theorem shows_perform (once : a.addsOnce = true) (m : Memory) : (m.perform n a).Shows n a := by
  cases a with
  | addLabel name =>
    rw [Shows, labelsOf_addLabel, LabelSet.mem_insert]
    exact .inl rfl
  | removeLabel name => nomatch once
  | postComment body allowRepeats =>
    rw [Shows, HasText, perform]
    split
    · rename_i stands
      exact (stands_iff _ _ _).1 (by simpa using (Bool.and_eq_true_iff.1 stands).2)
    · simp

/-- What an action adds stays while others add. -/
theorem Shows.perform (shows : m.Shows n a) (once : b.addsOnce = true) :
    (m.perform n b).Shows n a := by
  cases a with
  | addLabel name =>
    cases b with
    | addLabel other =>
      rw [Shows, labelsOf_addLabel, LabelSet.mem_insert]
      exact .inr shows
    | removeLabel other => nomatch once
    | postComment body allowRepeats => rwa [Shows, labelsOf_postComment]
  | removeLabel name => exact shows
  | postComment body allowRepeats =>
    cases b with
    | addLabel other => exact shows
    | removeLabel other => nomatch once
    | postComment other allow =>
      rw [Memory.perform]
      split
      · exact shows
      · refine HasText.grows shows ?_
        rw [commentsOf_setComments, if_pos rfl]
        exact List.prefix_append _ _

/-- An action that only adds changes nothing where it shows. -/
theorem contents_shown (once : a.addsOnce = true) (shows : m.Shows n a) :
    (m.perform n a).contents = m.contents := by
  cases a with
  | addLabel name =>
    have same : (m.labelsOf n).insert name = m.labelsOf n := by
      refine LabelSet.ext fun x => ?_
      rw [LabelSet.mem_insert]
      exact ⟨fun inside => inside.elim (fun here => here ▸ shows) id, .inr⟩
    rw [Memory.perform, same, contents, setLabels]
    cases kept : m.labels.lookup n with
    | none =>
      rw [Shows, labelsOf, kept] at shows
      exact absurd shows (LabelSet.not_mem_empty name)
    | some s => rw [labelsOf, kept, Option.getD_some, Table.put_lookup kept, contents]
  | removeLabel name => exact absurd once Bool.false_ne_true
  | postComment body allowRepeats =>
    have stands := (stands_iff m n body).2 shows
    rw [Memory.perform, stands, show allowRepeats = false by simpa [Action.addsOnce] using once]
    rfl

theorem shows_performAll {actions : List Action} (once : ∀ a ∈ actions, a.addsOnce = true)
    (m : Memory) : ∀ a ∈ actions, (m.performAll n actions).Shows n a := by
  -- What shows in `m` still shows at the end, whatever is still to be performed.
  have stays : ∀ (rest : List Action), (∀ b ∈ rest, b.addsOnce = true) →
      ∀ (m : Memory) (a : Action), m.Shows n a → (m.performAll n rest).Shows n a := by
    intro rest
    induction rest with
    | nil => exact fun _ _ _ shows => shows
    | cons b rest ih =>
      intro each m a shows
      exact ih (fun c later => each c (List.mem_cons_of_mem b later)) (m.perform n b) a
        (shows.perform (each b List.mem_cons_self))
  induction actions generalizing m with
  | nil => exact fun a inside => absurd inside List.not_mem_nil
  | cons first actions ih =>
    have onceRest : ∀ a ∈ actions, a.addsOnce = true := fun a later =>
      once a (List.mem_cons_of_mem first later)
    intro a inside
    rcases List.mem_cons.1 inside with rfl | later
    · exact stays actions onceRest _ _ (shows_perform (once a List.mem_cons_self) m)
    · exact ih onceRest (m.perform n first) a later

theorem contents_performAll_shown {actions : List Action}
    (once : ∀ a ∈ actions, a.addsOnce = true) (shows : ∀ a ∈ actions, m.Shows n a) :
    (m.performAll n actions).contents = m.contents := by
  induction actions with
  | nil => rfl
  | cons a actions ih =>
    have kept := contents_shown (once a List.mem_cons_self) (shows a List.mem_cons_self)
    rw [performAll_cons, contents_performAll kept]
    exact ih (fun b later => once b (List.mem_cons_of_mem a later))
      (fun b later => shows b (List.mem_cons_of_mem a later))

end Memory

namespace ActionRun

variable {pr : PullRequestRef} {run : ActionRun} {m : Memory}

/-- A run performs some first part of its actions, and all of them when it does not fail. -/
theorem on_performs (pr : PullRequestRef) (run : ActionRun) (m : Memory) :
    ∃ done, done <+: run.actions ∧
      (run.on pr m).2.contents = (m.performAll pr.number done).contents ∧
      ∀ given, (run.on pr m).1 = .ok given → done = run.actions := by
  have kept (done : List Action) := Memory.contents_performAll
    (m.contents_withFailing run.failing) pr.number done
  rw [on_eq]
  rcases Memory.listEnding_cases (m := m.withFailing run.failing) rfl rfl pr.number []
    run.actions with ⟨-, succeeds⟩ | ⟨done, ⟨a, rest, split, -, -⟩, fails⟩
  · exact ⟨run.actions, List.prefix_rfl, succeeds.contents.trans (kept _), fun _ _ => rfl⟩
  · obtain ⟨failure, -, failed⟩ := fails.outcome
    refine ⟨done, ⟨a :: rest, split.symm⟩, fails.contents.trans (kept _), ?_⟩
    intro given ends
    rw [failed] at ends
    nomatch ends

/-- Once a run of actions that only add has not failed, they change nothing a second time. -/
theorem second_run {first second : ActionRun} {given : List Action}
    (same : second.actions = first.actions) (once : ∀ a ∈ first.actions, a.addsOnce = true)
    (ends : (first.on pr m).1 = .ok given) :
    (second.on pr (first.on pr m).2).2.contents = (first.on pr m).2.contents := by
  obtain ⟨all, -, left, whole⟩ := first.on_performs pr m
  rw [whole given ends] at left
  obtain ⟨done, begins, again, -⟩ := second.on_performs pr (first.on pr m).2
  rw [same] at begins
  have shows : ∀ a ∈ done, (first.on pr m).2.Shows pr.number a := fun a inside =>
    (Memory.shows_performAll once m a (begins.subset inside)).of_contents left
  have onceDone : ∀ a ∈ done, a.addsOnce = true := fun a inside => once a (begins.subset inside)
  exact again.trans (Memory.contents_performAll_shown onceDone shows)

end ActionRun

/-- What holds of the comments on an issue along deeds that lead from platform `m` to platform `q`.
-/
structure Unrepeated (n : Int) (m : Memory) (ds : List Deed) (q : Memory) : Prop where
  /-- A deed adds its own comment at most. -/
  added : ∀ d ∈ ds, d.after.commentsOf n = d.before.commentsOf n ++ d.added n ∧
    (d.added n = [] ∨
      ∃ body allowRepeats, d.action = .postComment body allowRepeats ∧ d.added n = [body])
  /-- No text is posted twice by actions that may not repeat it. -/
  once : (ds.flatMap (·.postedOnce n)).Nodup
  /-- Nor is one that stood at the start. -/
  fresh : ∀ comment ∈ m.commentsOf n, Text.strip comment ∉ ds.flatMap (·.postedOnce n)
  /-- Nor is one that any earlier action posted. -/
  unposted : ds.Pairwise fun earlier later =>
    ∀ comment ∈ earlier.added n, Text.strip comment ∉ later.postedOnce n
  /-- After an action that may not repeat its text and did not fail, the text stands for good. -/
  present : ∀ d ∈ ds, ∀ body, d.action = .postComment body false → d.outcome = .ok () →
    d.after.HasText n (Text.strip body) ∧ q.HasText n (Text.strip body)

theorem Deed.Lead.unrepeated {n : Int} {m q : Memory} {ds : List Deed} (leads : Lead n m ds q) :
    Unrepeated n m ds q where
  added d inside := by
    have carried := (leads.carried inside).1
    refine ⟨carried.grows, ?_⟩
    rcases carried.adds with ⟨none, -⟩ | ⟨body, allowRepeats, acts, one, -, -⟩
    · exact .inl none
    · exact .inr ⟨body, allowRepeats, acts, one⟩
  once := leads.nodup
  fresh comment there := leads.fresh (List.mem_map_of_mem there)
  unposted := leads.unposted
  present d inside body acts done := by
    obtain ⟨carried, grown⟩ := leads.carried inside
    have stands := carried.present acts done
    exact ⟨stands, stands.grows grown⟩

/-- Over any runs of actions on a pull request, whatever fails in them, a text is posted at most
once by actions that may not repeat it, and not at all when it stood before. Each run has deeds for
a first part of its actions, and for all of them when it does not fail. Actions that only put on
labels or post such comments change nothing when they are carried out a second time. -/
theorem posted_at_most_once (pr : PullRequestRef) (m : Memory) (runs : List ActionRun) :
    Deed.Lead pr.number m (ActionRun.history pr runs m) (ActionRun.leave pr runs m) ∧
      (∀ (run : ActionRun) (q : Memory), (run.deeds pr q).map (·.action) <+: run.actions ∧
        ∀ given, (run.on pr q).1 = .ok given → (run.deeds pr q).map (·.action) = run.actions) ∧
      Unrepeated pr.number m (ActionRun.history pr runs m) (ActionRun.leave pr runs m) ∧
      ∀ (q : Memory) (first second : ActionRun) (given : List Action),
        second.actions = first.actions → (∀ a ∈ first.actions, a.addsOnce = true) →
        (first.on pr q).1 = .ok given →
        (second.on pr (first.on pr q).2).2.contents = (first.on pr q).2.contents := by
  have leads := ActionRun.history_lead pr runs m
  refine ⟨leads, ActionRun.deeds_actions pr, leads.unrepeated, ?_⟩
  intro q first second given same once ends
  exact ActionRun.second_run same once ends

/-- A comment that may be repeated, a label and comments that may not be repeated. -/
def exampleRun (failing : List Method) : ActionRun :=
  ⟨failing, [.addLabel "approved", .postComment "go " true, .postComment " go" false,
    .postComment "stop" false]⟩

/-- Of three texts the one that no other comment has is posted, and no second run posts it again. -/
theorem stop_posted_once :
    let runs := [exampleRun [.getComments], exampleRun [], exampleRun []]
    let additions : ActionRun := ⟨[], [.addLabel "approved", .postComment "stop" false]⟩
    (ActionRun.history exampleRef runs .empty).length = 11 ∧
      (ActionRun.leave exampleRef runs .empty).commentsOf 7 = ["go ", "go ", "stop", "go "] ∧
      ((ActionRun.history exampleRef runs .empty).flatMap (·.postedOnce 7)).Nodup ∧
      (additions.on exampleRef .empty).1 = .ok additions.actions ∧
      (additions.on exampleRef (additions.on exampleRef .empty).2).2.contents =
        (additions.on exampleRef .empty).2.contents := by
  intro runs additions
  obtain ⟨-, -, unrepeated, again⟩ := posted_at_most_once exampleRef .empty runs
  have ends : (additions.on exampleRef .empty).1 = .ok additions.actions := rfl
  refine ⟨by decide +kernel, by decide +kernel, unrepeated.once, ends, ?_⟩
  exact again .empty additions additions _ rfl (by decide) ends

end SuiteTrigger
