import SuiteTrigger.Proofs.ValidRecords

/-!
# Records as normal forms

The records of the code host are read from objects of many forms: members may be left out, stand in
any order, or be unknown, in the object itself and in the objects inside it (`Reading.Rewritten`). A
record is one form of all these (`Reading.NormalForm`): it is read from what it is written as, and
what is read does not change when a value is rewritten, nor do the problems of a value that is
refused.
-/

namespace SuiteTrigger

namespace Reading

/-- What is looked at in a value: the members of an object under some keys, the items of a list, or
nothing inside it. -/
inductive Shape where
  | plain
  | list (item : Shape)
  | record (fields : List (String × Shape))

namespace Shape

/-- The shape of the member under a key; none where the key is unknown. -/
def field? : Shape → String → Option Shape
  | .record fields, key => fields.lookup key
  | _, _ => none

def item : Shape → Shape
  | .list item => item
  | _ => .plain

def keys : Shape → List String
  | .record fields => fields.map (·.1)
  | _ => []

end Shape

/-- Rewrites a value of some shape: unknown members come and go, members change places, and known
members and the items of lists are rewritten in turn. -/
inductive Rewritten : Shape → Json → Json → Prop
  | refl (shape : Shape) (v : Json) : Rewritten shape v v
  | symm {shape : Shape} {v w : Json} (rewritten : Rewritten shape v w) : Rewritten shape w v
  | trans {shape : Shape} {u v w : Json} (first : Rewritten shape u v)
    (second : Rewritten shape v w) : Rewritten shape u w
  | unknown {shape : Shape} {before after : List (String × Json)} {key : String}
    (unknown : shape.field? key = none) (v : Json) :
    Rewritten shape (.obj (before ++ after)) (.obj (before ++ (key, v) :: after))
  | order {shape : Shape} {fields fields' : List (String × Json)}
    (distinct : (fields.map (·.1)).Nodup) (permuted : fields.Perm fields') :
    Rewritten shape (.obj fields) (.obj fields')
  | member {shape inner : Shape} {before after : List (String × Json)} {key : String} {v w : Json}
    (known : shape.field? key = some inner) (rewritten : Rewritten inner v w) :
    Rewritten shape (.obj (before ++ (key, v) :: after)) (.obj (before ++ (key, w) :: after))
  | item {shape : Shape} {before after : List Json} {v w : Json}
    (rewritten : Rewritten shape.item v w) :
    Rewritten shape (.arr (before ++ v :: after)) (.arr (before ++ w :: after))

/-- Known members of two objects are rewritten from one another: both are missing or neither is. -/
def Alike (shape : Shape) (fields fields' : List (String × Json)) : Prop :=
  ∀ key inner, shape.field? key = some inner →
    Option.Rel (Rewritten inner) (fields.lookup key) (fields'.lookup key)

/-- What rewriting leaves of two values: they are the same, or objects with known members alike, or
lists with items alike. -/
inductive Inside (shape : Shape) : Json → Json → Prop
  | same (v : Json) : Inside shape v v
  | objects {fields fields' : List (String × Json)} (alike : Alike shape fields fields') :
    Inside shape (.obj fields) (.obj fields')
  | lists {items items' : List Json} (alike : List.Forall₂ (Rewritten shape.item) items items') :
    Inside shape (.arr items) (.arr items')

theorem lookup_append_cons_ne {key other : String} (differ : other ≠ key) (v : Json)
    (before after : List (String × Json)) :
    (before ++ (key, v) :: after).lookup other = (before ++ after).lookup other := by
  have skips : (other == key) = false := beq_false_of_ne differ
  rw [List.lookup_append, List.lookup_append, List.lookup_cons, skips]

/-- The order of members does not matter to look-ups, when no key is there twice. -/
theorem lookup_perm {fields fields' : List (String × Json)} (permuted : fields.Perm fields')
    (distinct : (fields.map (·.1)).Nodup) (key : String) :
    fields.lookup key = fields'.lookup key := by
  induction permuted with
  | nil => rfl
  | cons field permuted ih =>
    obtain ⟨own, v⟩ := field
    rw [List.lookup_cons, List.lookup_cons, ih (List.nodup_cons.1 distinct).2]
  | swap first second fields =>
    obtain ⟨own, v⟩ := first
    obtain ⟨own', w⟩ := second
    have differ : own' ≠ own := fun same =>
      (List.nodup_cons.1 distinct).1 (List.mem_cons.2 (.inl same))
    rcases eq_or_ne key own' with rfl | other
    · calc ((key, w) :: (own, v) :: fields).lookup key
          = some w := List.lookup_cons_self
        _ = ((key, w) :: fields).lookup key := List.lookup_cons_self.symm
        _ = ((own, v) :: (key, w) :: fields).lookup key :=
            (lookup_append_cons_ne differ v [] _).symm
    · calc ((own', w) :: (own, v) :: fields).lookup key
          = ((own, v) :: fields).lookup key := lookup_append_cons_ne other w [] _
        _ = ((own, v) :: (own', w) :: fields).lookup key :=
            (lookup_append_cons_ne other w [(own, v)] _).symm
  | trans first second ih ih' =>
    exact (ih distinct).trans (ih' ((first.map _).nodup_iff.1 distinct))

namespace Alike

theorem refl (shape : Shape) (fields : List (String × Json)) : Alike shape fields fields := by
  intro key inner _
  cases fields.lookup key with
  | none => exact .none
  | some v => exact .some (.refl inner v)

theorem of_lookup {shape : Shape} {fields fields' : List (String × Json)}
    (same : ∀ key inner, shape.field? key = some inner → fields.lookup key = fields'.lookup key) :
    Alike shape fields fields' := by
  intro key inner known
  rw [← same key inner known]
  exact refl shape fields key inner known

theorem symm {shape : Shape} {fields fields' : List (String × Json)}
    (alike : Alike shape fields fields') : Alike shape fields' fields := by
  intro key inner known
  have there := alike key inner known
  generalize fields.lookup key = v?, fields'.lookup key = w? at there
  cases there with
  | none => exact .none
  | some rewritten => exact .some rewritten.symm

theorem trans {shape : Shape} {fields fields' fields'' : List (String × Json)}
    (first : Alike shape fields fields') (second : Alike shape fields' fields'') :
    Alike shape fields fields'' := by
  intro key inner known
  have sooner := first key inner known
  have later := second key inner known
  generalize fields.lookup key = u?, fields'.lookup key = v?, fields''.lookup key = w?
    at sooner later
  cases sooner with
  | none => exact later
  | some rewritten =>
    cases later with
    | some rewritten' => exact .some (rewritten.trans rewritten')

theorem unknown {shape : Shape} {key : String} (unknown : shape.field? key = none) (v : Json)
    (before after : List (String × Json)) :
    Alike shape (before ++ after) (before ++ (key, v) :: after) := by
  refine of_lookup fun other inner known => (lookup_append_cons_ne ?_ v before after).symm
  rintro rfl
  nomatch unknown.symm.trans known

theorem member {shape inner : Shape} {key : String} {v w : Json}
    (known : shape.field? key = some inner) (rewritten : Rewritten inner v w)
    (before after : List (String × Json)) :
    Alike shape (before ++ (key, v) :: after) (before ++ (key, w) :: after) := by
  intro other inner' known'
  rcases eq_or_ne other key with rfl | differ
  · obtain rfl : inner = inner' := Option.some.inj (known.symm.trans known')
    rw [List.lookup_append, List.lookup_append, List.lookup_cons_self, List.lookup_cons_self]
    cases before.lookup other with
    | none => exact .some rewritten
    | some u => exact .some (.refl inner u)
  · rw [lookup_append_cons_ne differ, lookup_append_cons_ne differ]
    exact refl shape _ other inner' known'

end Alike

theorem items_trans {shape : Shape} {us vs ws : List Json}
    (first : List.Forall₂ (Rewritten shape) us vs)
    (second : List.Forall₂ (Rewritten shape) vs ws) : List.Forall₂ (Rewritten shape) us ws := by
  induction first generalizing ws with
  | nil => exact second
  | cons sooner _ ih =>
    cases second with
    | cons later rest => exact .cons (sooner.trans later) (ih rest)

/-- However a value is rewritten, only that is left which is seen at once. -/
theorem Rewritten.inside {shape : Shape} {v w : Json} (rewritten : Rewritten shape v w) :
    Inside shape v w := by
  induction rewritten with
  | refl _ v => exact .same v
  | symm _ ih =>
    cases ih with
    | same => exact .same _
    | objects alike => exact .objects alike.symm
    | lists alike => exact .lists (alike.flip.imp fun _ _ rewritten => rewritten.symm)
  | trans _ _ first second =>
    cases first with
    | same v => exact second
    | objects alike =>
      cases second with
      | same v => exact .objects alike
      | objects alike' => exact .objects (alike.trans alike')
    | lists alike =>
      cases second with
      | same v => exact .lists alike
      | lists alike' => exact .lists (items_trans alike alike')
  | unknown unknown v => exact .objects (.unknown unknown v _ _)
  | order distinct permuted =>
    exact .objects (.of_lookup fun key _ _ => lookup_perm permuted distinct key)
  | member known rewritten _ => exact .objects (.member known rewritten _ _)
  | @item shape before after v w rewritten _ =>
    have alike (items : List Json) : List.Forall₂ (Rewritten shape.item) items items :=
      List.forall₂_same.2 fun v _ => .refl _ v
    exact .lists (List.rel_append (alike before) (.cons rewritten (alike after)))

variable {α : Type} {shape inner : Shape} {key : String} {read : Json → Checked α}
  {fields fields' : List (String × Json)}

/-- A check comes to the same, value or problems, however a value of some shape is rewritten. -/
def Overlooks (shape : Shape) (read : Json → Checked α) : Prop :=
  ∀ v w, Rewritten shape v w → read v = read w

/-- A check that says the same of all objects, and the same of all lists, overlooks what is inside
them. -/
theorem overlooks_of_const (objects : ∀ fields fields', read (.obj fields) = read (.obj fields'))
    (lists : ∀ items items', read (.arr items) = read (.arr items')) : Overlooks shape read := by
  intro v w rewritten
  cases rewritten.inside with
  | same => rfl
  | objects => exact objects _ _
  | lists => exact lists _ _

theorem integer_overlooks : Overlooks .plain integer :=
  overlooks_of_const (fun _ _ => rfl) fun _ _ => rfl

theorem boolean_overlooks : Overlooks .plain boolean :=
  overlooks_of_const (fun _ _ => rfl) fun _ _ => rfl

theorem text_overlooks : Overlooks .plain text :=
  overlooks_of_const (fun _ _ => rfl) fun _ _ => rfl

theorem oneOf_overlooks (choices : List String) : Overlooks .plain (oneOf choices) :=
  overlooks_of_const (fun _ _ => rfl) fun _ _ => rfl

theorem itemsFrom_alike (overlooks : Overlooks inner read) {items items' : List Json}
    (alike : List.Forall₂ (Rewritten inner) items items') (start : Nat) :
    Checked.itemsFrom read start items = Checked.itemsFrom read start items' := by
  induction alike generalizing start with
  | nil => rfl
  | cons rewritten _ ih => rw [Checked.itemsFrom, Checked.itemsFrom, overlooks _ _ rewritten, ih]

theorem list_overlooks (overlooks : Overlooks inner read) :
    Overlooks (.list inner) (list read) := by
  intro v w rewritten
  cases rewritten.inside with
  | same => rfl
  | objects => rfl
  | lists alike => exact itemsFrom_alike overlooks alike 0

theorem record_overlooks {name : String} {members : List (String × Json) → Checked α}
    (same : ∀ fields fields', Alike shape fields fields' → members fields = members fields') :
    Overlooks shape (record name members) := by
  intro v w rewritten
  cases rewritten.inside with
  | same => rfl
  | objects alike => exact same _ _ alike
  | lists => rfl

theorem Alike.required (alike : Alike shape fields fields') (key : String)
    (overlooks : Overlooks inner read) (known : shape.field? key = some inner) :
    required key read fields = required key read fields' := by
  have there := alike key inner known
  unfold Reading.required
  generalize fields.lookup key = v?, fields'.lookup key = w? at there
  cases there with
  | none => rfl
  | some rewritten => exact congrArg (Checked.under (.field key)) (overlooks _ _ rewritten)

theorem Alike.withDefault (alike : Alike shape fields fields') (key : String)
    (overlooks : Overlooks inner read) (known : shape.field? key = some inner) (absent : α) :
    withDefault key read absent fields = withDefault key read absent fields' := by
  have there := alike key inner known
  unfold Reading.withDefault
  generalize fields.lookup key = v?, fields'.lookup key = w? at there
  cases there with
  | none => rfl
  | some rewritten => exact congrArg (Checked.under (.field key)) (overlooks _ _ rewritten)

/-- Nothing is rewritten to or from null, so a field that is null stays the same as none. -/
theorem Alike.optional (alike : Alike shape fields fields') (key : String)
    (overlooks : Overlooks inner read) (known : shape.field? key = some inner) :
    optional key read fields = optional key read fields' := by
  have there := alike key inner known
  unfold Reading.optional
  generalize fields.lookup key = v?, fields'.lookup key = w? at there
  cases there with
  | none => rfl
  | some rewritten =>
    have same := congrArg (fun checked => (some <$> checked).under (.field key))
      (overlooks _ _ rewritten)
    cases rewritten.inside with
    | same => rfl
    | objects => exact same
    | lists => exact same

end Reading

open Reading

def Repository.shape : Shape :=
  .record [("id", .plain), ("name", .plain), ("full_name", .plain), ("url", .plain),
    ("html_url", .plain), ("private", .plain)]

def Label.shape : Shape := .record [("name", .plain), ("id", .plain), ("color", .plain)]

def Branch.shape : Shape := .record [("ref", .plain), ("sha", .plain)]

def PullRequest.shape : Shape :=
  .record [("id", .plain), ("number", .plain), ("state", .plain), ("head", Branch.shape),
    ("labels", .list Label.shape), ("html_url", .plain)]

def Review.shape : Shape :=
  .record [("id", .plain), ("state", .plain), ("commit_id", .plain), ("html_url", .plain)]

def Comment.shape : Shape := .record [("id", .plain), ("body", .plain), ("html_url", .plain)]

theorem Repository.overlooks : Overlooks Repository.shape Repository.check :=
  record_overlooks fun fields fields' alike => by
    rw [Repository.ofFields, alike.required "id" integer_overlooks rfl,
      alike.required "name" text_overlooks rfl, alike.optional "full_name" text_overlooks rfl,
      alike.required "url" text_overlooks rfl, alike.optional "html_url" text_overlooks rfl,
      alike.optional "private" boolean_overlooks rfl]
    rfl

theorem Label.overlooks : Overlooks Label.shape Label.check :=
  record_overlooks fun fields fields' alike => by
    rw [Label.ofFields, alike.required "name" text_overlooks rfl,
      alike.optional "id" integer_overlooks rfl, alike.optional "color" text_overlooks rfl]
    rfl

theorem Branch.overlooks : Overlooks Branch.shape Branch.check :=
  record_overlooks fun fields fields' alike => by
    rw [Branch.ofFields, alike.required "ref" text_overlooks rfl,
      alike.required "sha" text_overlooks rfl]
    rfl

theorem PullRequest.overlooks : Overlooks PullRequest.shape PullRequest.check :=
  record_overlooks fun fields fields' alike => by
    rw [PullRequest.ofFields, alike.optional "id" integer_overlooks rfl,
      alike.required "number" integer_overlooks rfl,
      alike.optional "state" (oneOf_overlooks _) rfl,
      alike.optional "head" Branch.overlooks rfl,
      alike.withDefault "labels" (list_overlooks Label.overlooks) rfl,
      alike.optional "html_url" text_overlooks rfl]
    rfl

theorem Review.overlooks : Overlooks Review.shape Review.check :=
  record_overlooks fun fields fields' alike => by
    rw [Review.ofFields, alike.optional "id" integer_overlooks rfl,
      alike.required "state" text_overlooks rfl, alike.optional "commit_id" text_overlooks rfl,
      alike.optional "html_url" text_overlooks rfl]
    rfl

theorem Comment.overlooks : Overlooks Comment.shape Comment.check :=
  record_overlooks fun fields fields' alike => by
    rw [Comment.ofFields, alike.required "id" integer_overlooks rfl,
      alike.withDefault "body" text_overlooks rfl, alike.optional "html_url" text_overlooks rfl]
    rfl

/-- A record is one form of all the values that it is read from: it is written as an object of all
its fields, it is read again from that, and rewriting a value changes neither the record that is
read nor the problems of a refusal. -/
structure Reading.NormalForm {α : Type} (shape : Shape) (read : Json → Except Refusal α)
    (write : α → Json) : Prop where
  whole : ∀ a, ∃ fields, write a = .obj fields ∧ fields.map (·.1) = shape.keys
  again : ∀ v a, read v = .ok a → read (write a) = .ok a
  overlooks : ∀ v w, Rewritten shape v w → read v = read w

theorem PullRequest.read_again {v : Json} {p : PullRequest} (reads : PullRequest.read v = .ok p) :
    PullRequest.read p.toJson = .ok p := by
  obtain ⟨-, -, state, -, -, -⟩ := PullRequest.read_ok.1 reads
  refine PullRequest.read_toJson fun s is => ?_
  rw [is] at state
  obtain ⟨_, _, _, _, listed⟩ := state
  exact listed

/-- Every record of the code host is a normal form. -/
theorem resources_normal_forms :
    NormalForm Repository.shape Repository.read Repository.toJson ∧
      NormalForm Label.shape Label.read Label.toJson ∧
      NormalForm Branch.shape Branch.read Branch.toJson ∧
      NormalForm PullRequest.shape PullRequest.read PullRequest.toJson ∧
      NormalForm Review.shape Review.read Review.toJson ∧
      NormalForm Comment.shape Comment.read Comment.toJson := by
  have told {α : Type} {shape : Shape} {check : Json → Checked α} (name : String)
      (overlooks : Overlooks shape check) (v w : Json) (rewritten : Rewritten shape v w) :
      (check v).toExcept name = (check w).toExcept name :=
    congrArg (Checked.toExcept name) (overlooks v w rewritten)
  refine ⟨?repository, ?label, ?branch, ?pullRequest, ?review, ?comment⟩
  case repository =>
    exact ⟨fun _ => ⟨_, rfl, rfl⟩, fun _ r _ => r.read_toJson, told _ Repository.overlooks⟩
  case label => exact ⟨fun _ => ⟨_, rfl, rfl⟩, fun _ l _ => l.read_toJson, told _ Label.overlooks⟩
  case branch =>
    exact ⟨fun _ => ⟨_, rfl, rfl⟩, fun _ b _ => b.read_toJson, told _ Branch.overlooks⟩
  case pullRequest =>
    exact ⟨fun _ => ⟨_, rfl, rfl⟩, fun _ _ reads => PullRequest.read_again reads,
      told _ PullRequest.overlooks⟩
  case review =>
    exact ⟨fun _ => ⟨_, rfl, rfl⟩, fun _ r _ => r.read_toJson, told _ Review.overlooks⟩
  case comment =>
    exact ⟨fun _ => ⟨_, rfl, rfl⟩, fun _ c _ => c.read_toJson, told _ Comment.overlooks⟩

/-- A pull request whose number is text, with unknown members in itself, its head and a label. -/
example :
    PullRequest.read (.obj [("draft", .bool true),
        ("labels", .arr [.obj [("default", .null), ("name", .str "ok-to-test")]]),
        ("head", .obj [("sha", .str "c0ffee"), ("repo", .obj []), ("ref", .str "main")]),
        ("number", .str "7")]) =
      .ok ⟨none, 7, none, some ⟨"main", "c0ffee"⟩, [⟨"ok-to-test", none, none⟩], none⟩ := by
  rfl

end SuiteTrigger
