import SuiteTrigger.Platform.Installation
import SuiteTrigger.Proofs.Addresses
import SuiteTrigger.Proofs.PrivateRepositories

namespace SuiteTrigger

namespace Http

namespace Address

/-- Whether a segment of a path stays where it is: it is not empty and no dots. -/
def IsName (segment : List Char) : Prop := segment ≠ [] ∧ '/' ∉ segment ∧ isDots segment = false

instance : DecidablePred IsName := fun segment =>
  inferInstanceAs (Decidable (segment ≠ [] ∧ '/' ∉ segment ∧ isDots segment = false))

theorem follow_eq (done : List (List Char)) {segments : List (List Char)}
    (plain : ∀ segment ∈ segments, isDots segment = false) :
    follow done segments = done.reverse ++ segments := by
  induction segments generalizing done with
  | nil => exact (List.append_nil _).symm
  | cons segment segments ih =>
    have undotted := plain segment List.mem_cons_self
    simp only [isDots, Bool.or_eq_false_iff, decide_eq_false_iff_not] at undotted
    rw [follow, if_neg undotted.2, if_neg undotted.1,
      ih _ fun later inside => plain later (List.mem_cons_of_mem segment inside),
      List.reverse_cons, List.append_assoc, List.singleton_append]

variable {first : List Char} {rest : List (List Char)}

theorem segments_eq (names : ∀ segment ∈ first :: rest, IsName segment) :
    segments (['/'].intercalate (first :: rest)) = [] :: first :: rest := by
  have parts : Text.splitOn '/' (['/'].intercalate (first :: rest)) = first :: rest := by
    rw [Text.splitOn_eq]
    exact List.splitOn_intercalate '/' (fun segment inside => (names segment inside).2.1)
      (List.cons_ne_nil _ _)
  have kept : (first :: rest).dropLast.filter (fun part => !part.isEmpty) =
      (first :: rest).dropLast := by
    refine List.filter_eq_self.2 fun segment inside => ?_
    simpa using (names segment ((List.dropLast_sublist _).subset inside)).1
  have whole : (first :: rest).dropLast ++ (first :: rest).getLast?.toList = first :: rest := by
    rw [List.getLast?_eq_some_getLast (List.cons_ne_nil first rest), Option.toList_some,
      List.dropLast_concat_getLast]
  have relative : ∃ c cs, ['/'].intercalate (first :: rest) = c :: cs ∧ c ≠ '/' := by
    obtain ⟨some, slashless, -⟩ := names first List.mem_cons_self
    cases first with
    | nil => exact absurd rfl some
    | cons c cs =>
      have other : c ≠ '/' := fun slash => slashless (slash ▸ List.mem_cons_self)
      cases rest with
      | nil => exact ⟨c, cs, List.intercalate_singleton, other⟩
      | cons second rest => exact ⟨c, _, List.intercalate_cons_cons, other⟩
  obtain ⟨c, cs, begins, other⟩ := relative
  unfold segments
  rw [parts, begins]
  dsimp only
  split
  · rename_i slash
    exact absurd (List.cons.inj slash).1 other
  · rw [List.cons_append, kept, whole]

/-- A path of names is put behind the root as it is. -/
theorem resolvePath_eq (names : ∀ segment ∈ first :: rest, IsName segment) :
    resolvePath (['/'].intercalate (first :: rest)) = '/' :: ['/'].intercalate (first :: rest) := by
  have undotted : ∀ segment ∈ [] :: first :: rest, isDots segment = false := by
    intro segment inside
    rcases List.mem_cons.1 inside with rfl | inside
    · decide
    · exact (names segment inside).2.2
  have ends : ((([] :: first :: rest).getLast?.map isDots).getD false) = false := by
    rw [List.getLast?_eq_some_getLast (List.cons_ne_nil [] _), Option.map_some, Option.getD_some]
    exact undotted _ (List.getLast_mem _)
  unfold resolvePath
  rw [segments_eq names]
  dsimp only
  rw [follow_eq [] undotted, List.reverse_nil, List.nil_append, ends, if_neg Bool.false_ne_true,
    List.intercalate_cons_cons]
  rfl

end Address

end Http

namespace Installation

open Http

def tokenReference (id : Json) : String := "/app/installations/" ++ id.text ++ "/access_tokens"

/-- Whether a text consists of letters and digits; those beyond ASCII are not told from other
characters there. -/
def IsWord (text : String) : Prop :=
  text ≠ "" ∧ ∀ ch ∈ text.toList, ch.isAlphanum = true ∨ 0x80 ≤ ch.toNat

namespace IsWord

variable {text : String}

theorem above (word : IsWord text) : ∀ ch ∈ text.toList, 0x20 < ch.toNat := by
  intro ch inside
  rcases word.2 ch inside with letter | foreign
  · refine Nat.lt_of_not_le fun low => ?_
    have controls : ∀ n < 0x21, (Char.ofNat n).isAlphanum = false := by decide
    have none := controls ch.toNat (Nat.lt_succ_of_le low)
    rw [Char.ofNat_toNat, letter] at none
    nomatch none
  · exact Nat.lt_of_lt_of_le (by decide) foreign

theorem not_mem (word : IsWord text) {sign : Char} (other : sign.isAlphanum = false)
    (ascii : sign.toNat < 0x80) : sign ∉ text.toList := by
  intro inside
  rcases word.2 sign inside with letter | foreign
  · rw [other] at letter
    nomatch letter
  · exact absurd ascii (Nat.not_lt.2 foreign)

end IsWord

def tokenPath (text : String) : List Char :=
  "app".toList ++ '/' :: ("installations".toList ++ '/' :: (text.toList ++
    '/' :: "access_tokens".toList))

theorem toList_tokenPath (text : String) :
    ("/app/installations/" ++ text ++ "/access_tokens").toList = '/' :: tokenPath text := by
  have start : "/app/installations/".toList =
      '/' :: ("app".toList ++ '/' :: ("installations".toList ++ ['/'])) := by rfl
  have last : "/access_tokens".toList = '/' :: "access_tokens".toList := by rfl
  rw [String.toList_append, String.toList_append, start, last, tokenPath]
  simp only [List.append_assoc, List.cons_append, List.nil_append]

theorem toList_tokenUrl (text : String) :
    ("https://api.github.com/app/installations/" ++ text ++ "/access_tokens").toList =
      "https".toList ++ ':' :: '/' :: '/' :: ("api.github.com".toList ++
        '/' :: tokenPath text) := by
  have start : "https://api.github.com/app/installations/".toList =
      "https".toList ++ ':' :: '/' :: '/' :: ("api.github.com".toList ++
        '/' :: ("app".toList ++ '/' :: ("installations".toList ++ ['/']))) := by rfl
  have last : "/access_tokens".toList = '/' :: "access_tokens".toList := by rfl
  rw [String.toList_append, String.toList_append, start, last, tokenPath]
  simp only [List.append_assoc, List.cons_append, List.nil_append]

theorem forall_tokenPath {text : String} {P : Char → Prop}
    (fixed : ∀ ch ∈ "/app/installations/access_tokens".toList, P ch)
    (inText : ∀ ch ∈ text.toList, P ch) : ∀ ch ∈ tokenPath text, P ch := by
  have parts : "/app/installations/access_tokens".toList =
      '/' :: ("app".toList ++
        '/' :: ("installations".toList ++ '/' :: "access_tokens".toList)) := by
    decide
  rw [parts] at fixed
  intro ch inside
  simp only [tokenPath, List.mem_append, List.mem_cons] at inside fixed
  rcases inside with there | rfl | there | rfl | there | rfl | there
  · exact fixed ch (.inr (.inl there))
  · exact fixed '/' (.inl rfl)
  · exact fixed ch (.inr (.inr (.inr (.inl there))))
  · exact fixed '/' (.inl rfl)
  · exact inText ch there
  · exact fixed '/' (.inl rfl)
  · exact fixed ch (.inr (.inr (.inr (.inr (.inr there)))))

theorem not_mem_tokenPath {text : String} (word : IsWord text) {sign : Char}
    (other : sign.isAlphanum = false) (ascii : sign.toNat < 0x80)
    (fixed : sign ∉ "/app/installations/access_tokens".toList) : sign ∉ tokenPath text := by
  intro inside
  refine forall_tokenPath (P := (· ≠ sign)) ?_ ?_ sign inside rfl
  · rintro ch there rfl
    exact fixed there
  · rintro ch there rfl
    exact word.not_mem other ascii there

theorem parse_tokenPath {text : String} (word : IsWord text) :
    Address.parse (tokenPath text) = .ok ⟨"https".toList, [], tokenPath text, [], [], []⟩ := by
  have visible : ∀ ch ∈ tokenPath text, 0x20 < ch.toNat :=
    forall_tokenPath (Text.forall_of_all (by decide)) word.above
  have unschemed : Address.splitScheme (tokenPath text) = (none, tokenPath text) := by
    have noColon : ':' ∉ tokenPath text :=
      not_mem_tokenPath word (by decide) (by decide) (by decide)
    rw [Address.splitScheme, Text.cut?_eq_none noColon]
  have hostless : Address.splitAuthority (tokenPath text) = ([], tokenPath text) := rfl
  have held : Authority.check [] = .ok () := rfl
  have noParameters : Address.splitParameters (tokenPath text) = (tokenPath text, []) := by
    have last : '/' ∉ "access_tokens".toList := by decide
    have split := Address.splitParameters_eq
      ("app".toList ++ '/' :: ("installations".toList ++ '/' :: text.toList)) last (by decide)
    simpa only [tokenPath, List.append_assoc, List.cons_append] using split
  have noFragment : '#' ∉ tokenPath text :=
    not_mem_tokenPath word (by decide) (by decide) (by decide)
  have noQuery : '?' ∉ tokenPath text :=
    not_mem_tokenPath word (by decide) (by decide) (by decide)
  rw [Address.parse, Address.clean_eq visible, unschemed]
  dsimp only
  rw [hostless]
  dsimp only
  rw [held, Address.splitAt_eq noFragment]
  dsimp only [bind, Except.bind]
  rw [Address.splitAt_eq noQuery]
  dsimp only
  rw [noParameters]
  rfl

theorem resolvePath_tokenPath {text : String} (word : IsWord text) :
    Address.resolvePath (tokenPath text) = '/' :: tokenPath text := by
  have names : ∀ segment ∈
      ["app".toList, "installations".toList, text.toList, "access_tokens".toList],
      Address.IsName segment := by
    have some : text.toList ≠ [] := by simpa using word.1
    have dotless : '.' ∉ text.toList := word.not_mem (by decide) (by decide)
    have undotted : Address.isDots text.toList = false := by
      simp only [Address.isDots, Bool.or_eq_false_iff, decide_eq_false_iff_not]
      constructor
      · intro dot
        exact dotless (dot ▸ List.mem_cons_self)
      · intro dots
        exact dotless (dots ▸ List.mem_cons_self)
    simp only [List.mem_cons, List.not_mem_nil, or_false]
    rintro segment (rfl | rfl | rfl | rfl)
    · decide
    · decide
    · exact ⟨some, word.not_mem (by decide) (by decide), undotted⟩
    · decide
  have joined : tokenPath text = ['/'].intercalate
      ["app".toList, "installations".toList, text.toList, "access_tokens".toList] := by
    rw [List.intercalate_cons_cons, List.intercalate_cons_cons, List.intercalate_cons_cons,
      List.intercalate_singleton, tokenPath]
    simp only [List.append_assoc, List.singleton_append]
  rw [joined]
  exact Address.resolvePath_eq names

theorem resolve_tokenReference {id : Json} (word : IsWord id.text) :
    Address.resolve (tokenReference id).toList =
      .ok ("https".toList ++ ':' :: '/' :: '/' :: ("api.github.com".toList ++
        '/' :: tokenPath id.text)) := by
  have unslashed :
      Text.afterStart? ['/'] ('/' :: tokenPath id.text) = some (tokenPath id.text) := by
    rw [Text.afterStart?, if_pos rfl]
    rfl
  have some : (tokenPath id.text).isEmpty = false := by simp [tokenPath]
  have root : Address.onRoot ⟨"https".toList, [], tokenPath id.text, [], [], []⟩ =
      ⟨"https".toList, "api.github.com".toList, '/' :: tokenPath id.text, [], [], []⟩ := by
    rw [Address.onRoot]
    dsimp only
    rw [some, resolvePath_tokenPath word]
    rfl
  have kept : ¬ "https".toList ≠ Address.rootScheme := not_not_intro (Eq.refl _)
  have reference : (tokenReference id).toList = '/' :: tokenPath id.text := toList_tokenPath id.text
  rw [reference, Address.resolve, unslashed, Option.getD_some, some,
    parse_tokenPath word]
  dsimp only [bind, Except.bind]
  rw [if_neg Bool.false_ne_true, if_neg kept, List.isEmpty_nil, if_pos rfl, root,
    Address.render_eq]
  rfl

/-- The token of an installation whose id is letters and digits is asked for at the address that one
expects. -/
theorem token_target {id : Json} (word : IsWord id.text) :
    target [] (tokenReference id) =
      .ok ("https://api.github.com/app/installations/" ++ id.text ++ "/access_tokens") := by
  have unbraced : '\x7b' ∉ "https".toList ++ ':' :: '/' :: '/' :: ("api.github.com".toList ++
      '/' :: tokenPath id.text) := by
    have path : '\x7b' ∉ tokenPath id.text :=
      not_mem_tokenPath word (by decide) (by decide) (by decide)
    simp [path]
  rw [RepositoryUrl.target_eq (resolve_tokenReference word) (Template.expand_plain [] unbraced)]
  refine congrArg Except.ok (String.toList_inj.1 ?_)
  rw [String.toList_ofList, toList_tokenUrl]

end Installation

end SuiteTrigger
