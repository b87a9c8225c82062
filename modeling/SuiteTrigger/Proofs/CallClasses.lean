import Mathlib.Data.List.Infix
import Mathlib.Data.List.TakeWhile
import SuiteTrigger.Proofs.Addresses

namespace SuiteTrigger

namespace Text

/-- Searching finds a text wherever it stands. -/
theorem occursIn_iff {part cs : List Char} : occursIn part cs = true ↔ part <:+: cs := by
  induction cs with
  | nil => simp [occursIn]
  | cons c cs ih =>
    have starts : (afterStart? part (c :: cs)).isSome = true ↔ part <+: c :: cs := by
      simp only [Option.isSome_iff_exists, afterStart?_eq_some_iff]
      exact exists_congr fun rest => eq_comm
    rw [occursIn, Bool.or_eq_true, starts, ih, List.infix_cons_iff]

/-- A text that does not hold a separator stands on one side of it. -/
theorem infix_beside {part before after : List Char} {separator : Char} (none : separator ∉ part)
    (inside : part <:+: before ++ separator :: after) : part <:+: before ∨ part <:+: after := by
  obtain ⟨first, last, whole⟩ := inside
  rcases List.append_eq_append_iff.1 whole with ⟨mid, left, -⟩ | ⟨mid, left, right⟩
  · exact .inl ⟨first, mid, left.symm⟩
  · cases mid with
    | nil => exact .inl ⟨first, [], by rw [List.append_nil, left, List.append_nil]⟩
    | cons c mid =>
      obtain ⟨rfl, behind⟩ := List.cons.inj right
      rcases List.append_eq_append_iff.1 left with ⟨tail, -, holds⟩ | ⟨tail, -, holds⟩
      · exact absurd (holds ▸ by simp) none
      · cases tail with
        | nil =>
          rw [List.nil_append] at holds
          exact absurd (holds ▸ List.mem_cons_self) none
        | cons d tail =>
          obtain ⟨-, rest⟩ := List.cons.inj holds
          exact .inr ⟨tail, last, by rw [behind, rest]; rfl⟩

theorem isDigit_of_ascii {c : Char} (digit : c.isDigit = true) : isDigit c = true := by
  have bounds : 48 ≤ c.toNat ∧ c.toNat ≤ 57 := by
    simpa [Char.isDigit, UInt32.le_iff_toNat_le] using digit
  simp [isDigit, digitValue?, digitZeros, bounds]

end Text

namespace Endpoint

open Text

/-- The word between the slashes before the number of an issue. -/
def issues : List Char := '/' :: "issues/".toList

/-- The word for what is asked of an issue, at the end of its address. -/
inductive Word : Endpoint → List Char → Prop
  | labels : Word .labels "labels".toList
  | comments : Word .comments "comments".toList

/-- A text begins with an issue that is asked for an endpoint: `/issues/`, one or more decimal
digits of any script, a slash and the word of the endpoint. -/
def Begins (e : Endpoint) (cs : List Char) : Prop :=
  ∃ digits word rest, digits ≠ [] ∧ (∀ c ∈ digits, isDigit c = true) ∧ Word e word ∧
    cs = issues ++ (digits ++ '/' :: (word ++ rest))

/-- The leftmost issue in a text is asked for an endpoint. -/
def Leftmost (e : Endpoint) (cs : List Char) : Prop :=
  ∃ i, Begins e (cs.drop i) ∧ ∀ j < i, ∀ e', ¬ Begins e' (cs.drop j)

theorem issues_toList : "/issues/".toList = issues := by decide

/-- Behind a run of digits a slash is left. -/
theorem afterDigits?_slash {digits : List Char} (some : digits ≠ [])
    (all : ∀ c ∈ digits, isDigit c = true) (rest : List Char) :
    afterDigits? (digits ++ '/' :: rest) = .some ('/' :: rest) := by
  have slash : isDigit '/' = false := by decide
  cases digits with
  | nil => exact absurd rfl some
  | cons c digits =>
    rw [List.cons_append, afterDigits?, if_pos (all c List.mem_cons_self)]
    rw [List.dropWhile_append_of_pos fun d later => all d (List.mem_cons_of_mem c later),
      List.dropWhile_cons_of_neg (by simp [slash])]

theorem afterDigits?_run {cs rest : List Char} (run : afterDigits? cs = some rest) :
    ∃ digits, digits ≠ [] ∧ (∀ c ∈ digits, isDigit c = true) ∧ cs = digits ++ rest := by
  cases cs with
  | nil => nomatch run
  | cons c cs =>
    rw [afterDigits?] at run
    split at run
    · rename_i digit
      cases run
      refine ⟨c :: cs.takeWhile isDigit, List.cons_ne_nil _ _, fun d inside => ?_, ?_⟩
      · rcases List.mem_cons.1 inside with rfl | later
        · exact digit
        · exact List.mem_takeWhile_imp later
      · rw [List.cons_append, List.takeWhile_append_dropWhile]
    · nomatch run

theorem issueAt?_eq_some_iff {e : Endpoint} {cs : List Char} :
    issueAt? cs = some e ↔ Begins e cs := by
  have labels : "/labels".toList = '/' :: "labels".toList := by decide
  have comments : "/comments".toList = '/' :: "comments".toList := by decide
  constructor
  · intro found
    obtain ⟨rest, numbered, asked⟩ := Option.bind_eq_some_iff.1 found
    obtain ⟨behind, starts, run⟩ := Option.bind_eq_some_iff.1 numbered
    obtain ⟨digits, some, all, rfl⟩ := afterDigits?_run run
    rw [afterStart?_eq_some_iff, issues_toList] at starts
    split at asked
    · rename_i begins
      obtain ⟨last, here⟩ := Option.isSome_iff_exists.1 begins
      rw [afterStart?_eq_some_iff, labels] at here
      cases asked
      exact ⟨digits, _, last, some, all, .labels, starts.trans (by rw [here]; rfl)⟩
    · split at asked
      · rename_i begins
        obtain ⟨last, here⟩ := Option.isSome_iff_exists.1 begins
        rw [afterStart?_eq_some_iff, comments] at here
        cases asked
        exact ⟨digits, _, last, some, all, .comments, starts.trans (by rw [here]; rfl)⟩
      · nomatch asked
  · rintro ⟨digits, word, rest, some, all, named, rfl⟩
    have starts : afterStart? "/issues/".toList (issues ++ (digits ++ '/' :: (word ++ rest))) =
        .some (digits ++ '/' :: (word ++ rest)) := by
      rw [issues_toList, afterStart?_eq_some_iff]
    rw [issueAt?, starts, Option.bind_some, afterDigits?_slash some all, Option.bind_some]
    cases named with
    | labels => rfl
    | comments => rfl

theorem issueAt?_eq_none_iff {cs : List Char} : issueAt? cs = none ↔ ∀ e, ¬ Begins e cs := by
  rw [Option.eq_none_iff_forall_ne_some]
  exact forall_congr' fun e => not_congr issueAt?_eq_some_iff

theorem begins_ne_nil {e : Endpoint} : ¬ Begins e [] := by
  rintro ⟨_, _, _, -, -, -, short⟩
  nomatch short

/-- The search for an issue finds the leftmost. -/
theorem issueIn?_eq_some_iff {e : Endpoint} {cs : List Char} :
    issueIn? cs = some e ↔ Leftmost e cs := by
  induction cs with
  | nil =>
    refine ⟨nofun, ?_⟩
    rintro ⟨i, begins, -⟩
    rw [List.drop_nil] at begins
    exact absurd begins begins_ne_nil
  | cons c cs ih =>
    rw [issueIn?]
    cases here : issueAt? (c :: cs) with
    | some e' =>
      have begins := issueAt?_eq_some_iff.1 here
      constructor
      · rintro ⟨⟩
        exact ⟨0, begins, nofun⟩
      · rintro ⟨i, later, first⟩
        cases i with
        | zero => exact here.symm.trans (issueAt?_eq_some_iff.2 later)
        | succ i => exact absurd begins (first 0 i.succ_pos e')
    | none =>
      have none := issueAt?_eq_none_iff.1 here
      refine Iff.trans ih ⟨?_, ?_⟩
      · rintro ⟨i, begins, first⟩
        refine ⟨i + 1, begins, fun j before e' => ?_⟩
        cases j with
        | zero => exact none e'
        | succ j => exact first j (Nat.lt_of_succ_lt_succ before) e'
      · rintro ⟨i, begins, first⟩
        cases i with
        | zero => exact absurd begins (none e)
        | succ i => exact ⟨i, begins, fun j before => first (j + 1) (Nat.succ_lt_succ before)⟩

/-- Nothing is found exactly where no issue begins. -/
theorem issueIn?_eq_none_iff {cs : List Char} :
    issueIn? cs = none ↔ ∀ i e, ¬ Begins e (cs.drop i) := by
  induction cs with
  | nil =>
    refine ⟨fun _ i e => ?_, fun _ => rfl⟩
    rw [List.drop_nil]
    exact begins_ne_nil
  | cons c cs ih =>
    have both : issueIn? (c :: cs) = none ↔ issueAt? (c :: cs) = none ∧ issueIn? cs = none := by
      rw [issueIn?]
      cases issueAt? (c :: cs) <;> simp
    rw [both, issueAt?_eq_none_iff, ih]
    constructor
    · rintro ⟨here, later⟩ i
      cases i with
      | zero => exact here
      | succ i => exact later i
    · exact fun none => ⟨none 0, fun i => none (i + 1)⟩

/-- An address says that it is one of a token. -/
def OfToken (url : String) : Prop :=
  url = "installation_token" ∨ "access_tokens".toList <:+: url.toList

/-- What an address is about. -/
inductive Classed (url : String) : Endpoint → Prop
  | token (token : OfToken url) : Classed url .installationToken
  | issue {e : Endpoint} (noToken : ¬ OfToken url) (leftmost : Leftmost e url.toList) :
    Classed url e
  | other (noToken : ¬ OfToken url) (noIssue : ∀ i e, ¬ Begins e (url.toList.drop i)) :
    Classed url .other

theorem looksLikeToken_iff {url : String} :
    (url = "installation_token" || occursIn "access_tokens".toList url.toList) = true ↔
      OfToken url := by
  rw [Bool.or_eq_true, decide_eq_true_iff, occursIn_iff, OfToken]

/-- The class that is computed of an address is what the address is about. -/
theorem ofUrl_eq_iff {url : String} {e : Endpoint} : ofUrl url = e ↔ Classed url e := by
  constructor
  · rintro rfl
    rw [ofUrl]
    split
    · rename_i looks
      exact .token (looksLikeToken_iff.1 looks)
    · rename_i other
      have noToken := mt looksLikeToken_iff.2 other
      cases found : issueIn? url.toList with
      | some e => exact .issue noToken (issueIn?_eq_some_iff.1 found)
      | none => exact .other noToken (issueIn?_eq_none_iff.1 found)
  · intro classed
    rw [ofUrl]
    cases classed with
    | token token => rw [if_pos (looksLikeToken_iff.2 token)]
    | issue noToken leftmost =>
      rw [if_neg (mt looksLikeToken_iff.1 noToken), issueIn?_eq_some_iff.2 leftmost]
      rfl
    | other noToken noIssue =>
      rw [if_neg (mt looksLikeToken_iff.1 noToken), issueIn?_eq_none_iff.2 noIssue]
      rfl

/-- The word overlaps itself in its slashes only. -/
theorem issues_tails :
    ∀ tail ∈ issues.tails, tail.head? = some '/' → tail = issues ∨ tail = ['/'] := by
  decide

/-- No issue begins inside an address that holds none, although one follows the address. -/
theorem issueAt?_before {cs : List Char} (some : cs ≠ []) (plain : ¬ issues <+: cs)
    (rest : List Char) : issueAt? (cs ++ (issues ++ rest)) = none := by
  have letter : isDigit 'i' = false := by decide
  unfold issueAt?
  rw [issues_toList]
  cases starts : afterStart? issues (cs ++ (issues ++ rest)) with
  | none => rfl
  | some behind =>
    rw [afterStart?_eq_some_iff] at starts
    rcases List.append_eq_append_iff.1 starts with ⟨tail, left, right⟩ | ⟨tail, left, -⟩
    · cases tail with
      | nil => exact absurd ⟨[], left.symm ▸ by simp⟩ plain
      | cons c tail =>
        -- the word begins again inside itself, behind `cs`
        have slash : c = '/' := (List.cons.inj right).1.symm
        have suffix : c :: tail ∈ issues.tails := (List.mem_tails _ _).2 ⟨cs, left.symm⟩
        rcases issues_tails _ suffix (by rw [slash]; rfl) with whole | last
        · have short := congrArg List.length left
          rw [whole, List.length_append] at short
          exact absurd (List.length_eq_zero_iff.1 (by omega)) some
        · rw [last] at right
          have goes : "issues/".toList ++ rest = behind := (List.cons.inj right).2
          have first : "issues/".toList ++ rest = 'i' :: ("ssues/".toList ++ rest) :=
            congrArg (· ++ rest) (by decide : "issues/".toList = 'i' :: "ssues/".toList)
          have stops : afterDigits? behind = none := by
            rw [← goes, first, afterDigits?, if_neg (by simp [letter])]
          rw [Option.bind_some, stops]
          rfl
    · exact absurd ⟨tail, left.symm⟩ plain

/-- The leftmost issue of an address is the one behind an address that holds none. -/
theorem issueIn?_behind {cs : List Char} (plain : ¬ issues <:+: cs) (rest : List Char) :
    issueIn? (cs ++ (issues ++ rest)) = issueIn? (issues ++ rest) := by
  induction cs with
  | nil => rfl
  | cons c cs ih =>
    have here : ¬ issues <+: c :: cs := fun begins => plain begins.isInfix
    have later : ¬ issues <:+: cs := fun inside => plain (List.infix_cons inside)
    have none := issueAt?_before (List.cons_ne_nil c cs) here rest
    rw [List.cons_append] at none ⊢
    rw [issueIn?, none, ih later]
    rfl

end Endpoint

namespace Remote

open Text

theorem digits_of_number {n : Int} (positive : 0 ≤ n) :
    (toString n).toList ≠ [] ∧ ∀ c ∈ (toString n).toList, c.isDigit = true := by
  obtain ⟨m, rfl⟩ := Int.eq_ofNat_of_zero_le positive
  have digits : (toString (m : Int)).toList = Nat.toDigits 10 m := Nat.toList_repr
  rw [digits]
  exact ⟨Nat.toDigits_ne_nil, fun c inside =>
    Nat.isDigit_of_mem_toDigits (by decide) (by decide) inside⟩

inductive AsksFor (issue : IssueRef) : Endpoint → String → Prop
  | labels : AsksFor issue .labels (labelsUrl issue)
  | comments : AsksFor issue .comments (commentsUrl issue)

variable {issue : IssueRef} {e : Endpoint} {url : String}

theorem AsksFor.parts (asks : AsksFor issue e url) : ∃ word, Endpoint.Word e word ∧
    url.toList = issue.repoUrl.toList ++ (Endpoint.issues ++
      ((toString issue.number).toList ++ '/' :: word)) := by
  have behind {last : List Char} (whole : url.toList =
      Http.RepositoryUrl.upToIssue issue.repoUrl.toList issue.number ++ '/' :: last) :
      url.toList = issue.repoUrl.toList ++ (Endpoint.issues ++
        ((toString issue.number).toList ++ '/' :: last)) := by
    rw [whole, Http.RepositoryUrl.upToIssue, Endpoint.issues]
    simp only [List.append_assoc, List.cons_append]
  cases asks with
  | labels => exact ⟨_, .labels, behind (Http.RepositoryUrl.labelsUrl_toList _ _)⟩
  | comments => exact ⟨_, .comments, behind (Http.RepositoryUrl.commentsUrl_toList _ _)⟩

/-- The address of what an issue is asked for does not look like that of a token when the address
of the repository does not. -/
theorem AsksFor.noToken (asks : AsksFor issue e url) (positive : 0 ≤ issue.number)
    (plain : ¬ "access_tokens".toList <:+: issue.repoUrl.toList) : ¬ Endpoint.OfToken url := by
  have noSlash : '/' ∉ "access_tokens".toList := by decide
  have letter : 'k' ∈ "access_tokens".toList := by decide
  have split : "issues/".toList = "issues".toList ++ ['/'] := by decide
  obtain ⟨word, named, parts⟩ := asks.parts
  rw [Endpoint.issues, split, List.cons_append] at parts
  rintro (same | inside)
  · have slash : '/' ∈ url.toList := by
      rw [parts]
      exact List.mem_append_right _ List.mem_cons_self
    rw [same] at slash
    exact absurd slash (by decide)
  · rw [parts] at inside
    rcases infix_beside noSlash inside with before | behind
    · exact plain before
    · rw [List.append_assoc, List.singleton_append] at behind
      rcases infix_beside noSlash behind with between | behind
      · exact absurd (between.subset letter) (by decide)
      · rcases infix_beside noSlash behind with digits | last
        · exact absurd ((digits_of_number positive).2 _ (digits.subset letter)) (by decide)
        · have unlettered : 'k' ∉ word := by cases named <;> decide
          exact unlettered (last.subset letter)

/-- A call that asks an issue for an endpoint is counted as such, unless the address of the
repository looks like that of a token or of an issue, or the number is negative. -/
theorem ofUrl_issue (asks : AsksFor issue e url) (positive : 0 ≤ issue.number)
    (noToken : ¬ "access_tokens".toList <:+: issue.repoUrl.toList)
    (noIssue : ¬ "/issues/".toList <:+: issue.repoUrl.toList) : Endpoint.ofUrl url = e := by
  obtain ⟨word, named, parts⟩ := asks.parts
  obtain ⟨some, digits⟩ := digits_of_number positive
  rw [Endpoint.issues_toList] at noIssue
  have begins : Endpoint.Begins e
      (Endpoint.issues ++ ((toString issue.number).toList ++ '/' :: word)) :=
    ⟨_, word, [], some, fun c there => isDigit_of_ascii (digits c there), named,
      by rw [List.append_nil]⟩
  have first : Endpoint.Leftmost e
      (Endpoint.issues ++ ((toString issue.number).toList ++ '/' :: word)) := ⟨0, begins, nofun⟩
  refine Endpoint.ofUrl_eq_iff.2 (.issue (asks.noToken positive noToken) ?_)
  rw [parts, ← Endpoint.issueIn?_eq_some_iff, Endpoint.issueIn?_behind noIssue]
  exact Endpoint.issueIn?_eq_some_iff.2 first

theorem ofUrl_labelsUrl (positive : 0 ≤ issue.number)
    (noToken : ¬ "access_tokens".toList <:+: issue.repoUrl.toList)
    (noIssue : ¬ "/issues/".toList <:+: issue.repoUrl.toList) :
    Endpoint.ofUrl (labelsUrl issue) = .labels :=
  ofUrl_issue .labels positive noToken noIssue

end Remote

end SuiteTrigger
