import SuiteTrigger.Http.Target
import SuiteTrigger.Platform.Remote

namespace SuiteTrigger.Text

theorem cut?_eq_none {separator : Char} {cs : List Char} (none : separator ∉ cs) :
    cut? separator cs = .none := by
  induction cs with
  | nil => rfl
  | cons c cs ih =>
    obtain ⟨other, rest⟩ := not_or.1 (mt List.mem_cons.2 none)
    rw [cut?, if_neg (Ne.symm other), ih rest]
    rfl

theorem cut?_append {separator : Char} {before : List Char} (none : separator ∉ before)
    (after : List Char) : cut? separator (before ++ separator :: after) = some (before, after) := by
  induction before with
  | nil => rw [List.nil_append, cut?, if_pos rfl]
  | cons c before ih =>
    obtain ⟨other, rest⟩ := not_or.1 (mt List.mem_cons.2 none)
    rw [List.cons_append, cut?, if_neg (Ne.symm other), ih rest]
    rfl

/-- What a test finds of every character of a text. -/
theorem forall_of_all {p : Char → Prop} [DecidablePred p] {cs : List Char}
    (all : (cs.all fun c => decide (p c)) = true) : ∀ c ∈ cs, p c :=
  fun c inside => of_decide_eq_true (List.all_eq_true.1 all c inside)

end SuiteTrigger.Text

namespace SuiteTrigger.Http

namespace Address

theorem clean_eq {cs : List Char} (visible : ∀ c ∈ cs, 0x20 < c.toNat) : clean cs = cs := by
  have kept : cs.dropWhile isControlOrSpace = cs := by
    cases cs with
    | nil => rfl
    | cons c cs =>
      have above := visible c List.mem_cons_self
      refine List.dropWhile_cons_of_neg ?_
      rw [isControlOrSpace, decide_eq_true_eq]
      omega
  rw [clean, kept, List.filter_eq_self]
  intro c inside
  have above := visible c inside
  have notControl : ∀ d : Char, d.toNat ≤ 0x20 → c ≠ d := by
    rintro d below rfl
    omega
  simp [isTabOrLineEnd, notControl '\t' (by decide), notControl '\r' (by decide),
    notControl '\n' (by decide)]

theorem isAlpha_of_toLower {c : Char} (lower : c.toLower.isAlpha = true) : c.isAlpha = true := by
  have parts : c.isAlpha = (c.isUpper || c.isLower) := rfl
  by_cases upper : c.isUpper = true
  · rw [parts, upper, Bool.true_or]
  · have same : c.toLower = c := dif_neg fun range => upper (decide_eq_true range)
    rwa [same] at lower

theorem splitScheme_eq {scheme : List Char} (https : scheme.map Char.toLower = "https".toList)
    (rest : List Char) : splitScheme (scheme ++ ':' :: rest) = (some "https".toList, rest) := by
  have alpha : ∀ c ∈ scheme, c.isAlpha = true := by
    intro c inside
    have lowered : c.toLower ∈ "https".toList := https ▸ List.mem_map_of_mem inside
    have all : ∀ d ∈ "https".toList, d.isAlpha = true := Text.forall_of_all (by decide)
    exact isAlpha_of_toLower (all _ lowered)
  have noColon : ':' ∉ scheme := fun inside => absurd (alpha ':' inside) (by decide)
  cases scheme with
  | nil => nomatch https
  | cons c name =>
    have letters : (c.isAlpha && name.all isSchemeChar) = true := by
      rw [alpha c List.mem_cons_self, Bool.true_and, List.all_eq_true]
      intro d inside
      simp [isSchemeChar, Char.isAlphanum, alpha d (List.mem_cons_of_mem c inside)]
    rw [splitScheme, Text.cut?_append noColon]
    dsimp only
    rw [if_pos letters, https]

theorem splitAuthority_eq {authority path : List Char}
    (inside : ∀ c ∈ authority, c ≠ '/' ∧ c ≠ '?' ∧ c ≠ '#') :
    splitAuthority ('/' :: '/' :: (authority ++ '/' :: path)) = (authority, '/' :: path) := by
  have all : ∀ c ∈ authority, (c ≠ '/' && c ≠ '?' && c ≠ '#') = true := by
    intro c there
    simpa [and_assoc] using inside c there
  rw [splitAuthority, List.takeWhile_append_of_pos all, List.dropWhile_append_of_pos all]
  simp

theorem splitAt_eq {separator : Char} {cs : List Char} (none : separator ∉ cs) :
    splitAt separator cs = (cs, []) := by
  rw [splitAt, Text.cut?_eq_none none]
  rfl

theorem splitParameters_eq (before : List Char) {last : List Char} (segment : '/' ∉ last)
    (none : ';' ∉ last) :
    splitParameters (before ++ '/' :: last) = (before ++ '/' :: last, []) := by
  have all : ∀ c ∈ last.reverse, decide (c ≠ '/') = true := by
    intro c inside
    rw [decide_eq_true_eq]
    rintro rfl
    exact segment (List.mem_reverse.1 inside)
  have found : ((before ++ '/' :: last).reverse.takeWhile (· ≠ '/')).reverse = last := by
    rw [List.reverse_append, List.reverse_cons, List.append_assoc,
      List.takeWhile_append_of_pos all]
    simp
  have length : (before ++ '/' :: last).length - last.length = (before ++ ['/']).length := by
    simp only [List.length_append, List.length_cons, List.length_nil]
    omega
  rw [splitParameters, found, splitAt_eq none]
  dsimp only
  rw [length, List.append_cons before '/' last, List.take_left]

/-- The parts of an absolute address without parameters, query and fragment. -/
theorem parse_eq {scheme authority rest : List Char}
    (https : scheme.map Char.toLower = "https".toList) (holds : Authority.check authority = .ok ())
    (ends : ∀ c ∈ authority, c ≠ '/' ∧ c ≠ '?' ∧ c ≠ '#')
    (visible : ∀ c ∈ scheme ++ ':' :: '/' :: '/' :: (authority ++ '/' :: rest), 0x20 < c.toNat)
    (unmarked : '?' ∉ '/' :: rest ∧ '#' ∉ '/' :: rest)
    (noParameters : splitParameters ('/' :: rest) = ('/' :: rest, [])) :
    parse (scheme ++ ':' :: '/' :: '/' :: (authority ++ '/' :: rest)) =
      .ok ⟨"https".toList, authority, '/' :: rest, [], [], []⟩ := by
  rw [parse, clean_eq visible, splitScheme_eq https]
  dsimp only
  rw [splitAuthority_eq ends]
  dsimp only
  rw [holds, splitAt_eq unmarked.2]
  dsimp only [bind, Except.bind]
  rw [splitAt_eq unmarked.1]
  dsimp only
  rw [noParameters]
  rfl

theorem render_eq (authority rest : List Char) :
    render ⟨"https".toList, authority, '/' :: rest, [], [], []⟩ =
      "https".toList ++ ':' :: '/' :: '/' :: (authority ++ '/' :: rest) := by
  have marks (mark : Char) : marked mark [] = [] := rfl
  have slashes : "://".toList = [':', '/', '/'] := by decide
  have begins : rooted ('/' :: rest ++ []) = '/' :: rest ++ [] := rfl
  rw [render]
  dsimp only
  rw [marks, marks, marks, begins, slashes]
  simp only [List.append_assoc, List.cons_append, List.nil_append, List.append_nil]

end Address

/-- Whether a character may stand in the address of a repository: it is visible ASCII and no brace,
and it begins no query and no fragment. -/
def IsPlain (c : Char) : Prop :=
  Target.isVisible c = true ∧ c ≠ '\x7b' ∧ c ≠ '\x7d' ∧ c ≠ '?' ∧ c ≠ '#'

instance : DecidablePred IsPlain := fun c =>
  inferInstanceAs (Decidable (Target.isVisible c = true ∧ c ≠ '\x7b' ∧ c ≠ '\x7d' ∧ c ≠ '?' ∧
    c ≠ '#'))

/-- The absolute https address of a repository, of visible ASCII characters, without braces, query
and fragment. -/
structure RepositoryUrl where
  scheme : List Char
  authority : List Char
  path : List Char
  https : scheme.map Char.toLower = "https".toList
  hosted : authority ≠ []
  holds : Authority.check authority = .ok ()
  ends : '/' ∉ authority
  rooted : path = [] ∨ ∃ rest, path = '/' :: rest
  plain : ∀ c ∈ scheme ++ ':' :: '/' :: '/' :: (authority ++ path), IsPlain c

theorem IsPlain.above {c : Char} (plain : IsPlain c) : 0x20 < c.toNat := by
  have visible := plain.1
  rw [Target.isVisible, Bool.and_eq_true, decide_eq_true_eq] at visible
  exact Nat.lt_of_lt_of_le (by decide) visible.1

/-- Whether a text may stand behind the last slash of an address. -/
def IsSegment (cs : List Char) : Prop :=
  ∀ c ∈ cs, 0x20 < c.toNat ∧ c ≠ '/' ∧ c ≠ '?' ∧ c ≠ '#' ∧ c ≠ ';'

namespace RepositoryUrl

/-- The address as it is given. -/
def text (repo : RepositoryUrl) : String :=
  String.ofList (repo.scheme ++ ':' :: '/' :: '/' :: (repo.authority ++ repo.path))

/-- The address with its scheme in lower case. -/
def root (repo : RepositoryUrl) : String :=
  String.ofList ("https".toList ++ ':' :: '/' :: '/' :: (repo.authority ++ repo.path))

theorem text_toList (repo : RepositoryUrl) : repo.text.toList =
    repo.scheme ++ ':' :: '/' :: '/' :: (repo.authority ++ repo.path) := String.toList_ofList

theorem root_toList (repo : RepositoryUrl) : repo.root.toList =
    "https".toList ++ ':' :: '/' :: '/' :: (repo.authority ++ repo.path) := String.toList_ofList

variable {repo : RepositoryUrl} {middle last : List Char}

theorem scheme_begins (repo : RepositoryUrl) : ∃ c name, repo.scheme = c :: name ∧ c ≠ '/' := by
  have https := repo.https
  cases scheme : repo.scheme with
  | nil =>
    rw [scheme] at https
    nomatch https
  | cons c name =>
    refine ⟨c, name, rfl, ?_⟩
    rintro rfl
    rw [scheme, List.map_cons] at https
    exact absurd (List.cons.inj https).1 (by decide)

/-- What stands behind the address of a repository starts with a slash. -/
theorem rooted_behind (repo : RepositoryUrl) (middle last : List Char) :
    ∃ rest, repo.path ++ '/' :: middle ++ '/' :: last = '/' :: rest := by
  rcases repo.rooted with none | ⟨rest, some⟩
  · exact ⟨middle ++ '/' :: last, by rw [none]; rfl⟩
  · exact ⟨rest ++ '/' :: middle ++ '/' :: last, by rw [some]; rfl⟩

/-- No character behind the address of a repository begins a query or a fragment. -/
theorem unmarked_behind (repo : RepositoryUrl) (plain : ∀ c ∈ '/' :: middle, IsPlain c)
    (segment : IsSegment last) : ∀ c ∈ repo.path ++ '/' :: middle ++ '/' :: last,
      0x20 < c.toNat ∧ c ≠ '?' ∧ c ≠ '#' := by
  have plainly {c : Char} (isPlain : IsPlain c) : 0x20 < c.toNat ∧ c ≠ '?' ∧ c ≠ '#' :=
    ⟨isPlain.above, isPlain.2.2.2⟩
  intro c inside
  rcases List.mem_append.1 inside with before | behind
  · rcases List.mem_append.1 before with path | between
    · exact plainly (repo.plain c (by simp [path]))
    · exact plainly (plain c between)
  · rcases List.mem_cons.1 behind with rfl | there
    · decide
    · exact ⟨(segment c there).1, (segment c there).2.2.1, (segment c there).2.2.2.1⟩

theorem parse_behind (repo : RepositoryUrl) (plain : ∀ c ∈ '/' :: middle, IsPlain c)
    (segment : IsSegment last) :
    Address.parse (repo.scheme ++ ':' :: '/' :: '/' ::
        (repo.authority ++ (repo.path ++ '/' :: middle ++ '/' :: last))) =
      .ok ⟨"https".toList, repo.authority, repo.path ++ '/' :: middle ++ '/' :: last, [], [],
        []⟩ := by
  have unmarked := unmarked_behind repo plain segment
  have noParameters := Address.splitParameters_eq (repo.path ++ '/' :: middle)
    (fun slash => (segment _ slash).2.1 rfl) (fun semicolon => (segment _ semicolon).2.2.2.2 rfl)
  have ends : ∀ c ∈ repo.authority, c ≠ '/' ∧ c ≠ '?' ∧ c ≠ '#' := by
    intro c there
    obtain ⟨-, -, -, query, fragment⟩ := repo.plain c (by simp [there])
    exact ⟨fun slash => repo.ends (slash ▸ there), query, fragment⟩
  obtain ⟨rest, path⟩ := repo.rooted_behind middle last
  rw [path] at unmarked noParameters ⊢
  refine Address.parse_eq repo.https repo.holds ends ?_
    ⟨fun query => (unmarked _ query).2.1 rfl, fun fragment => (unmarked _ fragment).2.2 rfl⟩
    noParameters
  intro c inside
  have parts : c ∈ repo.scheme ++ ':' :: '/' :: '/' :: (repo.authority ++ repo.path) ∨
      c ∈ '/' :: rest := by
    simp only [List.mem_append, List.mem_cons] at inside ⊢
    grind
  exact parts.elim (fun known => (repo.plain c known).above) fun behind => (unmarked c behind).1

theorem resolve_behind (repo : RepositoryUrl) (plain : ∀ c ∈ '/' :: middle, IsPlain c)
    (segment : IsSegment last) :
    Address.resolve (repo.text.toList ++ '/' :: middle ++ '/' :: last) =
      .ok (repo.root.toList ++ '/' :: middle ++ '/' :: last) := by
  have behind (scheme : List Char) :
      scheme ++ ':' :: '/' :: '/' :: (repo.authority ++ repo.path) ++ '/' :: middle ++ '/' :: last =
        scheme ++ ':' :: '/' :: '/' ::
          (repo.authority ++ (repo.path ++ '/' :: middle ++ '/' :: last)) := by
    simp only [List.append_assoc, List.cons_append]
  obtain ⟨c, name, scheme, unslashed⟩ := repo.scheme_begins
  have start : Text.afterStart? ['/'] (repo.scheme ++ ':' :: '/' :: '/' ::
      (repo.authority ++ (repo.path ++ '/' :: middle ++ '/' :: last))) = none := by
    rw [scheme, List.cons_append, Text.afterStart?, if_neg (Ne.symm unslashed)]
  have some : (repo.scheme ++ ':' :: '/' :: '/' ::
      (repo.authority ++ (repo.path ++ '/' :: middle ++ '/' :: last))).isEmpty = false := by
    simp
  have hosted : repo.authority.isEmpty = false := by simpa using repo.hosted
  have kept : ¬ "https".toList ≠ Address.rootScheme := by
    rw [Address.rootScheme]
    exact not_not_intro (Eq.refl _)
  rw [text_toList, root_toList, behind, behind, Address.resolve, start, Option.getD_none, some,
    parse_behind repo plain segment]
  dsimp only [bind, Except.bind]
  rw [if_neg Bool.false_ne_true, if_neg kept, hosted, if_neg Bool.false_ne_true]
  obtain ⟨rest, path⟩ := repo.rooted_behind middle last
  rw [path, Address.render_eq]
  rfl

end RepositoryUrl

namespace Template

/-- Text without an opening brace stays as it is. -/
theorem expand_append (values : Values) {cs : List Char} (none : '\x7b' ∉ cs) (rest : List Char) :
    expand values (cs ++ rest) = (cs ++ ·) <$> expand values rest := by
  induction cs with
  | nil =>
    rw [List.nil_append]
    cases expand values rest <;> rfl
  | cons c cs ih =>
    obtain ⟨other, later⟩ := not_or.1 (mt List.mem_cons.2 none)
    rw [List.cons_append, expand, if_neg (Ne.symm other), ih later]
    cases expand values rest <;> rfl

theorem expand_plain (values : Values) {cs : List Char} (none : '\x7b' ∉ cs) :
    expand values cs = .ok cs := by
  have whole := expand_append values none []
  rw [List.append_nil, expand] at whole
  rw [whole]
  exact congrArg Except.ok (List.append_nil cs)

theorem read_name : Variable.read "name".toList = .ok ⟨"name".toList, none, none⟩ := by
  have named : Text.cut? '=' "name".toList = none := by decide
  have bare : Text.dropEndWhile (· = '*') "name".toList = "name".toList := by decide
  have whole : Text.cut? ':' "name".toList = none := by decide
  rw [Variable.read, named]
  dsimp only
  rw [bare, whole]
  rfl

theorem expandPart_name (value : List Char) :
    expandPart [("name".toList, value)] "name".toList = .ok (Percent.encode value) := by
  have letters : "name".toList = 'n' :: "ame".toList := by decide
  have unsigned : Style.ofSign? 'n' = none := by decide
  have alone : Text.splitOn ',' "name".toList = ["name".toList] := by decide
  have known : [("name".toList)].mapM Variable.read = .ok [⟨"name".toList, none, none⟩] := by
    rw [List.mapM_cons, read_name]
    rfl
  have found : ([("name".toList, value)] : Values).lookup "name".toList = some value :=
    List.lookup_cons_self
  unfold expandPart
  split
  rename_i style names chosen
  have plain : (style, names) = (Style.plain, "name".toList) := by
    rw [← chosen, letters]
    dsimp only
    rw [unsigned]
  cases plain
  rw [alone, known]
  have written : Variable.expand Style.plain ⟨"name".toList, none, none⟩ value =
      Percent.encode value := rfl
  simp only [bind, Except.bind, List.filterMap_cons, List.filterMap_nil, found, Option.orElse_some,
    Option.map_some, written, List.isEmpty_cons, Bool.false_eq_true, if_false]
  exact congrArg Except.ok (by simp [Style.plain, List.intercalate])

/-- A part that is a name is replaced by its value, percent-encoded. -/
theorem expand_name (value : List Char) :
    expand [("name".toList, value)] "\x7bname\x7d".toList = .ok (Percent.encode value) := by
  have part : part? "name\x7d".toList = some ("name".toList, []) := by decide
  have split : "\x7bname\x7d".toList = '\x7b' :: "name\x7d".toList := by decide
  rw [split, expand, if_pos rfl]
  split
  · rename_i found
    rw [part] at found
    cases found
    rw [expandPart_name, expand]
    exact congrArg Except.ok (List.append_nil _)
  · rename_i none
    rw [part] at none
    cases none

end Template

theorem isPlain_of_digit {c : Char} (digit : c.isDigit = true) : IsPlain c := by
  have bounds : 48 ≤ c.toNat ∧ c.toNat ≤ 57 := by
    simpa [Char.isDigit, UInt32.le_iff_toNat_le] using digit
  have other : ∀ d : Char, d.toNat < 48 ∨ 57 < d.toNat → c ≠ d := by
    rintro d outside rfl
    omega
  refine ⟨?_, other _ (by decide), other _ (by decide), other _ (by decide), other _ (by decide)⟩
  rw [Target.isVisible, Bool.and_eq_true, decide_eq_true_eq, decide_eq_true_eq]
  exact ⟨Nat.le_trans (by decide) bounds.1, Nat.le_trans bounds.2 (by decide)⟩

theorem isPlain_toString (n : Int) : ∀ c ∈ (toString n).toList, IsPlain c := by
  have digits (m : Nat) : ∀ c ∈ (Nat.repr m).toList, IsPlain c := by
    intro c inside
    rw [Nat.toList_repr] at inside
    exact isPlain_of_digit (Nat.isDigit_of_mem_toDigits (by decide) (by decide) inside)
  cases n with
  | ofNat m => exact digits m
  | negSucc m =>
    have signed : (toString (Int.negSucc m)).toList = '-' :: (Nat.repr (m + 1)).toList :=
      String.toList_append
    intro c inside
    rw [signed] at inside
    rcases List.mem_cons.1 inside with rfl | digit
    · decide
    · exact digits _ c digit

/-- The characters between the address of a repository and the last slash of an issue's. -/
theorem isPlain_issue (n : Int) :
    ∀ c ∈ '/' :: ("issues/".toList ++ (toString n).toList), IsPlain c := by
  have before : ∀ c ∈ '/' :: "issues/".toList, IsPlain c := Text.forall_of_all (by decide)
  intro c inside
  rw [← List.cons_append] at inside
  exact (List.mem_append.1 inside).elim (before c) (isPlain_toString n c)

namespace RepositoryUrl

def issue (repo : RepositoryUrl) (n : Int) : IssueRef := ⟨repo.text, n⟩

/-- An issue of the repository, under the address that requests are sent to. -/
def rootIssue (repo : RepositoryUrl) (n : Int) : IssueRef := ⟨repo.root, n⟩

/-- The characters from the repository's address up to the last slash of an issue's. -/
def upToIssue (root : List Char) (n : Int) : List Char :=
  root ++ '/' :: ("issues/".toList ++ (toString n).toList)

theorem labelsUrl_toList (text : String) (n : Int) :
    (Remote.labelsUrl ⟨text, n⟩).toList = upToIssue text.toList n ++ '/' :: "labels".toList := by
  rw [Remote.labelsUrl, upToIssue]
  simp only [String.toList_append, List.append_assoc]
  rfl

theorem commentsUrl_toList (text : String) (n : Int) :
    (Remote.commentsUrl ⟨text, n⟩).toList =
      upToIssue text.toList n ++ '/' :: "comments".toList := by
  rw [Remote.commentsUrl, upToIssue]
  simp only [String.toList_append, List.append_assoc]
  rfl

theorem target_eq {values : Template.Values} {reference : String} {address expanded : List Char}
    (resolved : Address.resolve reference.toList = .ok address)
    (filled : Template.expand values address = .ok expanded) :
    target values reference = .ok (String.ofList expanded) := by
  rw [target, resolved]
  dsimp only [Except.mapError, bind, Except.bind]
  rw [filled]
  rfl

theorem plain_upToIssue (repo : RepositoryUrl) (n : Int) :
    ∀ c ∈ upToIssue repo.root.toList n, IsPlain c := by
  have scheme : ∀ c ∈ "https".toList, IsPlain c := Text.forall_of_all (by decide)
  intro c inside
  rw [upToIssue, root_toList] at inside
  rcases List.mem_append.1 inside with before | behind
  · rcases List.mem_append.1 before with there | there
    · exact scheme c there
    · exact repo.plain c (List.mem_append_right _ there)
  · exact isPlain_issue n c behind

theorem unbraced_behind (repo : RepositoryUrl) (n : Int) {last : List Char}
    (unfilled : '\x7b' ∉ last) : '\x7b' ∉ upToIssue repo.root.toList n ++ '/' :: last := by
  intro inside
  rcases List.mem_append.1 inside with before | there
  · exact (plain_upToIssue repo n _ before).2.1 rfl
  · rcases List.mem_cons.1 there with slash | there
    · exact absurd slash (by decide)
    · exact unfilled there

theorem target_issue (repo : RepositoryUrl) (n : Int) (last : List Char) (segment : IsSegment last)
    (unfilled : '\x7b' ∉ last) {url : IssueRef → String}
    (behind : ∀ text, (url ⟨text, n⟩).toList = upToIssue text.toList n ++ '/' :: last) :
    target [] (url (repo.issue n)) = .ok (url (repo.rootIssue n)) := by
  have unbraced : '\x7b' ∉ (url (repo.rootIssue n)).toList := by
    rw [rootIssue, behind]
    exact unbraced_behind repo n unfilled
  have resolved : Address.resolve (url (repo.issue n)).toList =
      .ok (url (repo.rootIssue n)).toList := by
    rw [issue, rootIssue, behind, behind]
    exact repo.resolve_behind (isPlain_issue n) segment
  rw [target_eq resolved (Template.expand_plain [] unbraced), String.ofList_toList]

theorem labels_target (repo : RepositoryUrl) (n : Int) :
    target [] (Remote.labelsUrl (repo.issue n)) = .ok (Remote.labelsUrl (repo.rootIssue n)) :=
  target_issue repo n "labels".toList (Text.forall_of_all (by decide)) (by decide)
    fun text => labelsUrl_toList text n

theorem comments_target (repo : RepositoryUrl) (n : Int) :
    target [] (Remote.commentsUrl (repo.issue n)) = .ok (Remote.commentsUrl (repo.rootIssue n)) :=
  target_issue repo n "comments".toList (Text.forall_of_all (by decide)) (by decide)
    fun text => commentsUrl_toList text n

/-- The address that a label is taken off at. -/
def labelUrl (issue : IssueRef) (name : String) : String :=
  Remote.labelsUrl issue ++ "/" ++ String.ofList (Percent.encode name.toList)

theorem labelReference_toList (text : String) (n : Int) :
    (Remote.labelReference ⟨text, n⟩).toList =
      text.toList ++ '/' :: ("issues/".toList ++ (toString n).toList ++ '/' :: "labels".toList) ++
        '/' :: "\x7bname\x7d".toList := by
  have slash : "/\x7bname\x7d".toList = '/' :: "\x7bname\x7d".toList := by decide
  rw [Remote.labelReference, String.toList_append, labelsUrl_toList, upToIssue, slash]
  simp only [List.append_assoc, List.cons_append]

/-- A template is filled in behind the labels of an issue. -/
theorem expand_labelReference (repo : RepositoryUrl) (n : Int) (name : String) :
    Template.expand [("name".toList, name.toList)]
        (Remote.labelReference (repo.rootIssue n)).toList =
      .ok ((Remote.labelsUrl (repo.rootIssue n) ++ "/").toList ++
        Percent.encode name.toList) := by
  have split : (Remote.labelReference (repo.rootIssue n)).toList =
      (Remote.labelsUrl (repo.rootIssue n) ++ "/").toList ++ "\x7bname\x7d".toList := by
    rw [rootIssue, labelReference_toList, String.toList_append, labelsUrl_toList, upToIssue]
    simp only [List.append_assoc, List.cons_append]
    rfl
  have unfilled : '\x7b' ∉ "labels/".toList := by decide
  have unbraced : '\x7b' ∉ (Remote.labelsUrl (repo.rootIssue n) ++ "/").toList := by
    rw [rootIssue, String.toList_append, labelsUrl_toList, List.append_assoc]
    exact unbraced_behind repo n unfilled
  rw [split, Template.expand_append _ unbraced, Template.expand_name]
  rfl

theorem label_target (repo : RepositoryUrl) (n : Int) (name : String) :
    target [("name".toList, name.toList)] (Remote.labelReference (repo.issue n)) =
      .ok (labelUrl (repo.rootIssue n) name) := by
  have plain : ∀ c ∈ '/' :: ("issues/".toList ++ (toString n).toList ++ '/' :: "labels".toList),
      IsPlain c := by
    have last : ∀ c ∈ '/' :: "labels".toList, IsPlain c := Text.forall_of_all (by decide)
    intro c inside
    rw [← List.cons_append] at inside
    exact (List.mem_append.1 inside).elim (isPlain_issue n c) (last c)
  have resolved : Address.resolve (Remote.labelReference (repo.issue n)).toList =
      .ok (Remote.labelReference (repo.rootIssue n)).toList := by
    rw [issue, rootIssue, labelReference_toList, labelReference_toList]
    exact repo.resolve_behind plain (Text.forall_of_all (by decide))
  rw [target_eq resolved (expand_labelReference repo n name), String.ofList_append,
    String.ofList_toList]
  rfl

end RepositoryUrl

end SuiteTrigger.Http
