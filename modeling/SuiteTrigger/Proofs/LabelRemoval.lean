import SuiteTrigger.Proofs.CallErrors
import SuiteTrigger.Proofs.HostRefinement

/-!
# Labels that are taken off

A label is taken off with one request, whatever comes back, at an address that ends in the name of
the label (`Remote.RemovesAt`, `NamesLabel`). The name is all that stands behind the last slash, so
an address says which label is meant, and no name gets at what stands before it.
-/

namespace SuiteTrigger

open Http

/-- The end of an address names a label: it is made of unreserved characters and escapes, it is one
segment, and it decodes to the name. -/
structure NamesLabel (name : String) (s : List Char) : Prop where
  escaped : Percent.Escaped s
  segment : ∀ c ∈ s, c ≠ '/' ∧ c ≠ '?' ∧ c ≠ '#'
  decodes : Percent.decode? s = some name.toList

/-- Every client takes the label off with one request at the address, whatever the replies to come.
-/
def Remote.RemovesAt (issue : IssueRef) (name url : String) : Prop :=
  ∀ (c : Client) (j : Journal), ((removeLabel issue name).on ⟨c, j⟩).2.platform.requests =
    c.requests ++ [deletion url c.authorization]

/-- The address of a label of an issue, below that of the repository. -/
def labelAddress (root : String) (n : Int) (s : List Char) : String :=
  root ++ "/issues/" ++ toString n ++ "/labels/" ++ String.ofList s

theorem namesLabel_encode (name : String) : NamesLabel name (Percent.encode name.toList) where
  escaped := Percent.escaped_encode _
  segment := (Percent.escaped_encode _).segment
  decodes := Percent.decode?_encode _

theorem NamesLabel.unique {name name' : String} {s : List Char} (names : NamesLabel name s)
    (namesToo : NamesLabel name' s) : name = name' :=
  String.toList_inj.1 (Option.some.inj (names.decodes.symm.trans namesToo.decodes))

/-- Equal texts are equal before and behind their last slash. -/
theorem Text.last_slash_inj {before before' s t : List Char} (last : '/' ∉ s) (last' : '/' ∉ t)
    (same : before ++ '/' :: s = before' ++ '/' :: t) : before = before' ∧ s = t := by
  have lengths : s.length = t.length := by
    rcases List.append_eq_append_iff.1 same with ⟨mid, -, behind⟩ | ⟨mid, -, behind⟩
    · cases mid with
      | nil => rw [(List.cons.inj behind).2]
      | cons c mid => exact absurd ((List.cons.inj behind).2 ▸ by simp) last
    · cases mid with
      | nil => rw [(List.cons.inj behind).2]
      | cons c mid => exact absurd ((List.cons.inj behind).2 ▸ by simp) last'
  obtain ⟨equal, rest⟩ := List.append_inj' same (congrArg (· + 1) lengths)
  exact ⟨equal, (List.cons.inj rest).2⟩

namespace Remote

/-- A label is taken off at the address that its template gives. -/
theorem removesAt_of_target {issue : IssueRef} {name url : String}
    (led : target [("name".toList, name.toList)] (labelReference issue) = .ok url) :
    RemovesAt issue name url := by
  intro c j
  obtain ⟨outcome, d, changes⟩ :=
    changes_exist .delete [("name".toList, name.toList)] (labelReference issue) none (called c)
  obtain ⟨-, platform, -⟩ := (Call.removeLabel_ends changes).ran j
  exact (congrArg Client.requests platform).trans (changes.requests led)

theorem RemovesAt.unique {issue : IssueRef} {name url url' : String}
    (removes : RemovesAt issue name url) (removesToo : RemovesAt issue name url') : url = url' := by
  have same := (removes (.start none false []) .empty).symm.trans
    (removesToo (.start none false []) .empty)
  simpa [deletion] using same

end Remote

theorem labelAddress_toList (root : String) (n : Int) (s : List Char) :
    (labelAddress root n s).toList =
      (root ++ "/issues/" ++ toString n ++ "/labels").toList ++ '/' :: s := by
  have slash : "/labels/".toList = "/labels".toList ++ ['/'] := by decide
  simp only [labelAddress, String.toList_append, String.toList_ofList, slash, List.append_assoc,
    List.singleton_append]

/-- A label of an issue is taken off below the address of its repository. -/
theorem removesAt_labelAddress (repo : RepositoryUrl) (n : Int) (name : String) :
    Remote.RemovesAt (repo.issue n) name
      (labelAddress repo.root n (Percent.encode name.toList)) := by
  have same : RepositoryUrl.labelUrl (repo.rootIssue n) name =
      labelAddress repo.root n (Percent.encode name.toList) := by
    simp only [RepositoryUrl.labelUrl, Remote.labelsUrl, RepositoryUrl.rootIssue, labelAddress,
      String.append_assoc]
    rfl
  exact same ▸ Remote.removesAt_of_target (repo.label_target n name)

/-- A label is taken off with one request, whatever the replies, at an address that names exactly
this label.

The address is that of the repository as it stands but for the case of the letters of its scheme,
then the number of the issue, and behind the last slash a text that decodes to the name. No two
labels share such an address, of whatever issues and repositories they are. -/
theorem label_removed_by_name (repo : RepositoryUrl) (n : Int) (name : String) :
    (∃ s, NamesLabel name s ∧
      Remote.RemovesAt (repo.issue n) name (labelAddress repo.root n s)) ∧
    (repo.scheme = "https".toList → repo.root = repo.text) ∧
    ∀ (other : RepositoryUrl) (m : Int) (label url : String),
      Remote.RemovesAt (repo.issue n) name url → Remote.RemovesAt (other.issue m) label url →
        label = name := by
  refine ⟨?_, ?_, ?_⟩
  · exact ⟨Percent.encode name.toList, namesLabel_encode name, removesAt_labelAddress repo n name⟩
  · intro lower
    rw [← String.toList_inj, repo.root_toList, repo.text_toList, lower]
  · intro other m label url removes removesToo
    have address := removes.unique (removesAt_labelAddress repo n name)
    have address' := removesToo.unique (removesAt_labelAddress other m label)
    have texts := congrArg String.toList (address.symm.trans address')
    rw [labelAddress_toList, labelAddress_toList] at texts
    have spelled := (Text.last_slash_inj (Percent.slash_not_mem_encode _)
      (Percent.slash_not_mem_encode _) texts).2
    exact (spelled ▸ namesLabel_encode label).unique (namesLabel_encode name)

/-- A name with a slash, braces and a percent sign has an address of its own, in which the name of
another label does not stand. -/
theorem braced_name_apart :
    let url := "https://api.github.com/repos/org/repo/issues/7/labels/a%2F%7Bb%7D%252F"
    Host.exampleRepo.root = Host.exampleRepo.text ∧
      Remote.RemovesAt (Host.exampleRepo.issue 7) "a/\x7bb\x7d%2F" url ∧
      ¬ Remote.RemovesAt (Host.exampleRepo.issue 7) "a/\x7bb\x7d/" url := by
  intro url
  obtain ⟨-, kept, apart⟩ := label_removed_by_name Host.exampleRepo 7 "a/\x7bb\x7d%2F"
  have spelled : labelAddress Host.exampleRepo.root 7
      (Percent.encode "a/\x7bb\x7d%2F".toList) = url := by decide +kernel
  have removes := removesAt_labelAddress Host.exampleRepo 7 "a/\x7bb\x7d%2F"
  rw [spelled] at removes
  refine ⟨kept rfl, removes, fun removesToo => ?_⟩
  exact absurd (apart Host.exampleRepo 7 _ url removes removesToo) (by decide)

def capitalRepo : RepositoryUrl :=
  { Host.exampleRepo with
    scheme := "HTTPS".toList
    https := by decide
    plain := Text.forall_of_all (by decide) }

/-- The address of the repository does not always stand in front of the label as it is given: the
letters of its scheme are sent in lower case. -/
theorem capital_scheme_lowered : ¬ ∀ (repo : RepositoryUrl) (n : Int) (name : String),
    ∃ s, NamesLabel name s ∧
      Remote.RemovesAt (repo.issue n) name (labelAddress repo.text n s) := by
  intro all
  obtain ⟨s, -, removes⟩ := all capitalRepo 7 "bug"
  have same := removes.unique (removesAt_labelAddress capitalRepo 7 "bug")
  have firsts := congrArg (fun url => url.toList.take 1) same
  simp only [labelAddress_toList, String.toList_append, List.append_assoc] at firsts
  rw [List.take_append_of_le_length (by decide), List.take_append_of_le_length (by decide)]
    at firsts
  exact absurd firsts (by decide)

end SuiteTrigger
