import ChangeTransport.Hosting.Remote
import ChangeTransport.Proofs.Checks
import ChangeTransport.Proofs.Text.Blank
import ChangeTransport.Proofs.Text.Pieces

/-!
# The path of a hosted repository

The path of a hosted repository is that of the address of its remote, without the slashes at both
ends and without one ending `.git`.  It is never empty and never begins with a slash.  What stands
in front of the ending is not looked at again: if that is a slash or the same ending once more, the
path ends in it.
-/

namespace ChangeTransport.HostedRepository

/-! ## What a remote is read as -/

/-- A remote is read by reading the address for which it stands. -/
theorem ofRemote_of_parseRemote
    {remote : String} {url : Url}
    (read : parseRemote (Text.trimBlanks remote).toList = .ok url) :
    ofRemote remote = ofUrl (Text.trimBlanks remote) url := by
  have nonempty : (Text.trimBlanks remote).isEmpty = false := by
    by_contra empty
    have blank : Text.trimBlanks remote = "" := by simpa using empty
    rw [blank] at read
    cases read
  simp only [ofRemote, nonempty, read, Bool.false_eq_true, if_false]

/-- A hosted repository is made of an address at the domain of its provider, and of its path. -/
theorem ofUrl_eq_some_iff {remote : String} {url : Url} {hosted : HostedRepository} :
    ofUrl remote url = .ok (some hosted) ↔
      providerOf? url = some hosted.provider ∧ pathOf url.pathText ≠ [] ∧
        hosted.path = String.ofList (pathOf url.pathText) := by
  rcases hosted with ⟨provider, path⟩
  unfold ofUrl
  cases providerOf? url with
  | none => simp
  | some found =>
      dsimp only
      cases pathOf url.pathText with
      | nil => simp
      | cons first rest =>
          rw [List.isEmpty_cons, if_neg Bool.false_ne_true]
          simp [eq_comm]

theorem exists_of_ofRemote_eq_some {remote : String} {hosted : HostedRepository}
    (found : ofRemote remote = .ok (some hosted)) :
    ∃ url, parseRemote (Text.trimBlanks remote).toList = .ok url ∧
      ofUrl (Text.trimBlanks remote) url = .ok (some hosted) := by
  cases read : parseRemote (Text.trimBlanks remote).toList with
  | ok url => exact ⟨url, rfl, by rw [← ofRemote_of_parseRemote read, found]⟩
  | error fault =>
      simp only [ofRemote, read] at found
      split at found <;> cases found

/-! ## Endings -/

/-- The path as it is written in an address, without the slashes at both ends. -/
def writtenPath (url : Url) : List Char :=
  Text.stripWhere (fun character => character == '/') url.pathText

theorem head?_writtenPath_ne (url : Url) : (writtenPath url).head? ≠ some '/' := by
  have kept : Text.stripWhere (fun character => character == '/') url.pathText =
    writtenPath url := rfl
  intro slash
  simpa using (Text.stripWhere_eq_iff.mp kept).2.1 '/' slash

theorem not_slash_suffix_writtenPath (url : Url) : ¬ ['/'] <:+ writtenPath url := by
  have kept : Text.stripWhere (fun character => character == '/') url.pathText =
    writtenPath url := rfl
  rw [List.singleton_suffix_iff_getLast?_eq_some]
  intro slash
  simpa using (Text.stripWhere_eq_iff.mp kept).2.2 '/' slash

/-- One ending is taken away, and only one. -/
theorem pathOf_of_ending {path stem : List Char}
    (written : Text.stripWhere (fun character => character == '/') path =
      stem ++ ".git".toList) : pathOf path = stem := by
  have ending : ".git".toList.isSuffixOf (stem ++ ".git".toList) = true :=
    List.isSuffixOf_iff_suffix.mpr (List.suffix_append stem _)
  simp only [pathOf, written, ending, if_true]
  rw [List.length_append]
  exact List.take_left

theorem pathOf_of_no_ending {path : List Char}
    (bare : ¬ ".git".toList <:+ Text.stripWhere (fun character => character == '/') path) :
    pathOf path = Text.stripWhere (fun character => character == '/') path := by
  have none : ".git".toList.isSuffixOf
      (Text.stripWhere (fun character => character == '/') path) = false := by
    rw [Bool.eq_false_iff]
    exact fun ending => bare (List.isSuffixOf_iff_suffix.mp ending)
  simp only [pathOf, none, Bool.false_eq_true, if_false]

/-- The path ends in what is written in front of the ending that is taken away. -/
theorem suffix_pathOf_iff {url : Url} {ending : List Char}
    (bare : ¬ ".git".toList <:+ writtenPath url → ¬ ending <:+ writtenPath url) :
    ending <:+ pathOf url.pathText ↔ ending ++ ".git".toList <:+ writtenPath url := by
  by_cases last : ".git".toList <:+ writtenPath url
  · rcases last with ⟨stem, written⟩
    rw [pathOf_of_ending written.symm, ← written, List.suffix_append_self_iff]
  · rw [pathOf_of_no_ending last, ← writtenPath]
    constructor
    · intro impossible
      exact absurd impossible (bare last)
    · intro impossible
      exact absurd ((List.suffix_append ending _).trans impossible) last

theorem head?_pathOf_ne (url : Url) : (pathOf url.pathText).head? ≠ some '/' := by
  by_cases last : ".git".toList <:+ writtenPath url
  · rcases last with ⟨stem, written⟩
    rw [pathOf_of_ending written.symm]
    intro slash
    apply head?_writtenPath_ne url
    rw [← written, List.head?_append, slash, Option.some_or]
  · rw [pathOf_of_no_ending last, ← writtenPath]
    exact head?_writtenPath_ne url

/-! ## The address of a status -/

/--
The segments of the address at which a status is asked for: those of the provider, those of the
path, and those of the question.
-/
theorem segments_statusUrl (hosted : HostedRepository) (commit : String) :
    Text.piecesAt '/' (hosted.statusUrl commit).toList =
      Text.piecesAt '/' (hosted.provider.apiBase ++ "/repos").toList ++
        (Text.piecesAt '/' hosted.path.toList ++
          Text.piecesAt '/' ("commits/" ++ commit ++ "/status").toList) := by
  have split : (hosted.statusUrl commit).toList =
      (hosted.provider.apiBase ++ "/repos").toList ++ '/' ::
        (hosted.path.toList ++ '/' :: ("commits/" ++ commit ++ "/status").toList) := by
    simp [statusUrl, String.toList_append]
  rw [split, Text.piecesAt_append, Text.piecesAt_append]

/--
The path of a hosted repository is not empty and does not begin with a slash.  It ends in a slash,
or in `.git`, exactly if the written path has that in front of its last `.git`.  In the address of a
status the segment in front of `commits` is empty exactly in the first of these cases.
-/
theorem path_repeats_ending_exactly_if_written
    {remote : String} {hosted : HostedRepository}
    (found : ofRemote remote = .ok (some hosted)) :
    ∃ url, parseRemote (Text.trimBlanks remote).toList = .ok url ∧
      hosted.path ≠ "" ∧
      hosted.path.toList.head? ≠ some '/' ∧
      (hosted.path.toList.getLast? = some '/' ↔ "/.git".toList <:+ writtenPath url) ∧
      (".git".toList <:+ hosted.path.toList ↔ ".git.git".toList <:+ writtenPath url) ∧
      ∀ commit, ∃ front,
        Text.piecesAt '/' (hosted.statusUrl commit).toList =
          front ++ Text.piecesAt '/' ("commits/" ++ commit ++ "/status").toList ∧
        (front.getLast? = some [] ↔ "/.git".toList <:+ writtenPath url) := by
  rcases exists_of_ofRemote_eq_some found with ⟨url, read, made⟩
  rcases ofUrl_eq_some_iff.mp made with ⟨-, nonempty, path⟩
  have listed : hosted.path.toList = pathOf url.pathText := by
    rw [path, String.toList_ofList]
  have slash : hosted.path.toList.getLast? = some '/' ↔ "/.git".toList <:+ writtenPath url := by
    rw [← List.singleton_suffix_iff_getLast?_eq_some, listed]
    exact suffix_pathOf_iff fun _ => not_slash_suffix_writtenPath url
  refine ⟨url, read, ?_, ?_, slash, ?_, ?_⟩
  · intro empty
    rw [empty] at listed
    exact nonempty listed.symm
  · rw [listed]
    exact head?_pathOf_ne url
  · rw [listed]
    exact suffix_pathOf_iff id
  · intro commit
    refine ⟨_, by rw [segments_statusUrl, ← List.append_assoc], ?_⟩
    rw [← slash, List.getLast?_append_of_ne_nil _ (Text.piecesAt_ne_nil '/' _),
      Text.getLast?_piecesAt_eq_nil_iff, listed]
    exact or_iff_right nonempty

/-- A name with the ending twice keeps it once. -/
theorem path_of_repeated_ending_keeps_ending :
    ∃ url hosted,
      ofRemote "ssh://git@github.com/octo/demo.git.git" = .ok (some hosted) ∧
      parseRemote (Text.trimBlanks "ssh://git@github.com/octo/demo.git.git").toList = .ok url ∧
      ".git.git".toList <:+ writtenPath url ∧ ".git".toList <:+ hosted.path.toList := by
  have read : ofRemote "ssh://git@github.com/octo/demo.git.git" =
      .ok (some ⟨.gitHub, "octo/demo.git"⟩) := eq_ok_of_toOption (by decide +kernel)
  rcases path_repeats_ending_exactly_if_written read with ⟨url, parsed, -, -, -, ending, -⟩
  have twice : ".git".toList <:+ "octo/demo.git".toList := by decide
  exact ⟨url, _, read, parsed, ending.mp twice, twice⟩

/-- A name that consists of the ending leaves the slash in front of it. -/
theorem path_of_ending_ends_in_slash :
    (ofRemote "ssh://git@github.com/octo/.git").toOption = some (some ⟨.gitHub, "octo/"⟩) ∧
      (ofRemote "ssh://git@github.com/octo/demo.git.git").toOption =
        some (some ⟨.gitHub, "octo/demo.git"⟩) ∧
      statusUrl ⟨.gitHub, "octo/"⟩ "c1" =
        "https://api.github.com/repos/octo//commits/c1/status" := by
  decide +kernel

end ChangeTransport.HostedRepository
