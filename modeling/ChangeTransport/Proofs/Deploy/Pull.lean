import ChangeTransport.Proofs.Rollback.Target
import ChangeTransport.Proofs.Url.Query

/-!
# What a pull asks for

The address at which a commit is pulled holds three texts that are not fixed: the name of the
repository, the client and the commit.  They are put into it as they are, so a server reads the
three that were meant exactly if none of them holds a character that ends its part of the address,
or a percent sign with two digits behind it.
-/

namespace ChangeTransport

open Step

namespace Repository

open Text.Utf8 Url

/-- What a server reads is the pull of a commit: the end of the path and all parameters. -/
structure IsPullOf (repository : Repository) (commit : String) (target : Target) : Prop where
  segments :
    [ofText "repository", ofText repository.name, ofText "pullByCommit"] <:+ target.segments
  parameters :
    target.parameters =
      [(ofText "sap-client", ofText repository.client), (ofText "request", ofText commit)]

/-- The texts of a pull can be put into an address as they are. -/
structure IsVerbatimPull (repository : Repository) (commit : String) : Prop where
  name : IsVerbatim pathMarks repository.name.toList
  client : IsVerbatim queryMarks repository.client.toList
  commit : IsVerbatim queryMarks commit.toList

variable (repository : Repository) (commit : String)

/-- What stands behind the host where something is done with a repository. -/
def actionTarget (action : String) : String :=
  "/sap/bc/cts_abapvcs/repository/" ++ repository.name ++ "/" ++ action ++
    "?sap-client=" ++ repository.client

theorem actionUrl_eq_host_append (action : String) :
    repository.actionUrl action = repository.host ++ repository.actionTarget action := by
  rw [← String.toList_inj]
  unfold actionUrl actionTarget
  simp only [String.toList_append, List.append_assoc]

/-- What stands behind the host where a commit is pulled. -/
def pullTarget : String :=
  repository.actionTarget "pullByCommit" ++ "&request=" ++ commit

variable {commit} in
theorem pullUrl_eq_host_append (nonempty : commit ≠ "") :
    repository.pullUrl (some commit) = repository.host ++ repository.pullTarget commit := by
  rw [pullUrl_some, if_neg nonempty, actionUrl_eq_host_append, pullTarget, String.append_assoc,
    String.append_assoc, String.append_assoc]

/-! ## The parts of the address -/

/-- The path in front of the name. -/
def pullFront : List Char := "/sap/bc/cts_abapvcs/repository".toList

/-- The last segment of the path. -/
def pullAction : List Char := "pullByCommit".toList

/-- What stands behind the question mark. -/
def pullQuery : List Char :=
  "sap-client".toList ++ '=' :: (repository.client.toList ++
    '&' :: ("request".toList ++ '=' :: commit.toList))

theorem toList_pullTarget :
    (repository.pullTarget commit).toList =
      pullFront ++ '/' :: (repository.name.toList ++
        '/' :: (pullAction ++ '?' :: repository.pullQuery commit)) := by
  have front : "/sap/bc/cts_abapvcs/repository/".toList = pullFront ++ ['/'] := by
    decide +kernel
  have slash : "/".toList = ['/'] := by decide +kernel
  have client : "?sap-client=".toList = '?' :: ("sap-client".toList ++ ['=']) := by
    decide +kernel
  have request : "&request=".toList = '&' :: ("request".toList ++ ['=']) := by
    decide +kernel
  unfold pullTarget actionTarget pullQuery pullAction
  rw [String.toList_append, String.toList_append, String.toList_append, String.toList_append,
    String.toList_append, String.toList_append, String.toList_append, front, slash, client,
    request]
  simp only [List.append_assoc, List.cons_append, List.nil_append]

theorem isParameterName_client : IsParameterName "sap-client".toList :=
  ⟨by decide +kernel⟩

theorem isParameterName_request : IsParameterName "request".toList :=
  ⟨by decide +kernel⟩

theorem readQuery_pullQuery_iff :
    readQuery (repository.pullQuery commit) =
        [(ofText "sap-client", ofText repository.client), (ofText "request", ofText commit)] ↔
      IsVerbatim queryMarks repository.client.toList ∧ IsVerbatim queryMarks commit.toList :=
  readQuery_pair_iff isParameterName_client isParameterName_request

/-- The segments of the path that are fixed. -/
def fixedSegments : List String :=
  ["", "sap", "bc", "cts_abapvcs", "repository", "pullByCommit"]

theorem readPath_front : readPath pullFront = (fixedSegments.take 5).map ofText := by
  decide +kernel

theorem readPath_action : readPath pullAction = (fixedSegments.drop 5).map ofText := by
  decide +kernel

/-- The fixed segments are read as they are written. -/
theorem isVerbatim_of_mem_fixedSegments {text : String}
    (among : ofText text ∈ fixedSegments.map ofText) : IsVerbatim pathMarks text.toList := by
  have verbatim : ∀ segment ∈ fixedSegments, IsVerbatim pathMarks segment.toList := by
    decide +kernel
  rcases List.mem_map.mp among with ⟨segment, fixed, same⟩
  rw [← encode_injective same]
  exact verbatim segment fixed

/-- What a server reads where the path does not end within the name. -/
theorem read_pullTarget (unended : '?' ∉ repository.name.toList) :
    Target.read (repository.pullTarget commit).toList =
      ⟨readPath pullFront ++ (readPath repository.name.toList ++ readPath pullAction),
        readQuery (repository.pullQuery commit)⟩ := by
  have inPath : '?' ∉ pullFront ++ '/' :: (repository.name.toList ++ '/' :: pullAction) := by
    simp only [List.mem_append, List.mem_cons]
    rintro (front | mark | inName | mark | action)
    · exact absurd front (by decide +kernel)
    · exact absurd mark (by decide)
    · exact unended inName
    · exact absurd mark (by decide)
    · exact absurd action (by decide +kernel)
  rw [← readPath_append, ← readPath_append, ← Target.read_append inPath, toList_pullTarget]
  simp only [List.append_assoc, List.cons_append]

/-- Only a name without a mark or an escape is a segment of the path. -/
theorem isVerbatim_name_of_mem_segments
    (among : ofText repository.name ∈
      (Target.read (repository.pullTarget commit).toList).segments) :
    IsVerbatim pathMarks repository.name.toList := by
  have fixed : ofText repository.name ∈ readPath pullFront ∨
        ofText repository.name ∈ readPath pullAction →
      IsVerbatim pathMarks repository.name.toList := by
    rw [readPath_front, readPath_action, ← List.mem_append, ← List.map_append,
      List.take_append_drop]
    exact isVerbatim_of_mem_fixedSegments
  by_cases ended : '?' ∈ repository.name.toList
  · -- the path ends within the name
    rcases List.eq_append_cons_of_mem ended with ⟨cut, behind, split, unended⟩
    have inPath : '?' ∉ pullFront ++ '/' :: cut := by
      rw [List.mem_append, List.mem_cons]
      rintro (front | mark | inCut)
      · exact absurd front (by decide +kernel)
      · exact absurd mark (by decide)
      · exact unended inCut
    have whole : (repository.pullTarget commit).toList = pullFront ++ '/' :: cut ++
        '?' :: (behind ++ '/' :: (pullAction ++ '?' :: repository.pullQuery commit)) := by
      simp only [toList_pullTarget, split, List.append_assoc, List.cons_append]
    rw [whole, Target.read_append inPath, readPath_append, List.mem_append] at among
    rcases among with front | inCut
    · exact fixed (.inl front)
    · exact isVerbatim_of_mem_readPath unended (split ▸ List.sublist_append_left _ _) inCut
  · rw [read_pullTarget repository commit ended, List.mem_append, List.mem_append] at among
    rcases among with front | inName | action
    · exact fixed (.inl front)
    · exact isVerbatim_of_mem_readPath ended (List.Sublist.refl _) inName
    · exact fixed (.inr action)

/-! ## Pulls that are read as they were meant -/

/-- A pull is read as it was meant exactly if its texts can be put into an address as they are. -/
theorem isPullOf_read_iff :
    repository.IsPullOf commit (Target.read (repository.pullTarget commit).toList) ↔
      repository.IsVerbatimPull commit := by
  constructor
  · rintro ⟨segments, parameters⟩
    have name : IsVerbatim pathMarks repository.name.toList :=
      repository.isVerbatim_name_of_mem_segments commit (segments.subset (by simp))
    have unended : '?' ∉ repository.name.toList := name.unbarred '?' (by simp [pathMarks])
    rw [read_pullTarget repository commit unended, readQuery_pullQuery_iff] at parameters
    exact ⟨name, parameters.1, parameters.2⟩
  · rintro ⟨name, client, asked⟩
    have unended : '?' ∉ repository.name.toList := name.unbarred '?' (by simp [pathMarks])
    rw [read_pullTarget repository commit unended]
    refine ⟨⟨(fixedSegments.take 4).map ofText, ?_⟩,
      (repository.readQuery_pullQuery_iff commit).mpr ⟨client, asked⟩⟩
    rw [readPath_front, readPath_of_isVerbatim name, readPath_action]
    rfl

theorem ofText_injective {first second : String} (same : ofText first = ofText second) :
    first = second :=
  String.toList_inj.mp (encode_injective same)

/-- What a server reads is the pull of one commit of one repository only. -/
theorem eq_of_isPullOf {repository other : Repository} {commit otherCommit : String}
    {target : Target} (pull : repository.IsPullOf commit target)
    (otherPull : other.IsPullOf otherCommit target) :
    repository.name = other.name ∧ repository.client = other.client ∧ commit = otherCommit := by
  have segments := (List.suffix_of_suffix_length_le pull.segments otherPull.segments
    (Nat.le_refl 3)).eq_of_length rfl
  have parameters := pull.parameters.symm.trans otherPull.parameters
  simp only [List.cons.injEq, Prod.mk.injEq, true_and, and_true] at segments parameters
  exact ⟨ofText_injective segments, ofText_injective parameters.1,
    ofText_injective parameters.2⟩

/-- A pull is one request, whatever is answered. -/
theorem sent_deploy (commit : Option String) (world : World) :
    (runIn world (repository.deploy commit)).2.system.sent =
      world.system.sent ++ [.get (repository.pullUrl commit)] := by
  rcases repository.asks_deploy commit world with ⟨log, ended⟩
  rw [ended]
  exact Line.sent_exchange _ _

/--
A pull asks for an address by one request.  A server reads in it the repository, the client and the
commit that were meant, and nothing else, exactly if the name holds no slash and no question mark,
the client and the commit hold no ampersand and no number sign, and none of the three holds an
escape.  Two such pulls are never read as the same one.
-/
theorem pull_read_as_meant_exactly_if_verbatim
    (repository : Repository) (commit : String) (nonempty : commit ≠ "") (world : World) :
    let url := repository.host ++ repository.pullTarget commit
    let read := Target.read (repository.pullTarget commit).toList
    (runIn world (repository.deploy (some commit))).2.system.sent =
      world.system.sent ++ [.get url] ∧
    (repository.IsPullOf commit read ↔ repository.IsVerbatimPull commit) ∧
    ∀ (other : Repository) (otherCommit : String),
      repository.IsVerbatimPull commit → other.IsVerbatimPull otherCommit →
      Target.read (other.pullTarget otherCommit).toList = read →
        repository.name = other.name ∧ repository.client = other.client ∧
          commit = otherCommit := by
  intro url read
  refine ⟨?_, repository.isPullOf_read_iff commit, ?_⟩
  · rw [sent_deploy, pullUrl_eq_host_append repository nonempty]
  · intro other otherCommit verbatim otherVerbatim same
    have pull := (repository.isPullOf_read_iff commit).mpr verbatim
    have otherPull := (other.isPullOf_read_iff otherCommit).mpr otherVerbatim
    rw [same] at otherPull
    exact eq_of_isPullOf pull otherPull

/-- A commit by its digits is pulled as it was meant. -/
theorem pull_of_digits_read_as_meant :
    let repository : Repository := .of "http://host:50000" "000" "demo"
    let world : World := .start (.ofScript [.ofText "\x7b\x7d"]) (.ofScript []) .ignoring
    "7763c59" ≠ "" ∧
      (runIn world (repository.deploy (some "7763c59"))).2.system.sent =
        [.get (repository.host ++ repository.pullTarget "7763c59")] ∧
      repository.IsPullOf "7763c59" (Target.read (repository.pullTarget "7763c59").toList) := by
  intro repository world
  have nonempty : "7763c59" ≠ "" := by decide
  rcases pull_read_as_meant_exactly_if_verbatim repository "7763c59" nonempty world with
    ⟨sent, meant, -⟩
  refine ⟨nonempty, sent, meant.mpr ?_⟩
  exact ⟨by decide +kernel, by decide +kernel, by decide +kernel⟩

/--
A commit with an ampersand adds a parameter, and one with an escape is read as another commit.
-/
theorem pull_of_marked_commit_sets_client :
    let repository : Repository := .of "http://host:50000" "000" "demo"
    let world : World := .start (.ofScript [.ofText "\x7b\x7d"]) (.ofScript []) .ignoring
    let commit := "c1&sap-client=100"
    let read := fun commit => Target.read (repository.pullTarget commit).toList
    commit ≠ "" ∧
      (runIn world (repository.deploy (some commit))).2.system.sent =
        [.get (repository.host ++ repository.pullTarget commit)] ∧
      (read commit).parameters =
        [ (ofText "sap-client", ofText "000"), (ofText "request", ofText "c1"),
          (ofText "sap-client", ofText "100") ] ∧
      ¬ repository.IsPullOf commit (read commit) ∧
      "%41" ≠ "A" ∧ read "%41" = read "A" := by
  intro repository world commit read
  have added : (read commit).parameters =
      [ (ofText "sap-client", ofText "000"), (ofText "request", ofText "c1"),
        (ofText "sap-client", ofText "100") ] := by
    decide +kernel
  refine ⟨by decide, by decide +kernel, added, ?_, by decide, by decide +kernel⟩
  intro pull
  have lengths := congrArg List.length (added.symm.trans pull.parameters)
  cases lengths

end Repository

end ChangeTransport
