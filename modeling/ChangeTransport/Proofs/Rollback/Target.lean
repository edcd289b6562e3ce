import ChangeTransport.Proofs.Deploy.Deployers
import ChangeTransport.Proofs.Rollback.Resolution

/-!
# Targets without a name

A pull that names no commit pulls the newest one of the remote.  A commit that is given and one that
is taken out of the history always have a name.  A listed commit need not: where the scan ends with
a success at a commit without an id, the target of the rollback has no name, and the rollback pulls
the newest commit.  This is the only way in which it comes about.
-/

namespace ChangeTransport

open Step

namespace Repository

variable (repository : Repository) (commit token : Option String)
  (answers providerAnswers : List Http.Answer)

/--
No commit is given, the remote is hosted by a provider, and the first of the listed commits of which
the provider reports a success has no id.
-/
def FindsNameless : Prop :=
  (commit = none ∨ commit = some "") ∧
    ∃ (hosted : HostedRepository) (commits : List Commit) (index : Nat),
      repository.remoteIn (scriptedAnswer answers 0 (.get repository.url)) = .ok (some hosted) ∧
      repository.commitsIn
        (scriptedAnswer answers 1 (.get (repository.actionUrl "getCommit"))) = .ok commits ∧
      let statuses := hosted.statuses token providerAnswers 0 (commits.map Commit.id)
      (commits.map Commit.id)[index]? = some "" ∧
        (∃ status, statuses[index]? = some (.ok status) ∧ status.isSuccess = true) ∧
        ∀ earlier < index, ∃ status,
          statuses[earlier]? = some (.ok status) ∧ status.isSuccess = false

variable {repository commit token answers providerAnswers}

theorem result_of_findsNameless
    (nameless : repository.FindsNameless commit token answers providerAnswers) :
    (repository.resolution commit token answers providerAnswers).result =
      .ok ⟨"", .commitStatus⟩ := by
  rcases nameless with ⟨absent, hosted, commits, index, remote, listed, here, known, before⟩
  have scanned : hosted.scanned token providerAnswers 0 (commits.map Commit.id) = .ok "" :=
    (hosted.scanned_eq_ok_iff token providerAnswers 0).mpr ⟨index, here, known, before⟩
  simp [resolution, given?_eq_none_iff.mpr absent, remote, listed, scanned, Except.map]

theorem findsNameless_of_result
    {target : RollbackTarget}
    (found : (repository.resolution commit token answers providerAnswers).result = .ok target)
    (empty : target.commit = "") :
    repository.FindsNameless commit token answers providerAnswers := by
  unfold resolution at found
  cases explicit : given? commit with
  | some given =>
      have nonempty : given ≠ "" := (given?_eq_some_iff.mp explicit).2
      simp only [explicit, Except.ok.injEq] at found
      subst target
      exact absurd empty nonempty
  | none =>
      refine ⟨given?_eq_none_iff.mp explicit, ?_⟩
      simp only [explicit] at found
      rcases remote : repository.remoteIn (scriptedAnswer answers 0 (.get repository.url)) with
        error | _ | hosted
      · simp [remote] at found
      · rcases listed : repository.historyIn
          (scriptedAnswer answers 1 (.get (repository.actionUrl "getHistory"))) with
          error | _ | ⟨latest, older⟩
        · simp [remote, listed] at found
        · simp [remote, listed] at found
        · simp only [remote, listed, ok_bind, targetOfHistory_cons] at found
          split at found
          · cases found
          · next nonempty =>
              cases found
              exact absurd empty nonempty
      · rcases listed : repository.commitsIn
          (scriptedAnswer answers 1 (.get (repository.actionUrl "getCommit"))) with
          error | commits
        · simp [remote, listed] at found
        · simp only [remote, listed, map_eq_ok_iff] at found
          rcases found with ⟨id, scanned, made⟩
          subst target
          rcases (hosted.scanned_eq_ok_iff token providerAnswers 0).mp scanned with
            ⟨index, here, known, before⟩
          subst empty
          exact ⟨hosted, commits, index, rfl, rfl, here, known, before⟩

/-- A pull of a commit without a name is the pull of the newest one. -/
theorem pullUrl_some (repository : Repository) (commit : String) :
    repository.pullUrl (some commit) =
      if commit = "" then repository.actionUrl "pullByCommit"
      else repository.actionUrl "pullByCommit" ++ "&request=" ++ commit := by
  unfold pullUrl
  split
  · next named given =>
      rcases given?_eq_some_iff.mp given with ⟨equal, nonempty⟩
      cases equal
      rw [if_neg nonempty]
  · next absent =>
      have empty : commit = "" := by
        simpa using given?_eq_none_iff.mp absent
      rw [if_pos empty]

/--
A rollback notes down or pulls the commit that has been found, once and as the last thing it does
with the system, and does neither if none has been found.  What is found has a name, and the pull
asks for it, but for the one course in which a listed commit without an id is found: in it the
newest commit is pulled.
-/
theorem rollback_pulls_newest_exactly_if_nameless
    (repository : Repository) (credentials : Credentials)
    (commit token : Option String)
    (answers providerAnswers : List Http.Answer) (observer : Observer)
    (failure : Option String) :
    let world : World := .start (.ofScript answers) (.ofScript providerAnswers) observer
    let run := runIn world (repository.resolve commit token)
    let orders :=
      (runIn world (repository.rollback credentials commit token (.noting failure))).2.orders
    let sent :=
      (runIn world (repository.rollback credentials commit token .pulling)).2.system.sent
    let nameless := repository.FindsNameless commit token answers providerAnswers
    (nameless → run.1 = .ok ⟨"", .commitStatus⟩) ∧
    (∀ target, run.1 = .ok target →
      (target.commit = "" ↔ nameless) ∧
      orders = [⟨repository, credentials, target.commit⟩] ∧
      sent = run.2.system.sent ++
        [.get (if target.commit = "" then repository.actionUrl "pullByCommit"
          else repository.actionUrl "pullByCommit" ++ "&request=" ++ target.commit)]) ∧
    (∀ error, run.1 = .error error → orders = [] ∧ sent = run.2.system.sent) := by
  intro world run orders sent nameless
  rcases repository.runIn_resolve commit token world
    (Line.ofScript_eq_scripted answers) (Line.ofScript_eq_scripted providerAnswers) with
    ⟨log, events, ended⟩
  have noted := repository.orders_rollback_noting credentials commit token world failure
  have pulled := repository.sent_rollback_pulling credentials commit token
    (congrArg (fun ended => ended.2.system) ended)
  simp only [ended] at noted pulled
  simp only [run, ended, orders, noted, sent, pulled, Line.sent_scripted]
  refine ⟨result_of_findsNameless, ?_, ?_⟩
  · intro target found
    simp only [found, pullUrl_some]
    refine ⟨⟨findsNameless_of_result found, ?_⟩, rfl, trivial⟩
    intro unnamed
    rw [result_of_findsNameless unnamed] at found
    cases found
    rfl
  · intro error failed
    simp only [failed]
    exact ⟨rfl, trivial⟩

/-- The listed commit names only its author, and the rollback pulls the newest commit. -/
theorem rollback_of_unnamed_commit_pulls_newest :
    let repository : Repository := .of "http://host:50000" "000" "demo"
    let world : World := .start
      (.ofScript
        [ .ofText "\x7b\"result\":\x7b\"url\":\"git@github.com:octo/demo.git\"\x7d\x7d",
          .ofText "\x7b\"commits\":[\x7b\"author\":\"x\"\x7d]\x7d",
          .ofText "\x7b\x7d" ])
      (.ofScript [.ofText "\x7b\"state\":\"success\"\x7d"])
      .ignoring
    (runIn world (repository.resolve none none)).1.toOption = some ⟨"", .commitStatus⟩ ∧
      (runIn world (repository.rollback ⟨"user", "secret"⟩ none none .pulling)).2.system.sent =
        [ .get repository.url,
          .get (repository.actionUrl "getCommit"),
          .get (repository.actionUrl "pullByCommit") ] := by
  decide +kernel

end Repository

end ChangeTransport
