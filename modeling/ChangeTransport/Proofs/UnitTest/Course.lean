import ChangeTransport.UnitTest.Run
import ChangeTransport.Proofs.Repository.Questions
import ChangeTransport.Proofs.UnitTest.Block

/-!
# The course of a test run

A test run asks for the objects, for a token and then for the tests of one package after the other,
up to and including the first package that has not passed.  What it comes to is told by the trials
of the listed packages, taken from the script.
-/

namespace ChangeTransport

open Step

/-! ## Errors that are no verdict -/

section Failures

variable {package : String} {failed : Nat}

/-- A failed reading is never a failed test, unless what reads the reply says so. -/
theorem Http.Answer.read_ne_unitTestsFailed {α : Type}
    {url : String} {reading : Http.Reply → Except Error α}
    (others : ∀ reply, reading reply ≠ .error (.unitTestsFailed package failed))
    (answer : Http.Answer) :
    answer.read url reading ≠ .error (.unitTestsFailed package failed) := by
  cases answer with
  | failure reason =>
      intro impossible
      cases impossible
  | reply received =>
      cases success : received.isSuccess with
      | false =>
          have refused : (Http.Answer.reply received).read url reading =
              .error (.http received.status url) := by
            simp [read, accept, requireSuccess, success, Except.map]
          rw [refused]
          intro impossible
          cases impossible
      | true =>
          rw [read_of_success success]
          exact others received

theorem mapError_ne_unitTestsFailed {ε α : Type}
    {make : ε → Error} (others : ∀ cause, make cause ≠ .unitTestsFailed package failed)
    (result : Except ε α) :
    result.mapError make ≠ .error (.unitTestsFailed package failed) := by
  cases result with
  | error cause =>
      intro equal
      exact others cause (Except.error.inj equal)
  | ok value =>
      intro impossible
      cases impossible

end Failures

/-- What is handed over, behind questions that only ask. -/
theorem Http.filter_post_append
    {questions requests : List Http.Request}
    (gets : ∀ question ∈ questions, question.method = .get)
    (posts : ∀ request ∈ requests, request.method = .post) :
    (questions ++ requests).filter (fun request => request.method == .post) = requests := by
  have none : questions.filter (fun request => request.method == .post) = [] := by
    apply List.filter_eq_nil_iff.mpr
    intro question among
    simp [gets question among]
  have all : requests.filter (fun request => request.method == .post) = requests := by
    apply List.filter_eq_self.mpr
    intro request among
    simp [posts request among]
  rw [List.filter_append, none, all, List.nil_append]

namespace Repository

variable (repository : Repository)

/-- The result in the answer to the request for the tests of a package. -/
def runResultIn (answer : Http.Answer) : Except Error RunResult :=
  answer.read (repository.toolUrl "abapunit/testruns")
    (decodeDocument RunResult.decoder RunResult.root)

section Failures

variable (package : String) (failed : Nat) (answer : Http.Answer)

theorem objectsIn_ne_unitTestsFailed :
    repository.objectsIn answer ≠ .error (.unitTestsFailed package failed) := by
  apply Http.Answer.read_ne_unitTestsFailed
  intro reply
  apply mapError_ne_unitTestsFailed
  intro fault impossible
  cases impossible

theorem tokenIn_ne_unitTestsFailed :
    repository.tokenIn answer ≠ .error (.unitTestsFailed package failed) := by
  apply Http.Answer.read_ne_unitTestsFailed
  intro reply
  unfold issuedToken
  cases Token.ofReply? reply <;> intro impossible <;> cases impossible

theorem runResultIn_ne_unitTestsFailed :
    repository.runResultIn answer ≠ .error (.unitTestsFailed package failed) := by
  apply Http.Answer.read_ne_unitTestsFailed
  intro reply
  apply mapError_ne_unitTestsFailed
  intro fault impossible
  cases impossible

end Failures

/-- The trials of packages, of which the first takes the answer at the given place. -/
def trials (token : Token) (answers : List Http.Answer) (place : Nat)
    (packages : List String) : List Trial :=
  readings answers (repository.testRequest token)
    (fun package answer => ⟨package, repository.runResultIn answer⟩) place packages

/-- The requests for the tests of packages, up to the first that has not passed. -/
def trialRequests (token : Token) (answers : List Http.Answer) (place : Nat)
    (packages : List String) : List Http.Request :=
  requestsUntil answers (repository.testRequest token)
    (fun package answer => (⟨package, repository.runResultIn answer⟩ : Trial)) place
    (fun trial => !trial.passed) packages

variable (token : Token) (answers : List Http.Answer) (place : Nat)

@[simp]
theorem trials_nil : repository.trials token answers place [] = [] := rfl

@[simp]
theorem trials_cons (package : String) (rest : List String) :
    repository.trials token answers place (package :: rest) =
      ⟨package, repository.runResultIn
          (scriptedAnswer answers place (repository.testRequest token package))⟩ ::
        repository.trials token answers (place + 1) rest := by
  simp [trials]

@[simp]
theorem trialRequests_nil : repository.trialRequests token answers place [] = [] := by
  simp [trialRequests]

theorem trialRequests_cons (package : String) (rest : List String) :
    repository.trialRequests token answers place (package :: rest) =
      repository.testRequest token package ::
        if !Trial.passed ⟨package, repository.runResultIn
            (scriptedAnswer answers place (repository.testRequest token package))⟩ then []
        else repository.trialRequests token answers (place + 1) rest :=
  requestsUntil_cons ..

section Outcome

variable (packages : List String)

/-- What is read out of an answer about tests is never that tests have failed. -/
theorem result_ne_unitTestsFailed
    {index : Nat} {trial : Trial}
    (here : (repository.trials token answers place packages)[index]? = some trial)
    (package : String) (failed : Nat) :
    trial.result ≠ .error (.unitTestsFailed package failed) := by
  rw [trials, readings_getElem?, Option.map_eq_some_iff] at here
  rcases here with ⟨listed, -, rfl⟩
  exact repository.runResultIn_ne_unitTestsFailed package failed _

/-- Tests have failed exactly if the first trial that has not passed has a result. -/
theorem unitTestsFailed_of_trials_iff {package : String} {failed : Nat} :
    let trials := repository.trials token answers place packages
    trials.mapM Trial.verdict = .error (.unitTestsFailed package failed) ↔
      ∃ (index : Nat) (result : RunResult),
        trials[index]? = some ⟨package, .ok result⟩ ∧
        (∀ earlier < index, ∃ trial, trials[earlier]? = some trial ∧ trial.passed = true) ∧
        failed = (result.methods.filter fun method => !method.alerts.isEmpty).length ∧
        1 ≤ failed := by
  intro trials
  rw [Trial.mapM_verdict_eq_error_iff]
  constructor
  · rintro ⟨index, trial, here, before, ended⟩
    rcases Trial.verdict_eq_error_iff.mp ended with unread | ⟨result, read, positive, equal⟩
    · exact absurd unread
        (repository.result_ne_unitTestsFailed token answers place packages here package failed)
    · cases equal
      refine ⟨index, result, ?_, before, List.countP_eq_length_filter, positive⟩
      rw [here, ← read]
  · rintro ⟨index, result, here, before, equal, positive⟩
    have counted : failed = result.failures := equal.trans List.countP_eq_length_filter.symm
    refine ⟨index, _, here, before, Trial.verdict_eq_error_iff.mpr (.inr ⟨result, rfl, ?_⟩)⟩
    rw [← counted]
    exact ⟨positive, rfl⟩

/-- The first trial that has not passed is the last one that is asked for. -/
theorem trialRequests_of_not_passed
    {index : Nat} {trial : Trial}
    (here : (repository.trials token answers place packages)[index]? = some trial)
    (failed : trial.passed = false)
    (before : ∀ earlier < index, ∃ trial,
      (repository.trials token answers place packages)[earlier]? = some trial ∧
        trial.passed = true) :
    repository.trialRequests token answers place packages =
      (packages.take (index + 1)).map (repository.testRequest token) := by
  refine requestsUntil_eq_take _ _ _ _ _ here ?_ ?_
  · simp [failed]
  · intro earlier less
    rcases before earlier less with ⟨trial, found, passed⟩
    exact ⟨trial, found, by simp [passed]⟩

end Outcome

theorem method_of_mem_trialRequests (packages : List String) :
    ∀ request ∈ repository.trialRequests token answers place packages, request.method = .post := by
  unfold trialRequests requestsUntil
  intro request among
  rcases List.mem_map.mp among with ⟨package, -, rfl⟩
  rfl

/-- The requests are those for the trials that are made. -/
theorem trialRequests_eq_made (packages : List String) :
    repository.trialRequests token answers place packages =
      (Trial.made (repository.trials token answers place packages)).map
        fun trial => repository.testRequest token trial.package := by
  induction packages generalizing place with
  | nil => simp [Trial.made]
  | cons package rest induction =>
      rw [trialRequests_cons, trials_cons, Trial.made, List.map_cons]
      cases Trial.passed ⟨package, repository.runResultIn
        (scriptedAnswer answers place (repository.testRequest token package))⟩ with
      | false => rfl
      | true => exact congrArg _ (induction (place + 1))

theorem runIn_reportVerdict (verdict : PackageVerdict) (world : World) :
    runIn world (reportVerdict verdict) = (.ok (), world.reportAll verdict.events) := by
  rw [reportVerdict, runIn_bind, runIn_reportEach, PackageVerdict.events, World.reportAll_append]
  rfl

/-- The tests of a package are asked for once, and what is reported is told by the answer. -/
theorem runIn_runPackage (package : String) (world : World) :
    let asked := (world.report (.packageStarted package)).exchange .system
      (repository.testRequest token package)
    let trial : Trial := ⟨package, repository.runResultIn asked.1⟩
    runIn world (repository.runPackage token package) =
      (trial.result.map (·.verdict package), asked.2.reportAll trial.block.results) := by
  intro asked trial
  rw [runPackage, runIn_bind, runIn_report]
  dsimp only
  rw [runIn_bind, runIn_exchange]
  unfold trial runResultIn Http.Answer.read
  have url : (repository.testRequest token package).url =
      repository.toolUrl "abapunit/testruns" := rfl
  rw [url]
  cases asked.1.accept (repository.toolUrl "abapunit/testruns") with
  | error error => rfl
  | ok reply =>
      dsimp only
      rw [runIn_bind, runIn_ofExcept, ok_bind]
      cases decodeDocument RunResult.decoder RunResult.root reply with
      | error error => rfl
      | ok result =>
          dsimp only
          rw [runIn_bind, runIn_reportVerdict]
          rfl

variable {answers} {sent : List Http.Request}

/-- On a line with a script the reports on a package make one block. -/
theorem runIn_runPackage_scripted
    (package : String) (world : World)
    (system : world.system = .scripted answers sent) :
    let request := repository.testRequest token package
    let trial : Trial :=
      ⟨package, repository.runResultIn (scriptedAnswer answers sent.length request)⟩
    runIn world (repository.runPackage token package) =
      (trial.result.map (·.verdict package),
        { world with system := .scripted answers (sent ++ [request]) }.reportAll
          trial.block.events) := by
  intro request trial
  have line : (world.report (.packageStarted package)).system = .scripted answers sent := by
    rw [World.system_report, system]
  have commuted := world.report_system (.scripted answers (sent ++ [request]))
    (.packageStarted package)
  rw [runIn_runPackage, World.exchange_system _ line, Trial.block, Block.events,
    World.reportAll_cons, commuted]

/-- The tests of packages are asked for, and reported, up to the first that has not passed. -/
theorem runIn_runPackages
    (packages : List String) (world : World)
    (system : world.system = .scripted answers sent) :
    let trials := repository.trials token answers sent.length packages
    runIn world (repository.runPackages token packages) =
      (trials.mapM Trial.verdict,
        { world with
          system := .scripted answers
            (sent ++ repository.trialRequests token answers sent.length packages) }.reportAll
          (Trial.reported trials)) := by
  intro trials
  unfold trials
  induction packages generalizing world sent with
  | nil =>
      simp [runPackages, ← system]
      rfl
  | cons package rest induction =>
      rw [runPackages, runIn_bind, repository.runIn_runPackage_scripted token package world system,
        trialRequests_cons, trials_cons, List.mapM_cons, Trial.reported_cons]
      cases repository.runResultIn
          (scriptedAnswer answers sent.length (repository.testRequest token package)) with
      | error error => simp [Trial.passed, Trial.verdict, Except.map]
      | ok result =>
          dsimp only [Except.map]
          rw [RunResult.passed_verdict, Trial.passed_read]
          by_cases clean : result.failures = 0
          · generalize reported : World.reportAll _ _ = after
            have line : after.system =
                .scripted answers (sent ++ [repository.testRequest token package]) := by
              rw [← reported, World.reportAll_system]
            have moved (line : Line) : { after with system := line } =
                { world with system := line }.reportAll
                  (Trial.block ⟨package, .ok result⟩).events := by
              rw [← reported, ← World.reportAll_system]
            have rested := induction after line
            rw [List.length_append, List.length_singleton, moved, List.append_assoc,
              ← World.reportAll_append] at rested
            simp only [clean, beq_self_eq_true, if_true, Trial.verdict, runIn_bind, rested, ok_bind,
              Bool.not_true, Bool.false_eq_true, if_false]
            cases (repository.trials token answers (sent.length + 1) rest).mapM Trial.verdict with
            | error error => rfl
            | ok verdicts => rfl
          · have failing : (result.failures == 0) = false := beq_eq_false_iff_ne.mpr clean
            simp only [clean, failing, Bool.not_false, Bool.false_eq_true, if_true, if_false,
              Trial.verdict, error_bind, runIn_throw, RunResult.failedMethods_verdict,
              List.append_nil]
            rfl

/--
A test run asks for the objects, for a token, and for the tests of the packages; what is reported
are the blocks of the trials that are made.
-/
theorem runIn_runAll_reporting
    (world : World)
    (system : world.system = .scripted answers []) :
    let listObjects : Http.Request := .get (repository.actionUrl "getObjects")
    ∃ log entries,
      runIn world repository.runAll =
        match repository.objectsIn (scriptedAnswer answers 0 listObjects) with
        | .error error =>
            (.error error, { world with system := .scripted answers [listObjects], log })
        | .ok objects =>
            let packages := packageNames objects
            match repository.tokenIn (scriptedAnswer answers 1 repository.tokenRequest) with
            | .error error =>
                (.error error,
                  { world with
                    system := .scripted answers [listObjects, repository.tokenRequest], log })
            | .ok token =>
                let trials := repository.trials token answers 2 packages
                ((trials.mapM Trial.verdict).map RunSummary.mk,
                  ({ world with
                      system := .scripted answers
                        ([listObjects, repository.tokenRequest] ++
                          repository.trialRequests token answers 2 packages)
                      log }.reportAll (Trial.reported trials)).logAll entries) := by
  intro listObjects
  rcases repository.asks_fetchPackages.runIn_system world system _ with ⟨log, listed⟩
  rw [runAll, listed]
  dsimp only [List.length_nil]
  cases repository.objectsIn (scriptedAnswer answers 0 listObjects) with
  | error error => exact ⟨log, [], rfl⟩
  | ok objects =>
      rcases repository.asks_fetchToken.runIn_system
        { world with system := .scripted answers [listObjects], log } rfl _ with ⟨log, given⟩
      dsimp only [Except.map, List.nil_append]
      rw [given]
      dsimp only [List.length_singleton]
      cases repository.tokenIn (scriptedAnswer answers 1 repository.tokenRequest) with
      | error error => exact ⟨log, [], rfl⟩
      | ok token =>
          have tested := repository.runIn_runPackages token (packageNames objects)
            { world with
              system := .scripted answers [listObjects, repository.tokenRequest], log } rfl
          dsimp only [List.cons_append, List.nil_append]
          rw [runIn_bind, tested]
          dsimp only [List.length_cons, List.length_nil, Nat.zero_add, Nat.reduceAdd]
          cases (repository.trials token answers 2 (packageNames objects)).mapM Trial.verdict with
          | error error => exact ⟨log, [], by rw [World.logAll_nil]; rfl⟩
          | ok verdicts => exact ⟨log, _, rfl⟩

/-- What a test run comes to and asks for, whatever is reported and logged. -/
theorem runIn_runAll
    (world : World)
    (system : world.system = .scripted answers []) :
    let listObjects : Http.Request := .get (repository.actionUrl "getObjects")
    ∃ log events,
      runIn world repository.runAll =
        match repository.objectsIn (scriptedAnswer answers 0 listObjects) with
        | .error error =>
            (.error error, { world with system := .scripted answers [listObjects], log, events })
        | .ok objects =>
            let packages := packageNames objects
            match repository.tokenIn (scriptedAnswer answers 1 repository.tokenRequest) with
            | .error error =>
                (.error error,
                  { world with
                    system := .scripted answers [listObjects, repository.tokenRequest]
                    log, events })
            | .ok token =>
                let trials := repository.trials token answers 2 packages
                ((trials.mapM Trial.verdict).map RunSummary.mk,
                  { world with
                    system := .scripted answers
                      ([listObjects, repository.tokenRequest] ++
                        repository.trialRequests token answers 2 packages)
                    log, events }) := by
  intro listObjects
  rcases repository.runIn_runAll_reporting world system with ⟨log, entries, ended⟩
  rw [ended]
  cases repository.objectsIn (scriptedAnswer answers 0 listObjects) with
  | error error => exact ⟨log, world.events, rfl⟩
  | ok objects =>
      dsimp only
      cases repository.tokenIn (scriptedAnswer answers 1 repository.tokenRequest) with
      | error error => exact ⟨log, world.events, rfl⟩
      | ok token =>
          dsimp only
          rcases World.exists_reportAll
            { world with
              system := .scripted answers
                ([listObjects, repository.tokenRequest] ++
                  repository.trialRequests token answers 2 (packageNames objects))
              log }
            (Trial.reported (repository.trials token answers 2 (packageNames objects))) with
            ⟨log, events, reported⟩
          rw [reported]
          exact ⟨_, events, rfl⟩

end Repository

end ChangeTransport
