import ChangeTransport.Proofs.UnitTest.Course
import ChangeTransport.Proofs.UnitTest.Document

/-!
# Alerts in documents

A package passes exactly if no alert stands in the element of a method.  An alert that stands
anywhere else, such as one of a program or of a class, is passed over: the result has no place for
it.
-/

namespace ChangeTransport

open Step Xml

namespace Repository

/--
The verdict drawn from an accepted document fails exactly if an alert stands in the element of a
method.  A test run that comes to such a document stops there with failed tests, and asks for the
tests of no other package.
-/
theorem alert_of_method_stops_runAll
    (repository : Repository) (package : String) (received : Http.Reply) (result : RunResult)
    (accepted : repository.runResultIn (.reply received) = .ok result) :
    ∃ root, documentRoot? received.body = some root ∧
      ((result.verdict package).passed = true ↔
        root.descend (RunResult.methodPath ++ RunResult.alertPath) = []) ∧
      (result.verdict package).failedMethods =
        ((root.descend RunResult.methodPath).filter fun method =>
          !(method.descend RunResult.alertPath).isEmpty).length ∧
      ∀ (answers providerAnswers : List Http.Answer) (observer : Observer)
        (objects : List RepositoryObject) (token : Token) (index : Nat),
        repository.objectsIn
          (scriptedAnswer answers 0 (.get (repository.actionUrl "getObjects"))) = .ok objects →
        repository.tokenIn (scriptedAnswer answers 1 repository.tokenRequest) = .ok token →
        let packages := packageNames objects
        packages[index]? = some package →
        answers[2 + index]? = some (.reply received) →
        (∀ earlier < index, ∃ trial,
          (repository.trials token answers 2 packages)[earlier]? = some trial ∧
            trial.passed = true) →
        root.descend (RunResult.methodPath ++ RunResult.alertPath) ≠ [] →
        let run := runIn (.start (.ofScript answers) (.ofScript providerAnswers) observer)
          repository.runAll
        run.1 = .error (.unitTestsFailed package (result.verdict package).failedMethods) ∧
          run.2.system.sent =
            [.get (repository.actionUrl "getObjects"), repository.tokenRequest] ++
              (packages.take (index + 1)).map (repository.testRequest token) := by
  rcases Http.Answer.read_eq_ok_iff.mp accepted with ⟨reply, equal, success, decoded⟩
  cases equal
  rcases exists_documentRoot_of_decodeDocument (mapError_eq_ok_iff.mp decoded) with
    ⟨root, whole, meant⟩
  refine ⟨root, whole, ?_, ?_, ?_⟩
  · rw [RunResult.passed_verdict, beq_iff_eq]
    exact RunResult.failures_eq_zero_iff_descend meant
  · rw [RunResult.failedMethods_verdict, RunResult.failures_eq_countP meant,
      List.countP_eq_length_filter]
  · intro answers providerAnswers observer objects token index listed given packages here answered
      before alert run
    rcases repository.runIn_runAll
      (.start (.ofScript answers) (.ofScript providerAnswers) observer)
      (Line.ofScript_eq_scripted answers) with ⟨log, events, ended⟩
    simp only [listed, given] at ended
    have course : run = _ := ended
    have stop : (repository.trials token answers 2 packages)[index]? =
        some ⟨package, .ok result⟩ := by
      rw [trials, readings_getElem?, here, Option.map_some,
        scriptedAnswer_of_getElem? answered, accepted]
    have failing : result.failures ≠ 0 := by
      intro none
      exact alert ((RunResult.failures_eq_zero_iff_descend meant).mp none)
    have failed : Trial.passed ⟨package, .ok result⟩ = false := by
      rw [Trial.passed_read, beq_eq_false_iff_ne]
      exact failing
    rw [course]
    constructor
    · rw [map_eq_error_iff, RunResult.failedMethods_verdict]
      apply (repository.unitTestsFailed_of_trials_iff token answers 2 packages).mpr
      exact ⟨index, result, stop, before, List.countP_eq_length_filter,
        Nat.one_le_iff_ne_zero.mpr failing⟩
    · rw [Line.sent_scripted,
        repository.trialRequests_of_not_passed token answers 2 packages stop failed before]

/-! ## One package -/

/-- The answers to a test run of one package with the given result. -/
def answersOnePackage (document : String) : List Http.Answer :=
  [ .ofText "\x7b\"objects\":[\x7b\"object\":\"ZPKG\",\"type\":\"DEVC\"\x7d]\x7d",
    .reply ⟨200, [(Token.header, "t")], []⟩,
    .ofText document ]

/-- An alert of a method, and the test run that it stops. -/
theorem runAll_stopped_by_alert_of_method :
    let repository : Repository := .of "http://host:50000" "000" "demo"
    let document :=
      "<runResult><program><testClasses><testClass><testMethods><testMethod><alerts><alert/>" ++
        "</alerts></testMethod></testMethods></testClass></testClasses></program></runResult>"
    (runIn (.start (.ofScript (answersOnePackage document)) (.ofScript []) .ignoring)
        repository.runAll).1 = .error (.unitTestsFailed "ZPKG" 1) ∧
      (runIn (.start (.ofScript (answersOnePackage document)) (.ofScript []) .ignoring)
        repository.runAll).2.system.sent =
        [ .get (repository.actionUrl "getObjects"),
          repository.tokenRequest,
          repository.testRequest ⟨"t"⟩ "ZPKG" ] := by
  intro repository document
  let testMethod : TestMethod := { TestMethod.blank with alerts := [.blank] }
  let testClass : TestClass := { TestClass.blank with methods := [testMethod] }
  let result : RunResult := ⟨[{ TestProgram.blank with classes := [testClass] }]⟩
  have accepted : repository.runResultIn (.ofText document) = .ok result :=
    eq_ok_of_toOption (by decide +kernel)
  have listed : repository.objectsIn (scriptedAnswer (answersOnePackage document) 0
      (.get (repository.actionUrl "getObjects"))) = .ok [⟨"", "ZPKG", "DEVC", ""⟩] :=
    eq_ok_of_toOption (by decide +kernel)
  have given : repository.tokenIn (scriptedAnswer (answersOnePackage document) 1
      repository.tokenRequest) = .ok ⟨"t"⟩ :=
    eq_ok_of_toOption (by decide +kernel)
  rcases repository.alert_of_method_stops_runAll "ZPKG" _ result accepted with
    ⟨root, whole, passes, counted, stops⟩
  have failing : (result.verdict "ZPKG").passed = false := by decide
  have alert : root.descend (RunResult.methodPath ++ RunResult.alertPath) ≠ [] := by
    intro none
    rw [passes.mpr none] at failing
    cases failing
  exact stops (answersOnePackage document) [] .ignoring _ _ 0 listed given rfl rfl
    (fun earlier less => absurd less (Nat.not_lt_zero earlier)) alert

/-- An alert of a program and one of a class stop nothing. -/
theorem runAll_not_stopped_by_alert_of_program_or_class :
    let repository : Repository := .of "http://host:50000" "000" "demo"
    let document :=
      "<runResult><program><alerts><alert/></alerts><testClasses><testClass><alerts><alert/>" ++
        "</alerts></testClass></testClasses></program></runResult>"
    let received : Http.Reply := ⟨200, [], Text.Utf8.ofText document⟩
    let run := runIn
      (.start (.ofScript (answersOnePackage document)) (.ofScript []) .ignoring) repository.runAll
    ((documentRoot? received.body).map fun root =>
        ((root.descend ["program", "alerts", "alert"]).length,
          (root.descend ["program", "testClasses", "testClass", "alerts", "alert"]).length)) =
      some (1, 1) ∧
    ((repository.runResultIn (.reply received)).toOption.map fun result =>
        (result.verdict "ZPKG").passed) = some true ∧
    run.1.toOption = some ⟨[⟨"ZPKG", []⟩]⟩ := by
  decide +kernel

end Repository

end ChangeTransport
