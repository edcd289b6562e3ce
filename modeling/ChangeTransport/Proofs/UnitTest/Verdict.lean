import ChangeTransport.UnitTest.Result

/-!
# Verdicts on packages

The verdict on a package speaks of all methods of the result, in their order.  It passes exactly if
none of them has raised an alert.
-/

namespace ChangeTransport

namespace TestMethod

/-- Whether a method has raised an alert. -/
def failed (method : TestMethod) : Bool := !method.alerts.isEmpty

@[simp]
theorem passed_outcome (program testClass : String) (method : TestMethod) :
    (method.outcome program testClass).passed = !method.failed := by
  simp [outcome, MethodOutcome.passed, failed]

end TestMethod

namespace RunResult

/-- The methods of a result, in their order. -/
def methods (result : RunResult) : List TestMethod :=
  result.programs.flatMap fun program => program.classes.flatMap TestClass.methods

/-- How many methods of a result have raised an alert. -/
def failures (result : RunResult) : Nat := result.methods.countP TestMethod.failed

variable (result : RunResult)

/-- The methods that have not passed are those that have raised an alert. -/
theorem failedMethods_verdict (package : String) :
    (result.verdict package).failedMethods = result.failures := by
  have ofClass (program : String) (testClass : TestClass) :
      (testClass.outcomes program).countP (fun outcome => !outcome.passed) =
        testClass.methods.countP TestMethod.failed := by
    simp [TestClass.outcomes, List.countP_map, Function.comp_def]
  simp [PackageVerdict.failedMethods, verdict, outcomes, failures, methods,
    TestProgram.outcomes, ← List.countP_eq_length_filter, List.countP_flatMap,
    Function.comp_def, ofClass]

theorem failures_eq_zero_iff :
    result.failures = 0 ↔ ∀ method ∈ result.methods, method.alerts = [] := by
  simp [failures, List.countP_eq_zero, TestMethod.failed]

/-- A verdict passes exactly if no method has raised an alert. -/
theorem passed_verdict (package : String) :
    (result.verdict package).passed = (result.failures == 0) := by
  rw [PackageVerdict.passed, failedMethods_verdict]

end RunResult

end ChangeTransport
