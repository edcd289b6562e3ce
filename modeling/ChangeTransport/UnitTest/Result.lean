import ChangeTransport.Progress

/-!
# Results of test runs

The result of a run is a tree: programs hold test classes, these hold test methods, and a method
holds the alerts that it has raised.  The verdict on a package is drawn from the methods alone.
-/

namespace ChangeTransport

/-- The details of an alert, in their order; a detail may have details of its own. -/
inductive Details where
  | done
  | plain (text : String) (rest : Details)
  | nested (text : String) (inner rest : Details)
  deriving Repr, DecidableEq

/-- Details in front of others: a text, and its own details if it has any. -/
def Details.cons (text : String) (inner : Option Details) (rest : Details) : Details :=
  match inner with
  | some inner => .nested text inner rest
  | none => .plain text rest

/-- Something that a test method has raised. -/
structure TestAlert where
  kind : String
  severity : String
  title : String
  details : Details
  deriving Repr, DecidableEq

/-- A test method that has been run. -/
structure TestMethod where
  name : String
  uri : String
  executionTime : String
  unit : String
  alerts : List TestAlert
  deriving Repr, DecidableEq

/-- A class of test methods. -/
structure TestClass where
  name : String
  uri : String
  riskLevel : String
  durationCategory : String
  methods : List TestMethod
  deriving Repr, DecidableEq

/-- A program with test classes. -/
structure TestProgram where
  name : String
  uri : String
  kind : String
  classes : List TestClass
  deriving Repr, DecidableEq

/-- The result of a test run. -/
structure RunResult where
  programs : List TestProgram
  deriving Repr, DecidableEq

/-- What a method of a class of a program has come to. -/
def TestMethod.outcome (program testClass : String) (method : TestMethod) : MethodOutcome :=
  ⟨program, testClass, method.name, method.alerts.map TestAlert.title⟩

/-- What the methods of a class have come to. -/
def TestClass.outcomes (program : String) (testClass : TestClass) : List MethodOutcome :=
  testClass.methods.map (TestMethod.outcome program testClass.name)

/-- What the methods of a program have come to. -/
def TestProgram.outcomes (program : TestProgram) : List MethodOutcome :=
  program.classes.flatMap (TestClass.outcomes program.name)

namespace RunResult

/-- What all methods have come to, in their order. -/
def outcomes (result : RunResult) : List MethodOutcome :=
  result.programs.flatMap TestProgram.outcomes

/-- The verdict on a package. -/
def verdict (result : RunResult) (package : String) : PackageVerdict :=
  ⟨package, result.outcomes⟩

end RunResult

end ChangeTransport
