import ChangeTransport.Log.Entry
import ChangeTransport.Text.Quoted

/-!
# Progress

A rollback and a test run report their progress as events.  An observer keeps the events, writes
them to the log or ignores them.
-/

namespace ChangeTransport

/-- How the commit to roll back to is found. -/
inductive Strategy where
  /-- The commit has been given. -/
  | explicit
  /-- The newest commit with a successful status on the hosting provider. -/
  | commitStatus
  /-- The commit from which the latest transport came. -/
  | history
  deriving Repr, DecidableEq

/-- The name of a strategy. -/
def Strategy.name : Strategy → String
  | explicit => "explicit"
  | commitStatus => "commit_status"
  | history => "history"

/-- What a test method has come to. -/
structure MethodOutcome where
  program : String
  testClass : String
  method : String
  /-- The titles of the alerts. -/
  alerts : List String
  deriving Repr, DecidableEq

/-- A method without alerts has passed. -/
def MethodOutcome.passed (outcome : MethodOutcome) : Bool := outcome.alerts.isEmpty

/-- What the test methods of a package have come to. -/
structure PackageVerdict where
  package : String
  methods : List MethodOutcome
  deriving Repr, DecidableEq

/-- How many methods have not passed. -/
def PackageVerdict.failedMethods (verdict : PackageVerdict) : Nat :=
  (verdict.methods.filter (fun outcome => !outcome.passed)).length

/-- Whether all methods have passed. -/
def PackageVerdict.passed (verdict : PackageVerdict) : Bool := verdict.failedMethods == 0

/-- A point that a rollback or a test run has reached. -/
inductive Event where
  | strategySelected (repository : String) (strategy : Strategy)
  | commitStatus (commit state : String)
  | commitResolved (repository commit : String) (strategy : Strategy)
  | packageStarted (package : String)
  | methodResult (package : String) (outcome : MethodOutcome)
  | packageFinished (verdict : PackageVerdict)
  deriving Repr, DecidableEq

namespace Event

/-- The name of an event in the log. -/
def name : Event → String
  | strategySelected _ _ => "rollback.strategy_selected"
  | commitStatus _ _ => "rollback.commit_status"
  | commitResolved _ _ _ => "rollback.commit_resolved"
  | packageStarted _ => "aunit.package_started"
  | methodResult _ _ => "aunit.method_result"
  | packageFinished _ => "aunit.package_finished"

/-- What the log says about an event, besides its name. -/
def fields : Event → List Log.Field
  | strategySelected repository strategy =>
    [.shown "repository" repository, .shown "strategy" strategy.name]
  | commitStatus commit state => [.shown "commit" commit, .shown "state" state]
  | commitResolved repository commit strategy =>
    [.shown "repository" repository, .shown "commit" commit, .shown "strategy" strategy.name]
  | packageStarted package => [.shown "package" package]
  | methodResult package outcome =>
    [.shown "package" package, .shown "program" outcome.program,
      .shown "class" outcome.testClass, .shown "method" outcome.method] ++
      if outcome.passed then [] else [.shown "alerts" (Text.quoteAll outcome.alerts)]
  | packageFinished verdict =>
    [.shown "package" verdict.package, .number "methods" verdict.methods.length,
      .number "failed" verdict.failedMethods, .flag "passed" verdict.passed]

/-- The text of an event in the log. -/
def text? : Event → Option String
  | methodResult _ outcome =>
    some (outcome.method ++ if outcome.passed then " - ok" else " - error")
  | _ => none

/-- How much an event matters. -/
def level : Event → Log.Level
  | methodResult _ outcome => if outcome.passed then .info else .error
  | _ => .info

/-- An event as a log entry. -/
def entry (event : Event) : Log.Entry :=
  ⟨event.level, .progress, event.text?, ("event", .quoted event.name) :: event.fields⟩

end Event

/-- What is done with events. -/
inductive Observer where
  | recording
  | ignoring
  | logging
  deriving Repr, DecidableEq

end ChangeTransport
