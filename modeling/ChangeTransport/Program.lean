import ChangeTransport.CommandLine.Command
import ChangeTransport.Deploy.Deployer
import ChangeTransport.Http.Unreachable
import ChangeTransport.Log.Filter
import ChangeTransport.Log.Line
import ChangeTransport.Repository.Clone
import ChangeTransport.UnitTest.Run

/-!
# The program

The program reads its command line, carries out one command and prints one line about it.  If the
command fails, it says on the channel for errors what it was doing and why that has failed, and
ends with the status 1.

Where the program stands alone, both lines lead to a network on which nobody answers, and the
child process to which a rollback hands its deploy order is the program itself.
-/

namespace ChangeTransport

namespace CommandLine

/-- What a command is about, for the case that it fails. -/
def Command.context (repository : Repository) : Command → String
  | create _ => "Creating repository " ++ repository.name ++ " failed"
  | clone => "Cloning repository " ++ repository.name ++ " failed"
  | deploy _ => "Deploy commit failed"
  | rollback _ _ => "Rollback commit failed"
  | runUnitTests => "Execution of unit tests failed"

/-- What is printed about a repository that has been created. -/
def createdLine (repository : Repository) : CreateOutcome → String
  | .created => "Created repository " ++ repository.name
  | .alreadyExists => "Repository " ++ repository.name ++ " already exists"

/-- What is printed about a repository that has been cloned. -/
def clonedLine (repository : Repository) : CloneOutcome → String
  | .cloned => "Cloned repository " ++ repository.name
  | .alreadyCloned => "Repository " ++ repository.name ++ " was already cloned"

/-- What is printed about a deploy. -/
def deployedLine (repository : Repository) (outcome : DeployOutcome) : String :=
  "Deployed " ++ repository.name ++ " -> " ++ outcome.toCommit ++ " (previous commit " ++
    outcome.fromCommit ++ ")"

/-- What is printed about a rollback. -/
def rolledBackLine (repository : Repository) (target : RollbackTarget) : String :=
  "Rolled back " ++ repository.name ++ " -> " ++ target.commit ++ " (" ++
    target.strategy.name ++ ")"

/-- What is printed about a test run. -/
def testedLine (summary : RunSummary) : String :=
  "All unit tests passed: " ++ toString summary.packages.length ++ " package(s), " ++
    toString summary.totalMethods ++ " method(s)"

/-- Carry out a command: the line that is printed. -/
def Command.run (repository : Repository) (credentials : Credentials) (deployer : Deployer) :
    Command → Step String
  | create options => do pure (createdLine repository (← repository.create options))
  | clone => do pure (clonedLine repository (← repository.clone))
  | deploy commit => do pure (deployedLine repository (← repository.deploy commit))
  | rollback commit token => do
    let target ← repository.rollback credentials commit token deployer
    pure (rolledBackLine repository target)
  | runUnitTests => do pure (testedLine (← repository.runAll))

end CommandLine

namespace Program

open CommandLine

/-- Why a command has failed, and what it was about. -/
structure Failure where
  context : String
  error : Error
  deriving Repr, DecidableEq

namespace Failure

/-- The texts of a failure: what the command was about, and what has gone wrong. -/
def texts (failure : Failure) : List String := failure.context :: failure.error.texts

/-- The texts of a failure whose wording is fixed. -/
def wordedTexts (failure : Failure) : List String :=
  failure.context :: if failure.error.isWorded then failure.error.texts else []

/-- The lines of a text, each with blanks in front, the first one with something else. -/
def indented (first others : String) (text : String) : String :=
  match (Text.piecesAt '\n' text.toList).map String.ofList with
  | line :: lines => first ++ "\n".intercalate (line :: lines.map (fun line => others ++ line))
  | [] => first

/-- A number in five columns, and a colon. -/
def numberMark (number : Nat) : String :=
  let digits := (toString number).toList
  String.ofList (List.replicate (5 - digits.length) ' ' ++ digits) ++ ": "

/-- Causes in a report: a single one, or several with numbers. -/
def causes : List String → List String
  | [] => []
  | [cause] => [indented "    " "    " cause]
  | several => several.zipIdx.map (fun cause => indented (numberMark cause.2) "       " cause.1)

/-- A failure as it is reported to the user. -/
def report (failure : Failure) : String :=
  "Error: " ++ failure.context ++ "\n\nCaused by:\n" ++
    "\n".intercalate (causes failure.error.texts)

end Failure

/-- How a command has ended. -/
structure Ending where
  invocation : Invocation
  /-- The line printed, or the failure. -/
  result : Except Failure String
  world : World

/-- Carry out a command in a world. -/
def carryOut (world : World) (deployer : Deployer) (invocation : Invocation) : Ending :=
  let repository := invocation.connection.target
  let step :=
    invocation.command.run repository invocation.connection.credentials deployer
  let (result, world) := step.runIn world
  ⟨invocation, result.mapError (Failure.mk (invocation.command.context repository)), world⟩

/-- The lines that a command has printed. -/
def Ending.lines (ending : Ending) : List String :=
  match ending.result with
  | .ok line => [line]
  | .error _ => []

/-! ## The program alone -/

/-- The name under which the program is known. -/
def name : String := "gcts"

/-- The version of the program. -/
def version : String := "0.3.1"

/-- A line to a network on which nobody answers. -/
def deadLine : Line := ⟨.network Http.unreachable, []⟩

/-- The world in which the program stands alone. -/
def aloneWorld : World := .start deadLine deadLine .logging

/-- What a command line is refused with. -/
def refusalText : Refusal → String
  | .helpWanted => "Usage: " ++ name ++ " [OPTIONS] <COMMAND>\n"
  | .versionWanted => name ++ " " ++ version ++ "\n"
  | _ => ""

/-- The log of a command as it is written: the filter is set by the environment. -/
def Ending.logText (ending : Ending) (environment : Environment) : String :=
  let level : Log.Level := if ending.invocation.verbose then .debug else .info
  let filter := Log.Filter.ofSetting (environment.value? "RUST_LOG") level
  let entries := ending.world.log.filter (fun entry => filter.passes entry)
  let text := if ending.invocation.json then Log.Entry.object else Log.Entry.line
  String.join (entries.map (fun entry => text entry ++ "\n"))

/-- How the program ends, if its deploys are carried out as given. -/
def endingWith (deployer : Deployer) (environment : Environment) (words : List String) :
    Except Refusal Ending :=
  (CommandLine.read environment words).map (carryOut aloneWorld deployer)

/-- The end of a process that has carried out a command. -/
def exitOfEnding (environment : Environment) (ending : Ending) : Child.Exit :=
  match ending.result with
  | .ok line =>
    ⟨0, Text.Utf8.ofText (line ++ "\n"), Text.Utf8.ofText (ending.logText environment)⟩
  | .error failure =>
    ⟨1, [], Text.Utf8.ofText (ending.logText environment ++ failure.report ++ "\n")⟩

/-- The end of a process that has read its command line. -/
def exitOf (environment : Environment) : Except Refusal Ending → Child.Exit
  | .ok ending => exitOfEnding environment ending
  | .error refusal => ⟨refusal.status, Text.Utf8.ofText (refusalText refusal), []⟩

/-- The child process that carries out a deploy order; it has no child of its own. -/
def child (environment : Environment) (words : List String) : Child.Exit :=
  exitOf environment
    (endingWith (Deployer.failing (.deployFailed "no child process")) environment words)

/-- How the program ends. -/
def ending (environment : Environment) (words : List String) : Except Refusal Ending :=
  endingWith (Deployer.spawning name (fun words => .ok (child environment words)))
    environment words

/-- The end of the program as a process. -/
def exit (environment : Environment) (words : List String) : Child.Exit :=
  exitOf environment (ending environment words)

end Program

end ChangeTransport
