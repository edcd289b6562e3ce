import ChangeTransport.UnitTest.Configuration
import ChangeTransport.UnitTest.Document
import ChangeTransport.UnitTest.Package
import ChangeTransport.UnitTest.Token

/-!
# Test runs

The unit tests of a repository are run package by package, in the order in which the packages are
listed.  Every method of a package is reported; the run ends at the first package with a method
that has not passed.
-/

namespace ChangeTransport

/-- The verdicts on all packages that have been run. -/
structure RunSummary where
  packages : List PackageVerdict
  deriving Repr, DecidableEq

/-- How many methods have been run. -/
def RunSummary.totalMethods (summary : RunSummary) : Nat :=
  (summary.packages.flatMap PackageVerdict.methods).length

/-- The type of the documents that a test run is asked for with. -/
def testRunType : String := "application/vnd.sap.adt.abapunit.testruns.result.v1+xml"

/-- Read a body whose root element must have the given name. -/
def decodeDocument {α : Type} (decoder : Xml.Decoder α) (root : String) (reply : Http.Reply) :
    Except Error α :=
  (Xml.decodeDocument decoder root reply.body).mapError Error.xml

namespace Repository

/-- The request for a run of the tests of a package. -/
def testRequest (repository : Repository) (token : Token) (package : String) : Http.Request :=
  (Http.Request.post (repository.toolUrl "abapunit/testruns")).withHeader Token.header token.text
    |>.withHeader "Accept" "application/xml"
    |>.withHeader "Content-Type" testRunType
    |>.withBody (runConfiguration package)

/-- Report a verdict: every method, and then the package. -/
def reportVerdict (verdict : PackageVerdict) : Step Unit := do
  verdict.methods.forM (fun outcome => Step.report (.methodResult verdict.package outcome))
  Step.report (.packageFinished verdict)

/-- Run the tests of a package. -/
def runPackage (repository : Repository) (token : Token) (package : String) :
    Step PackageVerdict := do
  Step.report (.packageStarted package)
  let reply ← Step.exchange .system (repository.testRequest token package)
  let result ← Step.ofExcept (decodeDocument RunResult.decoder RunResult.root reply)
  let verdict := result.verdict package
  reportVerdict verdict
  pure verdict

/-- Run the tests of packages, one after the other, up to the first that does not pass. -/
def runPackages (repository : Repository) (token : Token) : List String → Step (List PackageVerdict)
  | [] => pure []
  | package :: packages => do
    let verdict ← repository.runPackage token package
    if verdict.passed then
      let verdicts ← repository.runPackages token packages
      pure (verdict :: verdicts)
    else
      throw (.unitTestsFailed verdict.package verdict.failedMethods)

/-- Run the tests of all packages of a repository. -/
def runAll (repository : Repository) : Step RunSummary := do
  let packages ← repository.fetchPackages
  let token ← repository.fetchToken
  let summary : RunSummary := ⟨← repository.runPackages token packages⟩
  Step.log ⟨.info, .testRun, some "all unit tests were successful",
    [.shown "repository" repository.name, .number "packages" summary.packages.length,
      .number "methods" summary.totalMethods]⟩
  pure summary

end Repository

end ChangeTransport
