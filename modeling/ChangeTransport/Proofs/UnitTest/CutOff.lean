import ChangeTransport.Proofs.UnitTest.Course
import ChangeTransport.Proofs.Xml.RootEnd

/-!
# Results that are cut off

The lists of a result are empty where nothing stands in their place, so a reader that made do with a
part of a document would lose the methods behind it and pass the package.  No part in front of the
end of the root element is read: the tests of the package end with an error, and no method of it is
reported.
-/

namespace ChangeTransport

open Step Xml

/-- What is answered to a request does not depend on the events reported before. -/
theorem World.fst_exchange_report
    (world : World) (event : Event) (peer : Peer) (request : Http.Request) :
    ((world.report event).exchange peer request).1 = (world.exchange peer request).1 := by
  rcases world.exists_report event with ⟨log, events, reported⟩
  rw [reported]
  cases peer <;> rfl

/-- A request leaves the events as they are. -/
theorem World.events_exchange (world : World) (peer : Peer) (request : Http.Request) :
    (world.exchange peer request).2.events = world.events := by
  cases peer <;> rfl

namespace Repository

variable (repository : Repository)

/-- Where no result can be had, nothing is reported but that the tests have begun. -/
theorem runIn_runPackage_of_error
    (token : Token) (package : String) (world : World) {error : Error}
    (failed : repository.runResultIn
      (world.exchange .system (repository.testRequest token package)).1 = .error error) :
    runIn world (repository.runPackage token package) =
      (.error error,
        ((world.report (.packageStarted package)).exchange .system
          (repository.testRequest token package)).2) := by
  rw [runIn_runPackage, World.fst_exchange_report, failed]
  rfl

/--
A body out of which a result is read begins with a document that ends with its root element.  What
is cut off in front of that end is refused, and a package of which such a reply is all that is known
ends with that error: only the beginning of its tests is reported, and nothing of a method.
-/
theorem cut_off_result_yields_no_verdict
    {body : List UInt8} {result : RunResult}
    (decoded : Xml.decodeDocument RunResult.decoder RunResult.root body = .ok result) :
    ∃ document behind root,
      body = Text.Utf8.encode (document ++ behind) ∧ documentRoot? body = some root ∧
      EndsRoot document root ∧
      ∀ cut rest, Text.Utf8.encode document = cut ++ rest → rest ≠ [] →
        ∃ fault, Xml.decodeDocument RunResult.decoder RunResult.root cut = .error fault ∧
          ∀ (repository : Repository) (token : Token) (package : String) (world : World)
            (received : Http.Reply),
            let request := repository.testRequest token package
            let run := runIn world (repository.runPackage token package)
            (world.exchange .system request).1 = .reply received →
            received.isSuccess = true → received.body = cut →
            run = (.error (.xml fault),
                ((world.report (.packageStarted package)).exchange .system request).2) ∧
              run.2.events = (world.report (.packageStarted package)).events := by
  rcases exists_endsRoot_of_decodeDocument decoded with
    ⟨document, behind, root, spelled, found, ends, refusals⟩
  refine ⟨document, behind, root, spelled, found, ends, ?_⟩
  intro cut rest split proper
  rcases refusals cut rest split proper with ⟨fault, refused⟩
  refine ⟨fault, refused, ?_⟩
  intro repository token package world received request run answered success cutOff
  have failed : repository.runResultIn (world.exchange .system request).1 =
      .error (.xml fault) := by
    rw [answered, runResultIn, Http.Answer.read_of_success success,
      ChangeTransport.decodeDocument, cutOff, refused]
    rfl
  have course := repository.runIn_runPackage_of_error token package world failed
  refine ⟨course, ?_⟩
  unfold run
  rw [course, World.events_exchange]

/-- A method with an alert, cut off anywhere in front of the end of its document, is not passed. -/
theorem cut_off_alert_of_method_refused :
    let body := Text.Utf8.ofText <|
      "<?xml version='1.0'?><runResult><program><testClasses><testClass><testMethods>" ++
        "<testMethod><alerts><alert kind='«a>'/></alerts></testMethod></testMethods>" ++
        "</testClass></testClasses></program></runResult><!-- > -->"
    let alert : TestAlert := { TestAlert.blank with kind := "«a>" }
    let testMethod : TestMethod := { TestMethod.blank with alerts := [alert] }
    let testClass : TestClass := { TestClass.blank with methods := [testMethod] }
    let result : RunResult := ⟨[{ TestProgram.blank with classes := [testClass] }]⟩
    Xml.decodeDocument RunResult.decoder RunResult.root body = .ok result ∧
      ∃ document behind root,
        body = Text.Utf8.encode (document ++ behind) ∧ EndsRoot document root ∧
        ∀ cut rest, Text.Utf8.encode document = cut ++ rest → rest ≠ [] →
          ∃ fault, Xml.decodeDocument RunResult.decoder RunResult.root cut = .error fault := by
  intro body alert testMethod testClass result
  have decoded : Xml.decodeDocument RunResult.decoder RunResult.root body = .ok result :=
    eq_ok_of_toOption (by decide +kernel)
  refine ⟨decoded, ?_⟩
  rcases cut_off_result_yields_no_verdict decoded with
    ⟨document, behind, root, spelled, -, ends, refusals⟩
  refine ⟨document, behind, root, spelled, ends, ?_⟩
  intro cut rest split proper
  rcases refusals cut rest split proper with ⟨fault, refused, -⟩
  exact ⟨fault, refused⟩

end Repository

end ChangeTransport
