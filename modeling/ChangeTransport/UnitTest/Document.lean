import ChangeTransport.UnitTest.Result
import ChangeTransport.Xml.Decoder

/-!
# Documents of test runs

How the result of a test run is read from the document in which the system sends it.
-/

namespace ChangeTransport

/-- A detail as it is read: its text, and its own details if it has any. -/
structure Detail where
  text : String
  inner : Option Details
  deriving Repr, DecidableEq

/-- Details out of a list. -/
def Details.ofList (details : List Detail) : Details :=
  details.foldr (fun detail rest => .cons detail.text detail.inner rest) .done

/-- The fields of a detail, whose own details are read as given. -/
def Detail.fields (inner : Xml.Decoder Details) : List (Xml.Field Detail) :=
  [ .inTag "text" (fun value detail => { detail with text := value }),
    .element "details" inner (fun value detail => { detail with inner := some value }) ]

/-- How details are read whose elements are nested at most `depth` deep. -/
def Details.decoderWithin : (depth : Nat) → Xml.Decoder Details
  | 0 => .record [] .done
  | depth + 1 =>
    .record
      [.list "detail" (.record (Detail.fields (Details.decoderWithin depth)) ⟨"", none⟩)
        (fun details _ => .ofList details)]
      .done

/-- How details are read. -/
def Details.decoder : Xml.Decoder Details := fun element =>
  Details.decoderWithin element.depth element

/-- A list of elements with one name inside an element of its own. -/
def wrapped {α : Type} (name : String) (item : Xml.Decoder α) : Xml.Decoder (List α) :=
  .record [.list name item (fun items _ => items)] []

namespace TestAlert

/-- An alert that says nothing. -/
def blank : TestAlert := ⟨"", "", "", .done⟩

/-- The fields of an alert. -/
def fields : List (Xml.Field TestAlert) :=
  [ .inTag "kind" (fun value alert => { alert with kind := value }),
    .inTag "severity" (fun value alert => { alert with severity := value }),
    .text "title" (fun value alert => { alert with title := value }),
    .element "details" Details.decoder (fun value alert => { alert with details := value }) ]

/-- How an alert is read. -/
def decoder : Xml.Decoder TestAlert := .record fields blank

end TestAlert

/-- The prefix under which the names of tested things are known. -/
def corePrefix : String := "adtcore"

namespace TestMethod

/-- A method that says nothing. -/
def blank : TestMethod := ⟨"", "", "", "", []⟩

/-- The fields of a method. -/
def fields : List (Xml.Field TestMethod) :=
  [ .inTagPrefixed corePrefix "name" (fun value method => { method with name := value }),
    .inTagPrefixed corePrefix "uri" (fun value method => { method with uri := value }),
    .inTag "executionTime" (fun value method => { method with executionTime := value }),
    .inTag "unit" (fun value method => { method with unit := value }),
    .element "alerts" (wrapped "alert" TestAlert.decoder)
      (fun value method => { method with alerts := value }) ]

/-- How a method is read. -/
def decoder : Xml.Decoder TestMethod := .record fields blank

end TestMethod

namespace TestClass

/-- A class that says nothing. -/
def blank : TestClass := ⟨"", "", "", "", []⟩

/-- The fields of a class. -/
def fields : List (Xml.Field TestClass) :=
  [ .inTagPrefixed corePrefix "name" (fun value testClass => { testClass with name := value }),
    .inTagPrefixed corePrefix "uri" (fun value testClass => { testClass with uri := value }),
    .inTag "riskLevel" (fun value testClass => { testClass with riskLevel := value }),
    .inTag "durationCategory"
      (fun value testClass => { testClass with durationCategory := value }),
    .element "testMethods" (wrapped "testMethod" TestMethod.decoder)
      (fun value testClass => { testClass with methods := value }) ]

/-- How a class is read. -/
def decoder : Xml.Decoder TestClass := .record fields blank

end TestClass

namespace TestProgram

/-- A program that says nothing. -/
def blank : TestProgram := ⟨"", "", "", []⟩

/-- The fields of a program. -/
def fields : List (Xml.Field TestProgram) :=
  [ .inTagPrefixed corePrefix "name" (fun value program => { program with name := value }),
    .inTagPrefixed corePrefix "uri" (fun value program => { program with uri := value }),
    .inTagPrefixed corePrefix "type" (fun value program => { program with kind := value }),
    .element "testClasses" (wrapped "testClass" TestClass.decoder)
      (fun value program => { program with classes := value }) ]

/-- How a program is read. -/
def decoder : Xml.Decoder TestProgram := .record fields blank

end TestProgram

/-- How the result of a test run is read. -/
def RunResult.decoder : Xml.Decoder RunResult :=
  .record [.list "program" TestProgram.decoder (fun programs _ => ⟨programs⟩)] ⟨[]⟩

/-- The name of the root element of the result of a test run. -/
def RunResult.root : String := "runResult"

end ChangeTransport
