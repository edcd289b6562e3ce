import ChangeTransport.UnitTest.Document
import ChangeTransport.Proofs.UnitTest.Verdict
import ChangeTransport.Proofs.Xml.Record

/-!
# What a result says about its document

The programs, classes, methods and alerts of a result are read from the elements to which one path
of names leads, all of them and in their order.
-/

namespace ChangeTransport

open Xml

theorem mapM_of_wrapped {α : Type}
    {name : String} {item : Decoder α} {element : Element} {items : List α}
    (decoded : wrapped name item element = .ok items) :
    (element.descend [name]).mapM item = .ok items := by
  rw [Element.descend_singleton]
  change (element.childrenNamed name).mapM item = .ok (id items)
  refine Decoder.record_list (Xml.Field.decides_last [] ?_ ?_) (fun _ _ => rfl) rfl decoded
  · intro set impossible
    cases impossible
  · intro field member
    cases member

/-- A list in an element of its own that is the last field of a record. -/
theorem mapM_of_last {ρ α : Type}
    {front : List (Xml.Field ρ)} {outer inner : String} {item : Decoder α}
    {set : List α → ρ → ρ} {view : ρ → List α} {default record : ρ} {element : Element}
    (others : ∀ field ∈ front, outer ∉ field.names ∧ field.value.Keeps view)
    (sets : ∀ items record, view (set items record) = items)
    (blank : view default = [])
    (decoded : Decoder.record (front ++ [.element outer (wrapped inner item) set]) default element =
      .ok record) :
    (element.descend [outer, inner]).mapM item = .ok (view record) := by
  refine Decoder.record_element (Xml.Field.decides_last front ?_ others) sets
    (fun _ _ => mapM_of_wrapped) blank decoded
  intro set impossible
  cases impossible

/-- The alerts of a method are read from all elements to which the path leads. -/
theorem TestMethod.mapM_alerts
    {element : Element} {method : TestMethod}
    (decoded : decoder element = .ok method) :
    (element.descend ["alerts", "alert"]).mapM TestAlert.decoder = .ok method.alerts := by
  have others : ∀ field ∈ fields.dropLast,
      "alerts" ∉ field.names ∧ field.value.Keeps TestMethod.alerts := by
    simp [fields, Xml.Field.inTag, Xml.Field.inTagPrefixed, corePrefix, FieldValue.Keeps]
  exact mapM_of_last others (fun _ _ => rfl) rfl decoded

/-- The methods of a class are read from all elements to which the path leads. -/
theorem TestClass.mapM_methods
    {element : Element} {testClass : TestClass}
    (decoded : decoder element = .ok testClass) :
    (element.descend ["testMethods", "testMethod"]).mapM TestMethod.decoder =
      .ok testClass.methods := by
  have others : ∀ field ∈ fields.dropLast,
      "testMethods" ∉ field.names ∧ field.value.Keeps TestClass.methods := by
    simp [fields, Xml.Field.inTag, Xml.Field.inTagPrefixed, corePrefix, FieldValue.Keeps]
  exact mapM_of_last others (fun _ _ => rfl) rfl decoded

/-- The classes of a program are read from all elements to which the path leads. -/
theorem TestProgram.mapM_classes
    {element : Element} {program : TestProgram}
    (decoded : decoder element = .ok program) :
    (element.descend ["testClasses", "testClass"]).mapM TestClass.decoder =
      .ok program.classes := by
  have others : ∀ field ∈ fields.dropLast,
      "testClasses" ∉ field.names ∧ field.value.Keeps TestProgram.classes := by
    simp [fields, Xml.Field.inTagPrefixed, corePrefix, FieldValue.Keeps]
  exact mapM_of_last others (fun _ _ => rfl) rfl decoded

namespace RunResult

/-- The programs of a result are read from all elements of their name. -/
theorem mapM_programs
    {element : Element} {result : RunResult}
    (decoded : decoder element = .ok result) :
    (element.descend ["program"]).mapM TestProgram.decoder = .ok result.programs := by
  rw [Element.descend_singleton]
  refine Decoder.record_list (Xml.Field.decides_last [] ?_ ?_) (fun _ _ => rfl) rfl decoded
  · intro set impossible
    cases impossible
  · intro field member
    cases member

/-- The names that lead from the root of a document to the methods. -/
def methodPath : List String :=
  ["program"] ++ (["testClasses", "testClass"] ++ ["testMethods", "testMethod"])

/-- The methods of a result are read from all elements to which the path leads. -/
theorem mapM_methods
    {root : Element} {result : RunResult}
    (decoded : decoder root = .ok result) :
    (root.descend methodPath).mapM TestMethod.decoder = .ok result.methods := by
  unfold methodPath methods
  rw [Element.descend_append]
  refine mapM_flatMap_eq_ok ?_ (mapM_programs decoded)
  intro program read found
  rw [Element.descend_append]
  refine mapM_flatMap_eq_ok ?_ (TestProgram.mapM_classes found)
  intro testClass read found
  exact TestClass.mapM_methods found

/-- The names that lead from a method to its alerts. -/
def alertPath : List String := ["alerts", "alert"]

/-- The methods that have raised an alert are the elements in which one stands. -/
theorem failures_eq_countP
    {root : Element} {result : RunResult}
    (decoded : decoder root = .ok result) :
    result.failures =
      (root.descend methodPath).countP fun method => !(method.descend alertPath).isEmpty := by
  refine (countP_eq_of_mapM ?_ (mapM_methods decoded)).symm
  intro element method found
  have same : (element.descend alertPath).length = method.alerts.length := by
    have lengths := congrArg List.length (mapM_eq_ok_iff.mp (TestMethod.mapM_alerts found))
    rwa [List.length_map, List.length_map] at lengths
  have alike : (element.descend alertPath).isEmpty = method.alerts.isEmpty := by
    rw [Bool.eq_iff_iff, List.isEmpty_iff_length_eq_zero, List.isEmpty_iff_length_eq_zero, same]
  rw [TestMethod.failed, alike]

/-- No method has raised an alert exactly if no alert stands in the element of a method. -/
theorem failures_eq_zero_iff_descend
    {root : Element} {result : RunResult}
    (decoded : decoder root = .ok result) :
    result.failures = 0 ↔ root.descend (methodPath ++ alertPath) = [] := by
  rw [failures_eq_countP decoded, List.countP_eq_zero, Element.descend_append,
    List.flatMap_eq_nil_iff]
  simp

end RunResult

end ChangeTransport
