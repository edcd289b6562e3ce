import ChangeTransport.Proofs.UnitTest.Document
import ChangeTransport.Proofs.Xml.ListNames
import ChangeTransport.Proofs.Xml.Opening

/-!
# Results in other spellings

Another layout of the document of a test run makes no difference to its result, and other prefixes
make none as long as the items of each list keep one full name.  Where the items of a list have
different ones, the document is refused.
-/

namespace ChangeTransport

open Xml

/-- An element around a list heeds the full name of its items, and the lists in them. -/
theorem heeds_of_wrapped {α : Type} {item : Decoder α} {lists : List String → String → Prop}
    (heeds : item.Heeds (Element.OneNamedIn lists)) (name : String) :
    (wrapped name item).Heeds (Element.OneNamedIn (ListsOf name lists)) :=
  heeds_of_list heeds (fun items _ => items) []

/-! ## Details -/

namespace Details

/-- The lists in details: they may stand inside each other any number of times. -/
inductive HoldsList : List String → String → Prop
  | here : HoldsList [] "detail"
  | inside {path : List String} {item : String} (list : HoldsList path item) :
      HoldsList ("detail" :: "details" :: path) item

/-- The lists in details that are read to a depth. -/
def HoldsListWithin : (depth : Nat) → List String → String → Prop
  | 0 => fun _ _ => False
  | depth + 1 => ListsOf "detail" (ListsInside "details" (HoldsListWithin depth))

theorem decoderWithin_heeds (depth : Nat) :
    (decoderWithin depth).Heeds (Element.OneNamedIn (HoldsListWithin depth)) := by
  induction depth with
  | zero =>
      have none : ∀ name index (field : Xml.Field Details),
          Xml.Field.find? [] name = some (index, field) → field.value.Heeds fun _ => True := by
        intro name index field found
        cases found
      refine (Decoder.record_heeds done none).congr ?_
      intro element
      refine ⟨fun _ path item impossible => impossible.elim, ?_⟩
      intro _ name index field found
      cases found
  | succ depth induction =>
      have texts : AreTexts "details"
          [Xml.Field.inTag "text"
            fun value (detail : Detail) => { detail with text := value }] := by
        simp [AreTexts, Xml.Field.inTag]
      have item := heeds_of_lastElement texts induction
        (fun value (detail : Detail) => { detail with inner := some value }) ⟨"", none⟩
      exact heeds_of_list item (fun details _ => ofList details) done

theorem holdsList_iff {path : List String} {item : String} :
    HoldsList path item ↔ ListsOf "detail" (ListsInside "details" HoldsList) path item := by
  constructor
  · rintro (_ | list)
    · exact .here
    · exact .inside (.inside list)
  · rintro (_ | ⟨⟨list⟩⟩)
    · exact .here
    · exact .inside list

/-- The lists in details are those that are read, since nothing stands deeper than it is deep. -/
theorem oneNamedIn_within_iff {element : Element} {depth : Nat} (deep : element.depth ≤ depth) :
    element.OneNamedIn (HoldsListWithin depth) ↔ element.OneNamedIn HoldsList := by
  have unfolded : HoldsList = ListsOf "detail" (ListsInside "details" HoldsList) := by
    funext path item
    exact propext holdsList_iff
  induction depth generalizing element with
  | zero =>
      have childless (child : Element) : child ∉ element.childrenNamed "detail" := by
        intro held
        exact absurd (Nat.lt_of_lt_of_le (Element.depth_lt_of_mem_childrenNamed held) deep)
          (Nat.not_lt_zero _)
      refine ⟨fun _ => ?_, fun _ path item impossible => impossible.elim⟩
      rw [unfolded, oneNamedIn_of_iff]
      exact ⟨fun child held => absurd held (childless child),
        fun child held => absurd held (childless child)⟩
  | succ depth induction =>
      rw [unfolded, HoldsListWithin, oneNamedIn_of_iff, oneNamedIn_of_iff]
      refine and_congr_left fun _ => forall₂_congr fun detail held => ?_
      rw [oneNamedIn_inside_iff, oneNamedIn_inside_iff]
      refine forall₂_congr fun details held' => induction ?_
      have shallow := Element.depth_lt_of_mem_childrenNamed held
      have shallower := Element.depth_lt_of_mem_childrenNamed held'
      omega

theorem decoder_heeds : decoder.Heeds (Element.OneNamedIn HoldsList) := by
  constructor
  · intro element value decoded
    exact (oneNamedIn_within_iff (Nat.le_refl _)).mp
      ((decoderWithin_heeds element.depth).shows decoded)
  · intro element other value alike decoded named
    unfold decoder at decoded ⊢
    rw [← alike.depth_eq]
    refine (decoderWithin_heeds element.depth).follows alike decoded ?_
    exact (oneNamedIn_within_iff (Nat.le_of_eq alike.depth_eq.symm)).mpr named

end Details

/-! ## Results -/

theorem TestAlert.decoder_heeds :
    decoder.Heeds (Element.OneNamedIn (ListsInside "details" Details.HoldsList)) := by
  have texts : AreTexts "details" fields.dropLast := by
    simp [AreTexts, fields, Xml.Field.inTag, Xml.Field.text]
  exact heeds_of_lastElement texts Details.decoder_heeds
    (fun value alert => { alert with details := value }) blank

/-- The lists in the element of a method. -/
def TestMethod.HoldsList : List String → String → Prop :=
  ListsInside "alerts" (ListsOf "alert" (ListsInside "details" Details.HoldsList))

theorem TestMethod.decoder_heeds : decoder.Heeds (Element.OneNamedIn HoldsList) := by
  have texts : AreTexts "alerts" fields.dropLast := by
    simp [AreTexts, fields, Xml.Field.inTag, Xml.Field.inTagPrefixed, corePrefix]
  exact heeds_of_lastElement texts (heeds_of_wrapped TestAlert.decoder_heeds "alert")
    (fun value method => { method with alerts := value }) blank

/-- The lists in the element of a class. -/
def TestClass.HoldsList : List String → String → Prop :=
  ListsInside "testMethods" (ListsOf "testMethod" TestMethod.HoldsList)

theorem TestClass.decoder_heeds : decoder.Heeds (Element.OneNamedIn HoldsList) := by
  have texts : AreTexts "testMethods" fields.dropLast := by
    simp [AreTexts, fields, Xml.Field.inTag, Xml.Field.inTagPrefixed, corePrefix]
  exact heeds_of_lastElement texts (heeds_of_wrapped TestMethod.decoder_heeds "testMethod")
    (fun value testClass => { testClass with methods := value }) blank

/-- The lists in the element of a program. -/
def TestProgram.HoldsList : List String → String → Prop :=
  ListsInside "testClasses" (ListsOf "testClass" TestClass.HoldsList)

theorem TestProgram.decoder_heeds : decoder.Heeds (Element.OneNamedIn HoldsList) := by
  have texts : AreTexts "testClasses" fields.dropLast := by
    simp [AreTexts, fields, Xml.Field.inTagPrefixed, corePrefix]
  exact heeds_of_lastElement texts (heeds_of_wrapped TestClass.decoder_heeds "testClass")
    (fun value program => { program with classes := value }) blank

namespace RunResult

/--
The lists in the document of a test run: the names that lead from the root to the elements around
them, and the name of their items.
-/
inductive HoldsList : List String → String → Prop
  | programs : HoldsList [] "program"
  | classes : HoldsList ["program", "testClasses"] "testClass"
  | methods : HoldsList ["program", "testClasses", "testClass", "testMethods"] "testMethod"
  | alerts : HoldsList (methodPath ++ ["alerts"]) "alert"
  | details {path : List String} {item : String} (list : Details.HoldsList path item) :
      HoldsList (methodPath ++ alertPath ++ "details" :: path) item

theorem holdsList_iff {path : List String} {item : String} :
    HoldsList path item ↔ ListsOf "program" TestProgram.HoldsList path item := by
  constructor
  · rintro (_ | _ | _ | _ | list)
    · exact .here
    · exact .inside (.inside .here)
    · exact .inside (.inside (.inside (.inside .here)))
    · exact .inside (.inside (.inside (.inside (.inside (.inside .here)))))
    · exact .inside (.inside (.inside (.inside (.inside (.inside (.inside (.inside list)))))))
  · rintro (_ | ⟨_ | ⟨⟨_ | ⟨⟨_ | ⟨⟨list⟩⟩⟩⟩⟩⟩⟩)
    · exact .programs
    · exact .classes
    · exact .methods
    · exact .alerts
    · exact .details list

/-- The items of every list in a document have one full name, with their prefix. -/
def IsOneNamed (root : Element) : Prop := root.OneNamedIn HoldsList

theorem decoder_heeds : decoder.Heeds IsOneNamed := by
  have lists : HoldsList = ListsOf "program" TestProgram.HoldsList := by
    funext path item
    exact propext holdsList_iff
  unfold IsOneNamed
  rw [lists]
  exact heeds_of_list TestProgram.decoder_heeds
    (fun programs (_ : RunResult) => (⟨programs⟩ : RunResult)) ⟨[]⟩

/--
A document of a test run that is accepted is accepted with the same result in every other layout,
and with any other prefixes of attributes.  With other prefixes of elements it is accepted, and then
with the same result, exactly if the items of each of its lists still have one full name.
-/
theorem other_spellings_accepted_iff_oneNamed {document : List Char} {result : RunResult}
    (decoded : Xml.decodeDocument decoder root (Text.Utf8.encode document) = .ok result) :
    (∀ other, Relation.EqvGen Relaid document other →
      Xml.decodeDocument decoder root (Text.Utf8.encode other) = .ok result) ∧
      ∀ other, Relation.EqvGen Respelled document other →
        ∃ element, documentRoot? (Text.Utf8.encode other) = some element ∧
          ((IsOneNamed element ∧
              Xml.decodeDocument decoder root (Text.Utf8.encode other) = .ok result) ∨
            (¬ IsOneNamed element ∧
              ∃ fault, Xml.decodeDocument decoder root (Text.Utf8.encode other) =
                .error fault)) := by
  rcases exists_documentRoot_of_decodeDocument decoded with ⟨element, found, read⟩
  have named : String.ofList element.localName = root := by
    rcases decodeDocument_of_root decoder found with ⟨named, -⟩ | ⟨-, fault, refused⟩
    · exact named
    · rw [refused] at decoded
      cases decoded
  have rooted {other : List Char} {element' : Element}
      (found' : documentRoot? (Text.Utf8.encode other) = some element')
      (alike : element.Alike element') :
      Xml.decodeDocument decoder root (Text.Utf8.encode other) = decoder element' := by
    rcases decodeDocument_of_root decoder found' with ⟨-, same⟩ | ⟨other, -⟩
    · exact same
    · exact absurd (alike.localName_eq ▸ named) other
  constructor
  · intro other steps
    rcases exists_documentRoot_of_eqvGen Relaid.alike_built steps found with
      ⟨element', found', same⟩
    -- a layout leaves full names alone, so the items of a list keep the one they had
    have alike : element.Alike element' :=
      Element.outline_eq_of_outline keyed (fun same => congrArg Prod.snd same) same
    rw [rooted found' alike]
    exact decoder_heeds.follows alike read (oneNamedIn_of_keyed same (decoder_heeds.shows read))
  · intro other steps
    rcases exists_documentRoot_of_eqvGen Respelled.alike_built steps found with
      ⟨element', found', alike⟩
    refine ⟨element', found', ?_⟩
    rw [rooted found' alike]
    -- other prefixes leave local names alone, and no more than these
    by_cases oneNamed : IsOneNamed element'
    · exact .inl ⟨oneNamed, decoder_heeds.follows alike read oneNamed⟩
    · refine .inr ⟨oneNamed, ?_⟩
      cases outcome : decoder element' with
      | error fault => exact ⟨fault, rfl⟩
      | ok other => exact absurd (decoder_heeds.shows outcome) oneNamed

/-- Two programs that both get the same prefix, and a gap between them with a comment in it. -/
theorem other_spelling_of_two_programs_accepted :
    let document := "<runResult><program/><program/></runResult>".toList
    let laid := "<runResult><program/> <!-- - --><program/></runResult>".toList
    let other := "<runResult><a:program/><a:program/></runResult>".toList
    let result : RunResult := ⟨[TestProgram.blank, TestProgram.blank]⟩
    Relation.EqvGen Relaid document laid ∧ Relation.EqvGen Respelled document other ∧
      Xml.decodeDocument decoder root (Text.Utf8.encode document) = .ok result ∧
      Xml.decodeDocument decoder root (Text.Utf8.encode laid) = .ok result ∧
      ∃ element, documentRoot? (Text.Utf8.encode other) = some element ∧
        ((IsOneNamed element ∧
            Xml.decodeDocument decoder root (Text.Utf8.encode other) = .ok result) ∨
          (¬ IsOneNamed element ∧
            ∃ fault, Xml.decodeDocument decoder root (Text.Utf8.encode other) =
              .error fault)) := by
  intro document laid other result
  have decoded : Xml.decodeDocument decoder root (Text.Utf8.encode document) = .ok result :=
    eq_ok_of_toOption (by decide +kernel)
  have same : SameButPrefix "program".toList "a:program".toList :=
    @SameButPrefix.of "program".toList none (some "a".toList) (by decide) (by decide) (by decide)
  have tag : IsTagRest [] := ⟨.nil, by simp, by simp⟩
  have gap : Relaid document laid :=
    @Relaid.gap "<runResult><program/>".toList [] " <!-- - -->".toList
      "<program/></runResult>".toList
      ⟨.emptyTag "program".toList, [.startTag "runResult".toList], by decide +kernel,
        .inr (.inl ⟨_, rfl⟩)⟩
      .nil (.blank rfl (@IsGap.comment " - ".toList [] (by decide) .nil))
      ⟨'p', "rogram/></runResult>".toList, rfl, by decide, by decide⟩
  have first : Respelled document "<runResult><a:program/><program/></runResult>".toList :=
    @Respelled.emptyElement "<runResult>".toList _ _ [] "<program/></runResult>".toList
      ⟨[], by decide +kernel⟩ same tag
  have second : Respelled "<runResult><a:program/><program/></runResult>".toList other :=
    @Respelled.emptyElement "<runResult><a:program/>".toList _ _ [] "</runResult>".toList
      ⟨[], by decide +kernel⟩ same tag
  have steps : Relation.EqvGen Respelled document other :=
    .trans _ _ _ (.rel _ _ first) (.rel _ _ second)
  have spellings := other_spellings_accepted_iff_oneNamed decoded
  exact ⟨.rel _ _ gap, steps, decoded, spellings.1 laid (.rel _ _ gap), spellings.2 other steps⟩

/-- Another prefix of one of two programs that stand behind each other makes a document refused. -/
theorem other_prefix_of_one_program_refused :
    let document := "<runResult><program/><program/></runResult>".toList
    let other := "<runResult><program/><a:program/></runResult>".toList
    let result : RunResult := ⟨[TestProgram.blank, TestProgram.blank]⟩
    Respelled document other ∧
      Xml.decodeDocument decoder root (Text.Utf8.encode document) = .ok result ∧
      Xml.decodeDocument decoder root (Text.Utf8.encode other) = .error .malformed := by
  intro document other result
  refine ⟨?_, eq_ok_of_toOption (by decide +kernel), by decide +kernel⟩
  have same : SameButPrefix "program".toList "a:program".toList :=
    @SameButPrefix.of "program".toList none (some "a".toList) (by decide) (by decide) (by decide)
  exact @Respelled.emptyElement "<runResult><program/>".toList _ _ [] "</runResult>".toList
    ⟨[], by decide +kernel⟩ same ⟨.nil, by simp, by simp⟩

end RunResult

end ChangeTransport
