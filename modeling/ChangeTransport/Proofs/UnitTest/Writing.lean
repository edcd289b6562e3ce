import ChangeTransport.Proofs.UnitTest.Verdict
import ChangeTransport.Proofs.Xml.RecordWriting
import ChangeTransport.UnitTest.Run

/-!
# Results that are written

A result is written as a document under the names by which its parts are looked up: texts as
attributes, only the title of an alert as an element of its own, and every list as elements behind
each other.  Reading the document gives the result back, with nothing of it lost, doubled or moved.
-/

namespace ChangeTransport

open Xml

/-! ## Results as elements -/

/-- The details of a detail are an element of their own, if it has any. -/
def Details.elements : Details → List Element
  | .done => []
  | .plain text rest => .of "detail" [("text", text)] [] :: rest.elements
  | .nested text inner rest =>
    .of "detail" [("text", text)] [.of "details" [] inner.elements] :: rest.elements

def TestAlert.texts (alert : TestAlert) : List (String × String) :=
  [("kind", alert.kind), ("severity", alert.severity)]

def TestAlert.element (alert : TestAlert) : Element :=
  .of "alert" alert.texts
    [.ofText "title" alert.title, .of "details" [] alert.details.elements]

section

variable (prefixed : Bool)

/-- The name of an attribute of tested things, with their prefix or without. -/
def spelled (name : String) : String :=
  if prefixed then corePrefix ++ ":" ++ name else name

def TestMethod.texts (method : TestMethod) : List (String × String) :=
  [ (spelled prefixed "name", method.name), (spelled prefixed "uri", method.uri),
    ("executionTime", method.executionTime), ("unit", method.unit) ]

def TestMethod.element (method : TestMethod) : Element :=
  .of "testMethod" (method.texts prefixed)
    [.of "alerts" [] (method.alerts.map TestAlert.element)]

def TestClass.texts (testClass : TestClass) : List (String × String) :=
  [ (spelled prefixed "name", testClass.name), (spelled prefixed "uri", testClass.uri),
    ("riskLevel", testClass.riskLevel), ("durationCategory", testClass.durationCategory) ]

def TestClass.element (testClass : TestClass) : Element :=
  .of "testClass" (testClass.texts prefixed)
    [.of "testMethods" [] (testClass.methods.map (TestMethod.element prefixed))]

def TestProgram.texts (program : TestProgram) : List (String × String) :=
  [ (spelled prefixed "name", program.name), (spelled prefixed "uri", program.uri),
    (spelled prefixed "type", program.kind) ]

def TestProgram.element (program : TestProgram) : Element :=
  .of "program" (program.texts prefixed)
    [.of "testClasses" [] (program.classes.map (TestClass.element prefixed))]

/-- The prefix of tested things is declared where it is used. -/
def RunResult.declarations : List (String × String) :=
  if prefixed then [("xmlns:" ++ corePrefix, "http://www.sap.com/adt/core")] else []

def RunResult.element (result : RunResult) : Element :=
  .of RunResult.root (RunResult.declarations prefixed)
    (result.programs.map (TestProgram.element prefixed))

/-- A result as a document. -/
def RunResult.document (result : RunResult) : List Char := (result.element prefixed).node.written

end

/-! ## The names in a document -/

theorem areNames_text (text : String) : AreNames ([("text", text)].map Prod.fst) := by
  have names : AreNames ["text"] := by decide
  exact names

theorem TestAlert.areNames_texts (alert : TestAlert) : AreNames (alert.texts.map Prod.fst) := by
  have names : AreNames ["kind", "severity"] := by decide
  exact names

section

variable (prefixed : Bool)

theorem TestMethod.areNames_texts (method : TestMethod) :
    AreNames ((method.texts prefixed).map Prod.fst) := by
  have names : ∀ prefixed, AreNames
      [spelled prefixed "name", spelled prefixed "uri", "executionTime", "unit"] := by decide
  exact names prefixed

theorem TestClass.areNames_texts (testClass : TestClass) :
    AreNames ((testClass.texts prefixed).map Prod.fst) := by
  have names : ∀ prefixed, AreNames
      [spelled prefixed "name", spelled prefixed "uri", "riskLevel", "durationCategory"] := by
    decide
  exact names prefixed

theorem TestProgram.areNames_texts (program : TestProgram) :
    AreNames ((program.texts prefixed).map Prod.fst) := by
  have names : ∀ prefixed, AreNames
      [spelled prefixed "name", spelled prefixed "uri", spelled prefixed "type"] := by decide
  exact names prefixed

theorem RunResult.areNames_declarations : AreNames ((declarations prefixed).map Prod.fst) := by
  cases prefixed <;> decide

/-- The prefix does not count where an attribute is looked up. -/
theorem key_spelled (raw : List Char) :
    ∀ name ∈ ["name", "uri", "type"],
      Attribute.key ⟨(spelled prefixed name).toList, raw⟩ = "@" ++ name := by
  have both : ∀ prefixed, ∀ name ∈ ["name", "uri", "type"],
      Attribute.key ⟨(spelled prefixed name).toList, []⟩ = "@" ++ name := by decide
  exact both prefixed

end

/-! ## Reading the details of an alert -/

namespace Details

/-- Details as a list. -/
def toList : Details → List Detail
  | .done => []
  | .plain text rest => ⟨text, none⟩ :: rest.toList
  | .nested text inner rest => ⟨text, some inner⟩ :: rest.toList

@[simp]
theorem ofList_toList (details : Details) : ofList details.toList = details := by
  unfold ofList
  induction details with
  | done => rfl
  | plain text rest induction => rw [toList, List.foldr_cons, induction]; rfl
  | nested text inner rest _ induction => rw [toList, List.foldr_cons, induction]; rfl

theorem name_of_mem_elements (details : Details) :
    ∀ child ∈ details.elements, child.name = "detail".toList := by
  induction details with
  | done => exact List.forall_mem_nil _
  | plain text rest induction =>
      exact List.forall_mem_cons.mpr ⟨Element.name_of (by decide) _, induction⟩
  | nested text inner rest _ induction =>
      exact List.forall_mem_cons.mpr ⟨Element.name_of (by decide) _, induction⟩

/-- How deep the elements of details are nested. -/
def depth (details : Details) : Nat := Node.depthOfAll (details.elements.map Element.node)

theorem depth_plain (text : String) (rest : Details) :
    (plain text rest).depth = max 1 rest.depth := rfl

theorem depth_nested (text : String) (inner rest : Details) :
    (nested text inner rest).depth = max (inner.depth + 2) rest.depth := by
  simp [depth, elements, Element.of, Element.node, Node.depthOfAll, Node.depth]

/-- How a single detail is read whose own details are nested at most `limit` deep. -/
def itemDecoder (limit : Nat) : Decoder Detail :=
  .record (Detail.fields (decoderWithin limit)) ⟨"", none⟩

/-- Where the single details are read, the element around them is. -/
theorem decoderWithin_of_mapM_elements {details : Details} {limit : Nat}
    (items : ∀ limit, details.depth ≤ limit + 1 →
      details.elements.mapM (itemDecoder limit) = .ok details.toList)
    (shallow : details.depth ≤ limit) :
    decoderWithin limit (.of "details" [] details.elements) = .ok details := by
  cases limit with
  | zero =>
      -- a detail would be an element inside this one
      have none : details = .done := by
        cases details with
        | done => rfl
        | plain text rest => rw [depth_plain] at shallow; omega
        | nested text inner rest => rw [depth_nested] at shallow; omega
      subst none
      unfold decoderWithin
      exact Decoder.record_written (by decide) (by decide) rfl rfl
  | succ limit =>
      have read : Decoder.record
          [.list "detail" (itemDecoder limit) (fun details _ => Details.ofList details)]
          Details.done (.of "details" [] details.elements) = .ok (.ofList details.toList) :=
        Decoder.record_list_written (by decide) (by decide) (List.forall_mem_nil _) (by decide)
          details.name_of_mem_elements (items limit shallow) rfl
      rwa [ofList_toList] at read

/-- Each detail is read with its own details in it. -/
theorem mapM_elements (details : Details) (limit : Nat) (shallow : details.depth ≤ limit + 1) :
    details.elements.mapM (itemDecoder limit) = .ok details.toList := by
  have taken (limit : Nat) (text : String) : (attributesOf [("text", text)]).foldlM
      (Filling.take (Detail.fields (decoderWithin limit))) ⟨[], ⟨"", none⟩⟩ =
        .ok ⟨[0], ⟨text, none⟩⟩ :=
    Filling.foldlM_take_cons rfl rfl List.not_mem_nil rfl
  induction details generalizing limit with
  | done => rfl
  | plain text rest induction =>
      have first : itemDecoder limit (.of "detail" [("text", text)] []) = .ok ⟨text, none⟩ := by
        have held : Filling.content (Detail.fields (decoderWithin limit)) ⟨[0], ⟨text, none⟩⟩ [] =
            .ok ⟨[0], ⟨text, none⟩⟩ := rfl
        exact Decoder.record_written (by decide) (areNames_text text) (taken limit text) held
      rw [depth_plain] at shallow
      rw [elements, List.mapM_cons, first, ok_bind, induction limit (by omega)]
      rfl
  | nested text inner rest inside induction =>
      rw [depth_nested] at shallow
      -- a detail and its `details` are two elements, so the limit is enough for what they hold
      have within : decoderWithin limit (.of "details" [] inner.elements) = .ok inner :=
        decoderWithin_of_mapM_elements inside (by omega)
      have first : itemDecoder limit
          (.of "detail" [("text", text)] [.of "details" [] inner.elements]) =
            .ok ⟨text, some inner⟩ := by
        have found : Xml.Field.find? (Detail.fields (decoderWithin limit)) "details" =
            some (1, .element "details" (decoderWithin limit)
              (fun value detail => { detail with inner := some value })) := rfl
        have held : Filling.content (Detail.fields (decoderWithin limit)) ⟨[0], ⟨text, none⟩⟩
            [.elements (.of "details" [] inner.elements) []] =
              .ok ⟨[1, 0], ⟨text, some inner⟩⟩ :=
          Filling.content_element found (by decide) within rfl
        exact Decoder.record_written (by decide) (areNames_text text) (taken limit text) held
      rw [elements, List.mapM_cons, first, ok_bind, induction limit (by omega)]
      rfl

theorem decoder_elements (details : Details) :
    decoder (.of "details" [] details.elements) = .ok details :=
  decoderWithin_of_mapM_elements details.mapM_elements (Nat.le_refl _)

end Details

/-! ## Reading the other parts -/

section

variable {ρ α : Type} {fields : List (Xml.Field ρ)} {default record : ρ} {seen : List Nat}
  {name outer inner : String} {given : List (String × String)} {item : Decoder α}
  {write : α → Element} {items : List α}

/-- A list in an element of its own is read item by item. -/
theorem wrapped_written (plain : isPlainName outer.toList = true)
    (unprefixed : localName inner.toList = inner.toList)
    (alike : ∀ value, (write value).name = inner.toList)
    (read : ∀ value ∈ items, item (write value) = .ok value) :
    wrapped inner item (.of outer [] (items.map write)) = .ok items := by
  refine Decoder.record_list_written plain (by decide) (List.forall_mem_nil _) unprefixed ?_
    (mapM_map_of_read read) rfl
  intro child member
  rcases List.mem_map.mp member with ⟨value, -, rfl⟩
  exact alike value

/-- A record of attributes and one list in an element of its own. -/
theorem record_around_written {index : Nat} {set : List α → ρ → ρ} {whole : ρ}
    (plain : isPlainName name.toList = true) (named : AreNames (given.map Prod.fst))
    (taken : (attributesOf given).foldlM (Filling.take fields) ⟨[], default⟩ =
      .ok ⟨seen, record⟩)
    (plainOuter : isPlainName outer.toList = true)
    (unprefixed : ∀ name ∈ [outer, inner], localName name.toList = name.toList)
    (found : Xml.Field.find? fields outer =
      some (index, .element outer (wrapped inner item) set))
    (fresh : index ∉ seen) (alike : ∀ value, (write value).name = inner.toList)
    (read : ∀ value ∈ items, item (write value) = .ok value)
    (same : set items record = whole) :
    Decoder.record fields default (.of name given [.of outer [] (items.map write)]) =
      .ok whole := by
  have called : String.ofList (Element.of outer [] (items.map write)).localName = outer := by
    rw [Element.localName, Element.name_of plainOuter, unprefixed outer (by simp),
      String.ofList_toList]
  have list : wrapped inner item (.of outer [] (items.map write)) = .ok items :=
    wrapped_written plainOuter (unprefixed inner (by simp)) alike read
  have held : Filling.content fields ⟨seen, record⟩
      [.elements (.of outer [] (items.map write)) []] =
        .ok ⟨index :: seen, whole⟩ := by
    refine Filling.content_element (called.symm ▸ found) fresh list ?_
    rw [same, Filling.content]
  exact Decoder.record_written plain named taken held

end

theorem TestAlert.decoder_element (alert : TestAlert) : decoder alert.element = .ok alert := by
  let begun : TestAlert := { blank with kind := alert.kind, severity := alert.severity }
  have taken : (attributesOf alert.texts).foldlM (Filling.take fields) ⟨[], blank⟩ =
      .ok ⟨[1, 0], begun⟩ :=
    Filling.foldlM_take_cons rfl rfl (by decide) <|
      Filling.foldlM_take_cons rfl rfl (by decide) rfl
  have held : Filling.content fields ⟨[1, 0], begun⟩
      [ .elements (.ofText "title" alert.title) [],
        .elements (.of "details" [] alert.details.elements) [] ] =
          .ok ⟨[3, 2, 1, 0], alert⟩ :=
    Filling.content_text rfl (by decide) (Element.text_ofText _ _) <|
      Filling.content_element rfl (by decide) alert.details.decoder_elements rfl
  have differ : (Element.ofText "title" alert.title).name ≠
      (Element.of "details" [] alert.details.elements).name := by
    rw [Element.name_ofText (by decide), Element.name_of (by decide)]
    decide
  have runs : alert.element.runs = _ := Element.runs_pair differ
  exact Decoder.record_written (by decide) alert.areNames_texts taken (runs ▸ held)

section

variable (prefixed : Bool)

theorem TestMethod.decoder_element (method : TestMethod) :
    decoder (method.element prefixed) = .ok method := by
  have taken : (attributesOf (method.texts prefixed)).foldlM (Filling.take fields) ⟨[], blank⟩ =
      .ok ⟨[3, 2, 1, 0], { method with alerts := [] }⟩ :=
    Filling.foldlM_take_cons (key_spelled prefixed _ "name" (by simp)) rfl (by decide) <|
      Filling.foldlM_take_cons (key_spelled prefixed _ "uri" (by simp)) rfl (by decide) <|
      Filling.foldlM_take_cons rfl rfl (by decide) <|
      Filling.foldlM_take_cons rfl rfl (by decide) rfl
  have named (alert : TestAlert) : alert.element.name = "alert".toList :=
    Element.name_of (by decide) _
  unfold decoder element
  exact record_around_written (by decide) (method.areNames_texts prefixed) taken (by decide)
    (by decide) rfl (by decide) named (fun alert _ => alert.decoder_element) rfl

theorem TestClass.decoder_element (testClass : TestClass) :
    decoder (testClass.element prefixed) = .ok testClass := by
  have taken : (attributesOf (testClass.texts prefixed)).foldlM (Filling.take fields)
      ⟨[], blank⟩ = .ok ⟨[3, 2, 1, 0], { testClass with methods := [] }⟩ :=
    Filling.foldlM_take_cons (key_spelled prefixed _ "name" (by simp)) rfl (by decide) <|
      Filling.foldlM_take_cons (key_spelled prefixed _ "uri" (by simp)) rfl (by decide) <|
      Filling.foldlM_take_cons rfl rfl (by decide) <|
      Filling.foldlM_take_cons rfl rfl (by decide) rfl
  have named (method : TestMethod) : (method.element prefixed).name = "testMethod".toList :=
    Element.name_of (by decide) _
  unfold decoder element
  exact record_around_written (by decide) (testClass.areNames_texts prefixed) taken (by decide)
    (by decide) rfl (by decide) named (fun method _ => method.decoder_element prefixed) rfl

theorem TestProgram.decoder_element (program : TestProgram) :
    decoder (program.element prefixed) = .ok program := by
  have taken : (attributesOf (program.texts prefixed)).foldlM (Filling.take fields)
      ⟨[], blank⟩ = .ok ⟨[2, 1, 0], { program with classes := [] }⟩ :=
    Filling.foldlM_take_cons (key_spelled prefixed _ "name" (by simp)) rfl (by decide) <|
      Filling.foldlM_take_cons (key_spelled prefixed _ "uri" (by simp)) rfl (by decide) <|
      Filling.foldlM_take_cons (key_spelled prefixed _ "type" (by simp)) rfl (by decide) rfl
  have named (testClass : TestClass) :
      (testClass.element prefixed).name = "testClass".toList :=
    Element.name_of (by decide) _
  unfold decoder element
  exact record_around_written (by decide) (program.areNames_texts prefixed) taken (by decide)
    (by decide) rfl (by decide) named (fun testClass _ => testClass.decoder_element prefixed) rfl

theorem RunResult.decoder_element (result : RunResult) :
    decoder (result.element prefixed) = .ok result := by
  have unknown : ∀ written ∈ attributesOf (declarations prefixed),
      Xml.Field.find? [Xml.Field.list "program" TestProgram.decoder
        (fun programs (_ : RunResult) => ⟨programs⟩)] written.key = none := by
    cases prefixed with
    | false => exact List.forall_mem_nil _
    | true => exact List.forall_mem_singleton.mpr rfl
  refine Decoder.record_list_written (by decide) (areNames_declarations prefixed) unknown
    (by decide) ?_
    (mapM_map_of_read fun program _ => program.decoder_element prefixed) rfl
  intro child member
  rcases List.mem_map.mp member with ⟨program, -, rfl⟩
  exact Element.name_of (by decide) _

end

/-! ## Results as documents -/

theorem Details.isPlain_of_mem_elements (details : Details) :
    ∀ child ∈ details.elements, child.node.IsPlain := by
  induction details with
  | done => exact List.forall_mem_nil _
  | plain text rest induction =>
      refine List.forall_mem_cons.mpr ⟨?_, induction⟩
      exact Element.isPlain_of (by decide) (areNames_text text) (List.forall_mem_nil _)
  | nested text inner rest inside induction =>
      refine List.forall_mem_cons.mpr ⟨?_, induction⟩
      refine Element.isPlain_of (by decide) (areNames_text text) (List.forall_mem_singleton.mpr ?_)
      exact Element.isPlain_of (by decide) (by decide) inside

theorem TestAlert.isPlain_element {alert : TestAlert}
    (trimmed : isTrimmed alert.title.toList = true) :
    alert.element.node.IsPlain := by
  refine Element.isPlain_of (by decide) alert.areNames_texts (List.forall_mem_cons.mpr ⟨?_, ?_⟩)
  · exact Element.isPlain_ofText (by decide) trimmed
  · refine List.forall_mem_singleton.mpr ?_
    exact Element.isPlain_of (by decide) (by decide) alert.details.isPlain_of_mem_elements

/-- An element around one list in an element of its own. -/
theorem isPlain_around {α : Type} {name outer : String} {given : List (String × String)}
    {write : α → Element} {items : List α}
    (plain : isPlainName name.toList = true) (named : AreNames (given.map Prod.fst))
    (plainOuter : isPlainName outer.toList = true)
    (inside : ∀ value ∈ items, (write value).node.IsPlain) :
    (Element.of name given [.of outer [] (items.map write)]).node.IsPlain := by
  refine Element.isPlain_of plain named (List.forall_mem_singleton.mpr ?_)
  exact Element.isPlain_of plainOuter (by decide) (List.forall_mem_map.mpr inside)

/-- A result of which no title begins or ends with a blank. -/
def RunResult.IsTrimmed (result : RunResult) : Prop :=
  ∀ method ∈ result.methods, ∀ alert ∈ method.alerts, isTrimmed alert.title.toList = true

instance (result : RunResult) : Decidable result.IsTrimmed :=
  inferInstanceAs <| Decidable <|
    ∀ method ∈ result.methods, ∀ alert ∈ method.alerts, isTrimmed alert.title.toList = true

theorem RunResult.IsTrimmed.isPlain_element {result : RunResult} (trimmed : result.IsTrimmed)
    (prefixed : Bool) : (result.element prefixed).node.IsPlain := by
  refine Element.isPlain_of (by decide) (areNames_declarations prefixed)
    (List.forall_mem_map.mpr ?_)
  intro program ran
  refine isPlain_around (by decide) (program.areNames_texts prefixed) (by decide) ?_
  intro testClass inProgram
  refine isPlain_around (by decide) (testClass.areNames_texts prefixed) (by decide) ?_
  intro method inClass
  refine isPlain_around (by decide) (method.areNames_texts prefixed) (by decide) ?_
  intro alert raised
  have here : method ∈ result.methods :=
    List.mem_flatMap.mpr ⟨program, ran, List.mem_flatMap.mpr ⟨testClass, inProgram, inClass⟩⟩
  exact TestAlert.isPlain_element (trimmed method here alert raised)

/--
Reading a written result gives it back: every program, class, method, alert and detail in its place
and in its order.
-/
theorem decodeDocument_of_written_result (prefixed : Bool) {result : RunResult}
    (trimmed : result.IsTrimmed) {reply : Http.Reply}
    (body : reply.body = Text.Utf8.encode (result.document prefixed)) :
    decodeDocument RunResult.decoder RunResult.root reply = .ok result := by
  have decoded : Xml.decodeDocument RunResult.decoder RunResult.root reply.body = .ok result := by
    rw [body, RunResult.document, Element.node,
      decodeDocument_written RunResult.decoder (trimmed.isPlain_element prefixed)]
    · exact result.decoder_element prefixed
    · cases prefixed <;> rfl
  unfold decodeDocument
  rw [decoded]
  rfl

/-- Marks and blanks in attributes, marks in a title, and empty details of a detail. -/
theorem decodeDocument_of_result_with_marks :
    let details : Details := .nested "<a>" (.plain " \"b\"\n" .done) (.nested "" .done .done)
    let alert : TestAlert := ⟨"", "&amp;", "'c' >\n d", details⟩
    let untitled : TestAlert := ⟨"e", "f", "", .done⟩
    let method : TestMethod := ⟨"M", "", " ", "s", [alert, untitled]⟩
    let testClass : TestClass := ⟨"C", "", "", "", [method]⟩
    let result : RunResult := ⟨[⟨"P", "", "", [testClass]⟩, .blank]⟩
    let pieces : List String :=
      [ "<runResult xmlns:adtcore=\"http://www.sap.com/adt/core\">",
        "<program adtcore:name=\"P\" adtcore:uri=\"\" adtcore:type=\"\"><testClasses>",
        "<testClass adtcore:name=\"C\" adtcore:uri=\"\" riskLevel=\"\" durationCategory=\"\">",
        "<testMethods>",
        "<testMethod adtcore:name=\"M\" adtcore:uri=\"\" executionTime=\" \" unit=\"s\"><alerts>",
        "<alert kind=\"\" severity=\"&amp;amp;\"><title>&apos;c&apos; &gt;\n d</title><details>",
        "<detail text=\"&lt;a&gt;\"><details><detail text=\" &quot;b&quot;\n\"/></details></detail>",
        "<detail text=\"\"><details/></detail></details></alert>",
        "<alert kind=\"e\" severity=\"f\"><title/><details/></alert></alerts></testMethod>",
        "</testMethods></testClass></testClasses></program>",
        "<program adtcore:name=\"\" adtcore:uri=\"\" adtcore:type=\"\"><testClasses/></program>",
        "</runResult>" ]
    let reply : Http.Reply := ⟨200, [], Text.Utf8.encode (pieces.flatMap String.toList)⟩
    result.IsTrimmed ∧ decodeDocument RunResult.decoder RunResult.root reply = .ok result := by
  intro details alert untitled method testClass result pieces reply
  have trimmed : result.IsTrimmed := by decide
  have written : pieces.flatMap String.toList = result.document true := by decide +kernel
  have body : reply.body = Text.Utf8.encode (result.document true) :=
    congrArg Text.Utf8.encode written
  exact ⟨trimmed, decodeDocument_of_written_result true trimmed body⟩

end ChangeTransport
