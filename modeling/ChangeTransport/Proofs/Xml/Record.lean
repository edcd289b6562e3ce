import Mathlib.Data.List.Induction
import ChangeTransport.Proofs.Checks
import ChangeTransport.Proofs.Xml.Children

/-!
# What a record says about an element

A part of a record that only one field sets, a field looked up by a single child name, is told by
the children of that name alone: all of them stand in one run, and the field is read from that run.
Every other field, and everything that is no field, leaves that part as it is.
-/

namespace ChangeTransport.Xml

variable {ρ γ : Type}

namespace FieldValue

/-- The change of the record that a field reads from elements. -/
def Takes : FieldValue ρ → List Element → (ρ → ρ) → Prop
  | .text set, elements, change =>
      ∃ element text, elements = [element] ∧ element.text = .ok text ∧ change = set text
  | .element update, elements, change =>
      ∃ element, elements = [element] ∧ update element = .ok change
  | .list update, elements, change => update elements = .ok change

/-- Whether a field takes any number of elements. -/
def isList : FieldValue ρ → Bool
  | .text _ => false
  | .element _ => false
  | .list _ => true

/-- A field that leaves a part of the record as it is. -/
def Keeps (view : ρ → γ) : FieldValue ρ → Prop
  | .text set => ∀ text record, view (set text record) = view record
  | .element update => ∀ element change, update element = .ok change →
      ∀ record, view (change record) = view record
  | .list update => ∀ elements change, update elements = .ok change →
      ∀ record, view (change record) = view record

theorem Keeps.of_takes
    {view : ρ → γ} {value : FieldValue ρ}
    (keeps : value.Keeps view)
    {elements : List Element} {change : ρ → ρ}
    (taken : value.Takes elements change) (record : ρ) :
    view (change record) = view record := by
  cases value with
  | text set =>
      rcases taken with ⟨element, text, -, -, rfl⟩
      exact keeps text record
  | element update =>
      rcases taken with ⟨element, -, updated⟩
      exact keeps element change updated record
  | list update => exact keeps elements change taken record

end FieldValue

namespace Field

theorem find?_eq_some
    {fields : List (Field ρ)} {name : String} {index : Nat} {field : Field ρ}
    (found : find? fields name = some (index, field)) :
    fields[index]? = some field ∧ name ∈ field.names := by
  rw [find?, Option.map_eq_some_iff] at found
  rcases found with ⟨entry, found, equal⟩
  cases equal
  constructor
  · exact List.mem_zipIdx_iff_getElem?.mp (List.mem_of_find?_eq_some found)
  · simpa using List.find?_some found

/--
Among the fields there is one that alone sets a part of the record.  It is looked up by the given
name only, and it is no field that an attribute could give.
-/
structure Decides (fields : List (Field ρ)) (index : Nat) (name : String)
    (value : FieldValue ρ) (view : ρ → γ) : Prop where
  here : find? fields name = some (index, ⟨[name], value⟩)
  structured : ∀ set, value ≠ .text set
  others : ∀ other field, fields[other]? = some field → other ≠ index → field.value.Keeps view

/-- A field behind all others, none of which has its name or sets its part. -/
theorem decides_last
    {name : String} {value : FieldValue ρ} {view : ρ → γ}
    (front : List (Field ρ))
    (structured : ∀ set, value ≠ .text set)
    (others : ∀ field ∈ front, name ∉ field.names ∧ field.value.Keeps view) :
    Decides (front ++ [⟨[name], value⟩]) front.length name value view := by
  refine ⟨?_, structured, ?_⟩
  · have absent : (front.zipIdx).find? (fun entry => entry.1.names.contains name) = none := by
      rw [List.find?_eq_none]
      rintro ⟨field, place⟩ member
      simpa using (others field (List.fst_mem_of_mem_zipIdx member)).1
    rw [find?, List.zipIdx_append, List.find?_append, absent]
    simp
  · intro other field found differs
    have early : other < front.length := by
      rcases Nat.lt_trichotomy other front.length with less | equal | more
      · exact less
      · exact absurd equal differs
      · rw [List.getElem?_append_right (Nat.le_of_lt more),
          List.getElem?_singleton, if_neg (Nat.sub_ne_zero_of_lt more)] at found
        cases found
    rw [List.getElem?_append_left early] at found
    exact (others field (List.mem_of_getElem? found)).2

end Field

section Filling

variable {fields : List (Field ρ)} {index : Nat} {name : String} {value : FieldValue ρ}
  {view : ρ → γ} (decides : Field.Decides fields index name value view)
  {filling filled : Filling ρ}

theorem Filling.see_eq_ok {other : Nat} (seen : filling.see other = .ok filled) :
    other ∉ filling.seen ∧ filled = { filling with seen := other :: filling.seen } := by
  unfold see at seen
  split at seen
  · cases seen
  · next fresh =>
      cases seen
      exact ⟨by simpa using fresh, rfl⟩

/-- How the elements of a run are taken. -/
theorem Filling.content_elements_iff {first : Element} {others : List Element} {rest : List Run} :
    filling.content fields (.elements first others :: rest) = .ok filled ↔
      (Field.find? fields (String.ofList first.localName) = none ∧
          (first :: others).forM Element.pass = .ok () ∧
          filling.content fields rest = .ok filled) ∨
        ∃ index field change,
          Field.find? fields (String.ofList first.localName) = some (index, field) ∧
          index ∉ filling.seen ∧ field.value.Takes (first :: others) change ∧
          (field.value.isList = true → beginsWithText rest = false) ∧
          Filling.content fields ⟨index :: filling.seen, change filling.record⟩ rest =
            .ok filled := by
  rw [content]
  cases lookup : Field.find? fields (String.ofList first.localName) with
  | none =>
      cases (first :: others).forM Element.pass with
      | error fault => simp
      | ok done => simp
  | some found =>
      rcases found with ⟨index, names, value⟩
      by_cases given : index ∈ filling.seen
      · have refused : filling.see index = .error .malformed := by simp [see, given]
        simp [refused, given]
      · have noted : filling.see index = .ok ⟨index :: filling.seen, filling.record⟩ := by
          simp [see, given]
        dsimp only
        rw [noted, ok_bind]
        cases value with
        | text set =>
            cases others with
            | nil =>
                cases read : first.text <;>
                  simp [FieldValue.Takes, FieldValue.isList, given, change, read]
            | cons second others => simp [FieldValue.Takes, FieldValue.isList]
        | element update =>
            cases others with
            | nil =>
                cases read : update first <;>
                  simp [FieldValue.Takes, FieldValue.isList, given, change, read]
            | cons second others => simp [FieldValue.Takes, FieldValue.isList]
        | list update =>
            cases beginsWithText rest with
            | true => simp [FieldValue.isList]
            | false =>
                cases read : update (first :: others) <;>
                  simp [FieldValue.Takes, FieldValue.isList, given, change, read]

/-- Elements that are a field change the record once, and others are passed over. -/
theorem Filling.content_elements
    {first : Element} {others : List Element} {rest : List Run}
    (taken : filling.content fields (.elements first others :: rest) = .ok filled) :
    (Field.find? fields (String.ofList first.localName) = none ∧
        filling.content fields rest = .ok filled) ∨
      ∃ place field change,
        Field.find? fields (String.ofList first.localName) = some (place, field) ∧
        place ∉ filling.seen ∧ field.value.Takes (first :: others) change ∧
        Filling.content fields ⟨place :: filling.seen, change filling.record⟩ rest =
          .ok filled := by
  rcases Filling.content_elements_iff.mp taken with
    ⟨unknown, -, continued⟩ | ⟨place, field, change, found, fresh, takes, -, continued⟩
  · exact .inl ⟨unknown, continued⟩
  · exact .inr ⟨place, field, change, found, fresh, takes, continued⟩

include decides

/-- What is found under another name is another field. -/
theorem Field.Decides.other
    {found : Field ρ} {place : Nat} {key : String}
    (lookup : Field.find? fields key = some (place, found)) (differs : key ≠ name) :
    place ≠ index ∧ found.value.Keeps view := by
  rcases Field.find?_eq_some lookup with ⟨there, named⟩
  have elsewhere : place ≠ index := by
    intro same
    subst same
    rw [(Field.find?_eq_some decides.here).1] at there
    cases there
    exact differs (List.mem_singleton.mp named)
  exact ⟨elsewhere, decides.others place found there elsewhere⟩

/-- An attribute leaves the part as it is, and does not count as the field. -/
theorem Filling.take_keeps
    {given : Attribute}
    (taken : filling.take fields given = .ok filled) :
    view filled.record = view filling.record ∧
      (index ∈ filled.seen ↔ index ∈ filling.seen) := by
  unfold take at taken
  split at taken
  · next place names set lookup =>
      have differs : given.key ≠ name := by
        intro same
        rw [same, decides.here] at lookup
        cases lookup
        exact decides.structured set rfl
      rcases decides.other lookup differs with ⟨elsewhere, keeps⟩
      cases seen : filling.see place with
      | error fault => simp [seen] at taken
      | ok noted =>
          rcases Filling.see_eq_ok seen with ⟨-, rfl⟩
          cases resolved : resolve given.raw with
          | none => simp [seen, resolved] at taken
          | some characters =>
              simp only [seen, resolved, ok_bind, pure, Except.pure, Except.ok.injEq] at taken
              subst taken
              refine ⟨keeps _ _, ?_⟩
              simp [change, Ne.symm elsewhere]
  · cases taken
  · cases taken
    exact ⟨rfl, Iff.rfl⟩

theorem Filling.foldlM_take_keeps
    {attributes : List Attribute}
    (taken : attributes.foldlM (Filling.take fields) filling = .ok filled) :
    view filled.record = view filling.record ∧
      (index ∈ filled.seen ↔ index ∈ filling.seen) := by
  induction attributes generalizing filling with
  | nil =>
      cases taken
      exact ⟨rfl, Iff.rfl⟩
  | cons given rest induction =>
      rw [List.foldlM_cons] at taken
      cases first : filling.take fields given with
      | error fault => simp [first] at taken
      | ok next =>
          rw [first, ok_bind] at taken
          rcases induction taken with ⟨later, counted⟩
          rcases Filling.take_keeps decides first with ⟨now, noted⟩
          exact ⟨later.trans now, counted.trans noted⟩

/--
The field is read from all elements of its name.  None of them is left if the field has been given
before.
-/
theorem Filling.content_reads
    {runs : List Run}
    (taken : filling.content fields runs = .ok filled) :
    let named := runs.flatMap (Run.named name)
    (named = [] ∧ view filled.record = view filling.record) ∨
      (index ∉ filling.seen ∧ ∃ change record,
        value.Takes named change ∧ view filled.record = view (change record)) := by
  induction runs generalizing filling with
  | nil =>
      cases taken
      exact .inl ⟨rfl, rfl⟩
  | cons run rest induction =>
      cases run with
      | text characters =>
          rw [content] at taken
          cases checked : checkText characters with
          | error fault => simp [checked] at taken
          | ok done =>
              simp only [checked, ok_bind] at taken
              exact induction taken
      | elements first others =>
          intro named
          rcases Filling.content_elements taken with
            ⟨lookup, continued⟩ | ⟨place, field, change, lookup, fresh, takes, continued⟩
          · have differs : String.ofList first.localName ≠ name := by
              intro same
              rw [same, decides.here] at lookup
              cases lookup
            have skipped : named = rest.flatMap (Run.named name) := by
              simp [named, Run.named, differs]
            rw [skipped]
            exact induction continued
          · by_cases same : String.ofList first.localName = name
            · rw [same, decides.here] at lookup
              cases lookup
              rcases induction continued with ⟨none, kept⟩ | ⟨again, -⟩
              · have all : named = first :: others := by
                  simp [named, Run.named, same, none]
                rw [all]
                exact .inr ⟨fresh, change, filling.record, takes, kept⟩
              · exact absurd List.mem_cons_self again
            · rcases decides.other lookup same with ⟨elsewhere, keeps⟩
              have kept := keeps.of_takes takes filling.record
              have skipped : named = rest.flatMap (Run.named name) := by
                simp [named, Run.named, same]
              rw [skipped]
              rcases induction continued with ⟨none, later⟩ | ⟨unseen, read⟩
              · exact .inl ⟨none, later.trans kept⟩
              · exact .inr ⟨fun before => unseen (List.mem_cons_of_mem place before), read⟩

/-- What a record says about the children of a name that only one field is looked up by. -/
theorem Decoder.record_reads
    {default record : ρ} {element : Element}
    (decoded : Decoder.record fields default element = .ok record) :
    (element.childrenNamed name = [] ∧ view record = view default) ∨
      ∃ change source, value.Takes (element.childrenNamed name) change ∧
        view record = view (change source) := by
  unfold Decoder.record at decoded
  cases tag : element.attributes? with
  | none => simp [tag] at decoded
  | some attributes =>
      simp only [tag] at decoded
      cases given : attributes.foldlM (Filling.take fields) ⟨[], default⟩ with
      | error fault => simp [given] at decoded
      | ok filling =>
          rw [given, ok_bind] at decoded
          cases taken : filling.content fields element.runs with
          | error fault =>
              rw [taken] at decoded
              cases decoded
          | ok filled =>
              rw [taken, ok_bind] at decoded
              cases decoded
              rcases Filling.foldlM_take_keeps decides given with ⟨start, -⟩
              rw [← Element.runs_named]
              rcases Filling.content_reads decides taken with ⟨none, kept⟩ | ⟨-, read⟩
              · exact .inl ⟨none, kept.trans start⟩
              · exact .inr read

end Filling

section Lists

variable {α : Type} {fields : List (Field ρ)} {index : Nat} {name : String} {item : Decoder α}
  {set : List α → ρ → ρ} {view : ρ → List α}

/-- A list that a record holds is read from all children of its name, in their order. -/
theorem Decoder.record_list
    (decides : Field.Decides fields index name (Field.list name item set).value view)
    (sets : ∀ items record, view (set items record) = items)
    {default record : ρ} (blank : view default = [])
    {element : Element} (decoded : Decoder.record fields default element = .ok record) :
    (element.childrenNamed name).mapM item = .ok (view record) := by
  rcases Decoder.record_reads decides decoded with ⟨none, kept⟩ | ⟨change, source, taken, read⟩
  · rw [none, kept, blank]
    rfl
  · cases items : (element.childrenNamed name).mapM item with
    | error fault =>
        simp only [Field.list, FieldValue.Takes, items] at taken
        cases taken
    | ok values =>
        simp only [Field.list, FieldValue.Takes, items] at taken
        cases taken
        rw [read, sets]

/-- An element of its own around a list: its children are the items. -/
theorem Decoder.record_element
    {inner : Decoder (List α)} {path : List String}
    (decides : Field.Decides fields index name (Field.element name inner set).value view)
    (sets : ∀ items record, view (set items record) = items)
    (inside : ∀ child items, inner child = .ok items →
      (child.descend path).mapM item = .ok items)
    {default record : ρ} (blank : view default = [])
    {element : Element} (decoded : Decoder.record fields default element = .ok record) :
    (element.descend (name :: path)).mapM item = .ok (view record) := by
  rw [Element.descend_cons]
  rcases Decoder.record_reads decides decoded with ⟨none, kept⟩ | ⟨change, source, taken, read⟩
  · rw [none, kept, blank]
    rfl
  · rcases taken with ⟨child, alone, updated⟩
    dsimp only at updated
    cases items : inner child with
    | error fault =>
        rw [items] at updated
        cases updated
    | ok values =>
        rw [items] at updated
        cases updated
        rw [alone, List.flatMap_cons, List.flatMap_nil, List.append_nil, read, sets]
        exact inside child values items

end Lists

/-! ## Documents -/

/-- The root element of a body, if the body is text and the element is whole. -/
def documentRoot? (body : List UInt8) : Option Element :=
  match bodyCharacters body with
  | .ok characters => Element.ofTokens? (tokens characters)
  | .error _ => none

/-- What is decoded out of a body is read from its root element. -/
theorem exists_documentRoot_of_decodeDocument {α : Type}
    {decoder : Decoder α} {wanted : String} {body : List UInt8} {value : α}
    (decoded : decodeDocument decoder wanted body = .ok value) :
    ∃ root, documentRoot? body = some root ∧ decoder root = .ok value := by
  unfold decodeDocument at decoded
  unfold documentRoot?
  cases text : bodyCharacters body with
  | error fault => simp [text] at decoded
  | ok characters =>
      cases checked : checkRoot wanted characters with
      | error fault => simp [text, checked] at decoded
      | ok done =>
          simp only [text, checked, ok_bind, decodeCharacters] at decoded
          split at decoded
          · next root whole => exact ⟨root, whole, decoded⟩
          · cases decoded

end ChangeTransport.Xml
