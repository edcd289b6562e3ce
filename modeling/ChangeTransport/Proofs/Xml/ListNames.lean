import ChangeTransport.Proofs.Xml.Prefixless

/-!
# The names of the items of lists

The elements of a list have to have one full name.  Records whose last field alone holds lists pass
this condition on: it is asked of the lists that their elements lead to, told by the names that lead
there.
-/

namespace ChangeTransport.Xml

/-! ## Lists of one full name -/

/-- The elements around certain lists, told by the names that lead to them, have named items. -/
def Element.OneNamedIn (lists : List String → String → Prop) (element : Element) : Prop :=
  ∀ path item, lists path item → ∀ inner ∈ element.descend path, inner.OneNamed item

/-- The lists in elements of a name. -/
inductive ListsInside (name : String) (lists : List String → String → Prop) :
    List String → String → Prop
  | inside {path : List String} {item : String} (list : lists path item) :
      ListsInside name lists (name :: path) item

/-- A list of elements of a name, and the lists in them. -/
inductive ListsOf (name : String) (lists : List String → String → Prop) :
    List String → String → Prop
  | here : ListsOf name lists [] name
  | inside {path : List String} {item : String} (list : lists path item) :
      ListsOf name lists (name :: path) item

theorem oneNamedIn_inside_iff {name : String} {lists : List String → String → Prop}
    {element : Element} : element.OneNamedIn (ListsInside name lists) ↔
      ∀ child ∈ element.childrenNamed name, child.OneNamedIn lists := by
  constructor
  · intro named child held path item list inner member
    exact named _ item (.inside list) inner (List.mem_flatMap.mpr ⟨child, held, member⟩)
  · rintro each _ item ⟨list⟩ inner member
    rcases List.mem_flatMap.mp member with ⟨child, held, reached⟩
    exact each child held _ item list inner reached

theorem oneNamedIn_of_iff {name : String} {lists : List String → String → Prop}
    {element : Element} : element.OneNamedIn (ListsOf name lists) ↔
      (∀ child ∈ element.childrenNamed name, child.OneNamedIn lists) ∧ element.OneNamed name := by
  constructor
  · intro named
    refine ⟨oneNamedIn_inside_iff.mp ?_, ?_⟩
    · rintro _ item ⟨list⟩
      exact named _ item (.inside list)
    · exact named [] name .here element (List.mem_singleton_self element)
  · rintro ⟨each, here⟩ path item list
    cases list with
    | here =>
        intro inner member
        rwa [List.mem_singleton.mp member]
    | inside list => exact oneNamedIn_inside_iff.mpr each _ item (.inside list)

/-- Where names stay, lists keep theirs. -/
theorem oneNamedIn_of_keyed {lists : List String → String → Prop} {element other : Element}
    (same : element.outline keyed = other.outline keyed) (named : element.OneNamedIn lists) :
    other.OneNamedIn lists := by
  intro path item list inner member
  have outlines := Element.descend_of_keyed same path
  have held : inner.outline keyed ∈ (element.descend path).map (Element.outline keyed) :=
    outlines ▸ List.mem_map_of_mem member
  rcases List.mem_map.mp held with ⟨first, there, same'⟩
  exact Element.oneNamed_of_keyed same' (named path item list first there)

/-! ## What records around lists heed -/

theorem Decoder.Heeds.congr {α : Type} {decoder : Decoder α} {wanted wanted' : Element → Prop}
    (heeds : decoder.Heeds wanted) (same : ∀ element, wanted element ↔ wanted' element) :
    decoder.Heeds wanted' :=
  ⟨fun decoded => (same _).mp (heeds.shows decoded),
    fun alike decoded met => heeds.follows alike decoded ((same _).mpr met)⟩

section Records

variable {ρ α : Type} {wanted : Element → Prop} {name : String}

/-- Fields that are texts, none of which is looked up by a name. -/
def AreTexts (name : String) (fields : List (Field ρ)) : Prop :=
  ∀ field ∈ fields, (∃ set, field.value = .text set) ∧ name ∉ field.names

section Last

variable {front : List (Field ρ)} (texts : AreTexts name front) {value : FieldValue ρ}

include texts

theorem AreTexts.find?_last (structured : ∀ set, value ≠ .text set) :
    Field.find? (front ++ [⟨[name], value⟩]) name = some (front.length, ⟨[name], value⟩) := by
  refine (@Field.decides_last ρ Unit name value (fun _ => ()) front structured ?_).here
  intro field member
  rcases texts field member with ⟨⟨set, isText⟩, unnamed⟩
  exact ⟨unnamed, isText ▸ fun _ _ => rfl⟩

/-- Under every name but that of the last field, a text is looked up. -/
theorem AreTexts.last_or_text {key : String} {index : Nat} {field : Field ρ}
    (found : Field.find? (front ++ [⟨[name], value⟩]) key = some (index, field)) :
    (key = name ∧ field.value = value) ∨ (key ≠ name ∧ ∃ set, field.value = .text set) := by
  rcases Field.find?_eq_some found with ⟨there, named⟩
  rcases List.mem_append.mp (List.mem_of_getElem? there) with early | last
  · rcases texts field early with ⟨isText, unnamed⟩
    exact .inr ⟨fun same => unnamed (same ▸ named), isText⟩
  · cases List.mem_singleton.mp last
    exact .inl ⟨List.mem_singleton.mp named, rfl⟩

/-- Of a record whose last field is the only one that is no text, this field alone is heeded. -/
theorem heeds_of_last (structured : ∀ set, value ≠ .text set) (heeds : value.Heeds wanted)
    (default : ρ) :
    (Decoder.record (front ++ [⟨[name], value⟩]) default).Heeds fun element =>
      (∀ child ∈ element.childrenNamed name, wanted child) ∧
        (value.isList = true → element.OneNamed name) := by
  have fieldsHeed : FieldsHeed (front ++ [⟨[name], value⟩])
      fun key element => key = name → wanted element := by
    intro key index field found
    rcases texts.last_or_text found with ⟨rfl, same⟩ | ⟨differs, set, isText⟩
    · rw [same]
      simpa using heeds
    · rw [isText]
      simpa [differs] using FieldValue.text_heeds set
  refine (Decoder.record_heeds default fieldsHeed).congr ?_
  intro element
  constructor
  · intro met
    rcases met name _ _ (texts.find?_last structured) with ⟨each, named⟩
    exact ⟨fun child member => each child member rfl, named⟩
  · rintro ⟨each, named⟩ key index field found
    rcases texts.last_or_text found with ⟨rfl, same⟩ | ⟨differs, set, isText⟩
    · exact ⟨fun child member _ => each child member, same ▸ named⟩
    · refine ⟨fun child member same => absurd same differs, ?_⟩
      rw [isText]
      intro impossible
      cases impossible

end Last

variable {lists : List String → String → Prop}

/-- A record whose last field is read from one element heeds the lists in this element. -/
theorem heeds_of_lastElement {front : List (Field ρ)} (texts : AreTexts name front)
    {decoder : Decoder α} (heeds : decoder.Heeds (Element.OneNamedIn lists)) (set : α → ρ → ρ)
    (default : ρ) :
    (Decoder.record (front ++ [.element name decoder set]) default).Heeds
      (Element.OneNamedIn (ListsInside name lists)) := by
  have structured : ∀ other, (Field.element name decoder set).value ≠ .text other := by
    intro other impossible
    cases impossible
  refine (heeds_of_last texts structured (Field.element_heeds heeds name set) default).congr ?_
  intro element
  rw [oneNamedIn_inside_iff]
  simp [Field.element, FieldValue.isList]

/-- A record that is a list heeds the full name of its items, and the lists in them. -/
theorem heeds_of_list {decoder : Decoder α} (heeds : decoder.Heeds (Element.OneNamedIn lists))
    (set : List α → ρ → ρ) (default : ρ) :
    (Decoder.record [.list name decoder set] default).Heeds
      (Element.OneNamedIn (ListsOf name lists)) := by
  have structured : ∀ other, (Field.list name decoder set).value ≠ .text other := by
    intro other impossible
    cases impossible
  refine (@heeds_of_last _ _ _ [] (List.forall_mem_nil _) _ structured
    (Field.list_heeds heeds name set) default).congr ?_
  intro element
  rw [oneNamedIn_of_iff]
  simp [Field.list, FieldValue.isList]

end Records

/-! ## How deep elements stand -/

theorem Node.depth_le_depthOfAll {node : Node} {content : List Node} (held : node ∈ content) :
    node.depth ≤ Node.depthOfAll content := by
  induction content with
  | nil => cases held
  | cons first rest induction =>
      rw [Node.depthOfAll]
      rcases List.mem_cons.mp held with rfl | later
      · exact Nat.le_max_left _ _
      · exact Nat.le_trans (induction later) (Nat.le_max_right _ _)

/-- An element is less deep than those around it. -/
theorem Element.depth_lt_of_mem_childrenNamed {name : String} {child element : Element}
    (member : child ∈ element.childrenNamed name) : child.depth < element.depth := by
  rcases List.mem_flatMap.mp member with ⟨node, held, named⟩
  have deep := Node.depth_le_depthOfAll held
  cases node with
  | text characters => cases named
  | element tag content =>
      rw [Node.named] at named
      split at named
      · rw [List.mem_singleton.mp named]
        exact deep
      · cases named

end ChangeTransport.Xml
