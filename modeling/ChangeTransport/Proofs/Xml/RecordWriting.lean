import ChangeTransport.Proofs.Xml.Writing

/-!
# Records that are written

The fields of a record are written as attributes and as child elements under the names by which
they are looked up.  An element that is written so is read field by field: each attribute and each
child sets the field of its name, and a list is read out of children that all have one name.
-/

namespace ChangeTransport.Xml

/-! ## Attributes and elements with given names -/

/-- Names and texts as attributes. -/
def attributesOf (given : List (String × String)) : List Attribute :=
  given.map fun entry => ⟨entry.1.toList, escaped entry.2.toList⟩

/-- An element as a part of the content of another one. -/
def Element.node (element : Element) : Node := .element element.tag element.content

/-- An element that holds elements. -/
def Element.of (name : String) (given : List (String × String)) (children : List Element) :
    Element :=
  ⟨tagOf name.toList (attributesOf given), children.map Element.node⟩

/-- An element that holds a text. -/
def Element.ofText (name text : String) : Element :=
  ⟨tagOf name.toList [], if text = "" then [] else [.text (some text.toList)]⟩

/-- Names that the attributes of one element can have. -/
def AreNames (names : List String) : Prop :=
  names.Nodup ∧ ∀ name ∈ names, isPlainName name.toList = true

instance (names : List String) : Decidable (AreNames names) :=
  inferInstanceAs <| Decidable <| names.Nodup ∧ ∀ name ∈ names, isPlainName name.toList = true

section Names

variable {name : String} {given : List (String × String)}

theorem isPlain_of_mem_attributesOf (named : AreNames (given.map Prod.fst)) :
    ∀ written ∈ attributesOf given, written.IsPlain := by
  intro written member
  rcases List.mem_map.mp member with ⟨entry, held, rfl⟩
  exact ⟨named.2 entry.1 (List.mem_map_of_mem held), not_mem_escaped (by decide) entry.2.toList⟩

theorem nodup_attributesOf (named : AreNames (given.map Prod.fst)) :
    ((attributesOf given).map Attribute.name).Nodup := by
  have names : (attributesOf given).map Attribute.name =
      (given.map Prod.fst).map String.toList := by
    simp [attributesOf]
  rw [names]
  refine List.Pairwise.map String.toList ?_ named.1
  intro first second differ same
  exact differ (String.toList_inj.mp same)

theorem Element.name_of (plain : isPlainName name.toList = true) (children : List Element) :
    (Element.of name given children).name = name.toList :=
  tagName_tagOf plain (attributesOf given)

theorem Element.name_ofText (plain : isPlainName name.toList = true) (text : String) :
    (Element.ofText name text).name = name.toList :=
  tagName_tagOf plain []

theorem Element.attributes?_of (plain : isPlainName name.toList = true)
    (named : AreNames (given.map Prod.fst)) (children : List Element) :
    (Element.of name given children).attributes? = some (attributesOf given) :=
  Element.attributes?_tagOf plain (isPlain_of_mem_attributesOf named) (nodup_attributesOf named) _

theorem Element.isPlain_of {children : List Element} (plain : isPlainName name.toList = true)
    (named : AreNames (given.map Prod.fst)) (inside : ∀ child ∈ children, child.node.IsPlain) :
    (Element.of name given children).node.IsPlain := by
  refine .elements (.of plain (isPlain_of_mem_attributesOf named)) ?_
  intro node member
  rcases List.mem_map.mp member with ⟨child, held, rfl⟩
  exact inside child held

theorem Element.isPlain_ofText {text : String} (plain : isPlainName name.toList = true)
    (trimmed : isTrimmed text.toList = true) :
    (Element.ofText name text).node.IsPlain := by
  have plainTag : IsPlainTag (tagOf name.toList []) := .of plain (by simp)
  by_cases empty : text = ""
  · have none : (Element.ofText name text).node = .element (tagOf name.toList []) [] := by
      rw [node, ofText, if_pos empty]
    rw [none]
    exact .elements plainTag (by simp)
  · have one : (Element.ofText name text).node =
        .element (tagOf name.toList []) [.text (some text.toList)] := by
      rw [node, ofText, if_neg empty]
    rw [one]
    refine .text plainTag ?_ trimmed
    intro none
    exact empty (String.toList_eq_nil_iff.mp none)

end Names

/-- A text is read out of the element in which it has been written. -/
theorem Element.text_ofText (name text : String) : (Element.ofText name text).text = .ok text := by
  unfold ofText
  split
  · next empty => rw [empty]; rfl
  · exact congrArg Except.ok String.ofList_toList

/-! ## Children as runs -/

/-- Children of one full name stand in one run. -/
theorem Element.runs_of_alike {tag name : List Char} {first : Element} {others : List Element}
    (alike : ∀ child ∈ first :: others, child.name = name) :
    Element.runs ⟨tag, (first :: others).map Element.node⟩ = [.elements first others] := by
  induction others generalizing first with
  | nil => rfl
  | cons second others induction =>
      have behind : Element.runs ⟨tag, (second :: others).map Element.node⟩ =
          [.elements second others] :=
        induction (fun child member => alike child (List.mem_cons_of_mem _ member))
      have same : first.name = second.name := by
        rw [alike first (by simp), alike second (by simp)]
      unfold Element.runs at behind ⊢
      dsimp only at behind ⊢
      rw [List.map_cons, List.foldr_cons, behind]
      exact if_pos same

/-- Two children of different names stand in a run each. -/
theorem Element.runs_pair {tag : List Char} {first second : Element}
    (differ : first.name ≠ second.name) :
    Element.runs ⟨tag, [first, second].map Element.node⟩ =
      [.elements first [], .elements second []] :=
  if_neg differ

/-! ## Reading fields -/

section Fields

variable {ρ α : Type} {fields : List (Field ρ)} {seen : List Nat} {record : ρ}
  {filled : Filling ρ} {index : Nat} {names : List String}

/-- An attribute sets its field. -/
theorem Filling.foldlM_take_cons {set : String → ρ → ρ} {name value key : String}
    {rest : List (String × String)}
    (known : Attribute.key ⟨name.toList, escaped value.toList⟩ = key)
    (found : Field.find? fields key = some (index, ⟨names, .text set⟩)) (fresh : index ∉ seen)
    (taken : (attributesOf rest).foldlM (Filling.take fields)
      ⟨index :: seen, set value record⟩ = .ok filled) :
    (attributesOf ((name, value) :: rest)).foldlM (Filling.take fields) ⟨seen, record⟩ =
      .ok filled := by
  have first : Filling.take fields ⟨seen, record⟩ ⟨name.toList, escaped value.toList⟩ =
      .ok ⟨index :: seen, set value record⟩ := by
    unfold take
    rw [known, found]
    simp [see, fresh, change]
  rw [attributesOf, List.map_cons, List.foldlM_cons, first, ok_bind]
  exact taken

/-- Attributes that are no fields are passed over. -/
theorem Filling.foldlM_take_unknown {attributes : List Attribute} {filling : Filling ρ}
    (unknown : ∀ given ∈ attributes, Field.find? fields given.key = none) :
    attributes.foldlM (Filling.take fields) filling = .ok filling := by
  induction attributes with
  | nil => rfl
  | cons given rest induction =>
      have first : filling.take fields given = .ok filling := by
        unfold take
        rw [unknown given List.mem_cons_self]
      rw [List.foldlM_cons, first, ok_bind,
        induction (fun other member => unknown other (List.mem_cons_of_mem _ member))]

variable {rest : List Run}

/-- A child sets the field that is its text. -/
theorem Filling.content_text {set : String → ρ → ρ} {child : Element} {text : String}
    (found : Field.find? fields (String.ofList child.localName) =
      some (index, ⟨names, .text set⟩))
    (fresh : index ∉ seen) (read : child.text = .ok text)
    (held : Filling.content fields ⟨index :: seen, set text record⟩ rest = .ok filled) :
    Filling.content fields ⟨seen, record⟩ (.elements child [] :: rest) = .ok filled := by
  rw [content, found]
  simpa [see, fresh, read, change] using held

/-- A child sets the field that is read from it. -/
theorem Filling.content_element {name : String} {decoder : Decoder α} {set : α → ρ → ρ}
    {child : Element} {value : α}
    (found : Field.find? fields (String.ofList child.localName) =
      some (index, .element name decoder set))
    (fresh : index ∉ seen) (read : decoder child = .ok value)
    (held : Filling.content fields ⟨index :: seen, set value record⟩ rest = .ok filled) :
    Filling.content fields ⟨seen, record⟩ (.elements child [] :: rest) = .ok filled := by
  rw [content, found]
  simpa [Field.element, see, fresh, read, change] using held

/-- Children that stand behind each other, with no text behind them, set a list. -/
theorem Filling.content_list {name : String} {item : Decoder α} {set : List α → ρ → ρ}
    {first : Element} {others : List Element} {items : List α}
    (found : Field.find? fields (String.ofList first.localName) =
      some (index, .list name item set))
    (fresh : index ∉ seen) (behind : beginsWithText rest = false)
    (read : (first :: others).mapM item = .ok items)
    (held : Filling.content fields ⟨index :: seen, set items record⟩ rest = .ok filled) :
    Filling.content fields ⟨seen, record⟩ (.elements first others :: rest) = .ok filled := by
  have noted : Filling.see ⟨seen, record⟩ index = .ok ⟨index :: seen, record⟩ := by
    simp [see, fresh]
  rw [content, found]
  dsimp only [Field.list]
  rw [noted, ok_bind, behind, if_neg Bool.false_ne_true, read]
  exact held

/-- A written element is read as the record that its attributes and its children give. -/
theorem Decoder.record_written {name : String} {given : List (String × String)}
    {children : List Element} {default : ρ} {filling : Filling ρ}
    (plain : isPlainName name.toList = true) (named : AreNames (given.map Prod.fst))
    (taken : (attributesOf given).foldlM (Filling.take fields) ⟨[], default⟩ = .ok filling)
    (held : filling.content fields (Element.of name given children).runs = .ok ⟨seen, record⟩) :
    Decoder.record fields default (Element.of name given children) = .ok record := by
  unfold Decoder.record
  dsimp only
  rw [Element.attributes?_of plain named]
  dsimp only
  rw [taken, ok_bind, held]
  rfl

end Fields

/-! ## Reading lists -/

section Lists

variable {α : Type} {item : Decoder α} {write : α → Element} {items : List α}

theorem mapM_map_of_read (read : ∀ value ∈ items, item (write value) = .ok value) :
    (items.map write).mapM item = .ok items := by
  rw [mapM_eq_ok_iff, List.map_map]
  exact List.map_congr_left read

/-- A list that is all a record holds is read item by item. -/
theorem Decoder.record_list_written {ρ : Type} {outer inner : String} {set : List α → ρ → ρ}
    {default : ρ} {given : List (String × String)} {children : List Element}
    (plain : isPlainName outer.toList = true) (named : AreNames (given.map Prod.fst))
    (unknown : ∀ written ∈ attributesOf given,
      Field.find? [Field.list inner item set] written.key = none)
    (unprefixed : localName inner.toList = inner.toList)
    (alike : ∀ child ∈ children, child.name = inner.toList)
    (read : children.mapM item = .ok items) (blank : set [] default = default) :
    Decoder.record [.list inner item set] default (.of outer given children) =
      .ok (set items default) := by
  have taken : (attributesOf given).foldlM (Filling.take [Field.list inner item set])
      ⟨[], default⟩ = .ok ⟨[], default⟩ := Filling.foldlM_take_unknown unknown
  have held : ∃ seen, Filling.content [Field.list inner item set] ⟨[], default⟩
      (Element.of outer given children).runs = .ok ⟨seen, set items default⟩ := by
    cases children with
    | nil =>
        have none : items = [] := Except.ok.inj read.symm
        rw [none, blank]
        exact ⟨[], rfl⟩
    | cons first others =>
        have runs : (Element.of outer given (first :: others)).runs =
            [.elements first others] := Element.runs_of_alike alike
        have found : Field.find? [Field.list inner item set] (String.ofList first.localName) =
            some (0, .list inner item set) := by
          rw [Element.localName, alike first List.mem_cons_self, unprefixed, String.ofList_toList]
          simp [Field.find?, Field.list]
        rw [runs]
        exact ⟨[0], Filling.content_list found List.not_mem_nil rfl read rfl⟩
  rcases held with ⟨seen, held⟩
  exact Decoder.record_written plain named taken held

end Lists

end ChangeTransport.Xml
