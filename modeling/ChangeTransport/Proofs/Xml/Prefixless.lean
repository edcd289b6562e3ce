import ChangeTransport.Proofs.Xml.Content
import ChangeTransport.Proofs.Xml.Respelling

/-!
# Records and prefixes

A record is read from an element as from every other one of its outline, with one exception: the
elements of a list have to have one full name, prefixes and all.  So for each decoder there is a
condition on elements that all it accepts meet, and under which it accepts an element once it
accepts another one of the same outline, with the same value.
-/

namespace ChangeTransport.Xml

/-- Elements that are the same but for the prefixes in their tags. -/
def Element.Alike (element other : Element) : Prop :=
  element.outline prefixless = other.outline prefixless

namespace Element.Alike

variable {element other : Element} (alike : element.Alike other)

theorem iff {element other : Element} : element.Alike other ↔
    prefixless element.tag = prefixless other.tag ∧
      element.content.map (Node.outline prefixless) =
        other.content.map (Node.outline prefixless) := by
  simp [Element.Alike, outline]

include alike

theorem localName_eq : element.localName = other.localName :=
  congrArg Prod.fst (iff.mp alike).1

theorem depth_eq : element.depth = other.depth := by
  have contents := (iff.mp alike).2
  rw [← Node.outlines_eq_map, ← Node.outlines_eq_map] at contents
  exact Node.depthOfAll_eq_of_outlines prefixless contents

theorem pass_eq : element.pass = other.pass := by
  have contents := (iff.mp alike).2
  unfold pass
  cases inside : element.content with
  | nil =>
      rw [inside] at contents
      rw [List.map_eq_nil_iff.mp contents.symm]
  | cons node rest =>
      cases inside' : other.content with
      | nil => simp [inside, inside'] at contents
      | cons node' rest' =>
          rw [inside, inside', List.map_cons, List.map_cons] at contents
          have heads := (List.cons.inj contents).1
          cases node <;> cases node' <;> simp [Node.outline] at heads ⊢
          rw [heads]

theorem text_eq : element.text = other.text := by
  have contents := (iff.mp alike).2
  have lengths := congrArg List.length contents
  rw [List.length_map, List.length_map] at lengths
  unfold text
  rcases inside : element.content with _ | ⟨node, _ | ⟨next, rest⟩⟩ <;>
    rcases inside' : other.content with _ | ⟨node', _ | ⟨next', rest'⟩⟩ <;>
    simp only [inside, inside', List.length_cons, List.length_nil] at contents lengths
  · rfl
  · omega
  · omega
  · omega
  · have heads : node.outline prefixless = node'.outline prefixless := (List.cons.inj contents).1
    cases node <;> cases node' <;> simp [Node.outline] at heads ⊢
    rw [heads]
  · omega
  · omega
  · omega
  · simp

end Element.Alike

section Records

variable {ρ α : Type} {fields : List (Field ρ)}

/-- Attributes of the same keys and values are taken alike. -/
theorem Filling.foldlM_take_eq {attributes attributes' : List Attribute}
    (same : attributes.map (fun given => (given.key, given.raw)) =
      attributes'.map (fun given => (given.key, given.raw))) (filling : Filling ρ) :
    attributes.foldlM (Filling.take fields) filling =
      attributes'.foldlM (Filling.take fields) filling := by
  induction attributes generalizing attributes' filling with
  | nil => rw [List.map_eq_nil_iff.mp same.symm]
  | cons given rest induction =>
      cases attributes' with
      | nil => cases same
      | cons given' rest' =>
          rw [List.map_cons, List.map_cons] at same
          rcases Prod.mk.inj (List.cons.inj same).1 with ⟨keys, raws⟩
          have first : filling.take fields given = filling.take fields given' := by
            unfold take
            rw [keys, raws]
          rw [List.foldlM_cons, List.foldlM_cons, first]
          congr 1
          funext next
          exact induction (List.cons.inj same).2 next

/-! ## What decoders heed -/

/--
A decoder that accepts, of all elements of one outline, those that meet a condition, if it accepts
one of them; and that reads the same value from all it accepts.
-/
structure Decoder.Heeds (decoder : Decoder α) (wanted : Element → Prop) : Prop where
  shows : ∀ {element value}, decoder element = .ok value → wanted element
  follows : ∀ {element other value}, element.Alike other → decoder element = .ok value →
    wanted other → decoder other = .ok value

/-- The same for the elements of a field. -/
structure FieldValue.Heeds (value : FieldValue ρ) (wanted : Element → Prop) : Prop where
  shows : ∀ {elements change}, value.Takes elements change → ∀ element ∈ elements, wanted element
  follows : ∀ {elements others change}, List.Forall₂ Element.Alike elements others →
    value.Takes elements change → (∀ other ∈ others, wanted other) → value.Takes others change

theorem FieldValue.text_heeds (set : String → ρ → ρ) :
    FieldValue.Heeds (.text set) fun _ => True := by
  refine ⟨fun _ _ _ => True.intro, ?_⟩
  rintro elements others change alike ⟨element, text, rfl, read, rfl⟩ -
  cases alike with
  | cons first rest =>
      cases rest with
      | nil => exact ⟨_, text, rfl, first.text_eq ▸ read, rfl⟩

variable {decoder : Decoder α} {wanted : Element → Prop}

theorem Field.element_heeds (heeds : decoder.Heeds wanted) (name : String) (set : α → ρ → ρ) :
    (Field.element name decoder set).value.Heeds wanted := by
  constructor
  · rintro elements change ⟨element, rfl, updated⟩ other member
    rw [List.mem_singleton.mp member]
    rcases exists_of_bind_eq_ok updated with ⟨value, decoded, -⟩
    exact heeds.shows decoded
  · rintro elements others change alike ⟨element, rfl, updated⟩ each
    rcases exists_of_bind_eq_ok updated with ⟨value, decoded, made⟩
    cases alike with
    | @cons _ other _ _ first rest =>
        cases rest with
        | nil =>
            refine ⟨other, rfl, ?_⟩
            dsimp only
            rw [heeds.follows first decoded (each other List.mem_cons_self), ok_bind]
            exact made

/-- Items that are decoded one by one are decoded from alike elements that are as wanted. -/
theorem Decoder.Heeds.mapM {elements others : List Element} {values : List α}
    (heeds : decoder.Heeds wanted) (alike : List.Forall₂ Element.Alike elements others)
    (decoded : elements.mapM decoder = .ok values) (each : ∀ other ∈ others, wanted other) :
    others.mapM decoder = .ok values := by
  rw [mapM_eq_ok_iff] at decoded ⊢
  induction alike generalizing values with
  | nil => exact decoded
  | @cons element other rest rest' first later induction =>
      cases values with
      | nil => cases decoded
      | cons value values =>
          rw [List.map_cons, List.map_cons] at decoded
          rw [List.map_cons, List.map_cons,
            heeds.follows first (List.cons.inj decoded).1 (each other List.mem_cons_self),
            induction (List.cons.inj decoded).2 fun third member =>
              each third (List.mem_cons_of_mem _ member)]

theorem Field.list_heeds (heeds : decoder.Heeds wanted) (name : String)
    (set : List α → ρ → ρ) : (Field.list name decoder set).value.Heeds wanted := by
  constructor
  · intro elements change taken element member
    rcases exists_of_bind_eq_ok taken with ⟨values, decoded, -⟩
    rw [mapM_eq_ok_iff] at decoded
    have held : decoder element ∈ values.map .ok := decoded ▸ List.mem_map_of_mem member
    rcases List.mem_map.mp held with ⟨value, -, same⟩
    exact heeds.shows same.symm
  · intro elements others change alike taken each
    rcases exists_of_bind_eq_ok taken with ⟨values, decoded, made⟩
    have all := heeds.mapM alike decoded each
    have updated : (do pure (set (← others.mapM decoder)) : Except Fault (ρ → ρ)) = .ok change := by
      rw [all, ok_bind]
      exact made
    exact updated

/-! ## What records heed -/

variable {wantedOf : String → Element → Prop} {filling filled : Filling ρ} {content : List Node}

/-- Fields each of which heeds what is wanted of the elements of its name. -/
def FieldsHeed (fields : List (Field ρ)) (wantedOf : String → Element → Prop) : Prop :=
  ∀ name index field, Field.find? fields name = some (index, field) →
    field.value.Heeds (wantedOf name)

/-- Elements of one full name have one local name: all of them are looked up by a name, or none. -/
theorem flatMap_named_of_alike {first : Element} {others : List Element}
    (alike : ∀ other ∈ others, other.name = first.name) (name : String) :
    ((first :: others).map Element.node).flatMap (Node.named name) =
      Run.named name (.elements first others) := by
  have each : ∀ element ∈ first :: others, Node.named name element.node =
      if String.ofList first.localName = name then [element] else [] := by
    intro element member
    have same : element.localName = first.localName := by
      rcases List.mem_cons.mp member with rfl | later
      · rfl
      · rw [Element.localName, alike element later, Element.localName]
    exact same ▸ rfl
  rw [List.flatMap_map, List.flatMap_congr each, Run.named]
  split <;> simp

/-- The elements of a field that is read out of a content are as wanted, and have one full name. -/
theorem Reads.shows (reads : Reads fields filling content filled)
    (heeds : FieldsHeed fields wantedOf)
    {name : String} {index : Nat} {field : Field ρ}
    (found : Field.find? fields name = some (index, field)) :
    (index ∈ filling.seen → content.flatMap (Node.named name) = []) ∧
      (∀ element ∈ content.flatMap (Node.named name), wantedOf name element) ∧
      ∀ first ∈ content.flatMap (Node.named name), ∀ second ∈ content.flatMap (Node.named name),
        first.name = second.name := by
  induction reads with
  | nil => simp
  | text legible behind induction => exact induction
  | @other element rest filling filled unknown passed behind induction =>
      have differs : String.ofList element.localName ≠ name := by
        rintro rfl
        rw [found] at unknown
        cases unknown
      have skipped : Node.named name element.node = [] := if_neg differs
      rw [List.flatMap_cons, skipped, List.nil_append]
      exact induction
  | @given first others rest filling filled index' field' change alike found' fresh taken apart
      behind induction =>
      rcases induction with ⟨seenLater, eachLater, namedLater⟩
      rw [List.flatMap_append, flatMap_named_of_alike alike, Run.named]
      by_cases same : String.ofList first.localName = name
      · rw [same, found] at found'
        cases found'
        rw [if_pos same, seenLater List.mem_cons_self, List.append_nil]
        refine ⟨fun seen => absurd seen fresh, ?_, ?_⟩
        · exact (heeds name index field found).shows taken
        · have named : ∀ element ∈ first :: others, element.name = first.name :=
            List.forall_mem_cons.mpr ⟨rfl, alike⟩
          intro one member two member'
          rw [named one member, named two member']
      · rw [if_neg same, List.nil_append]
        exact ⟨fun seen => seenLater (List.mem_cons_of_mem _ seen), eachLater, namedLater⟩

/-- A content of the same outline begins with as many elements that are alike. -/
theorem exists_append_of_outlines {elements : List Element} {rest other : List Node}
    (same : (elements.map Element.node ++ rest).map (Node.outline prefixless) =
      other.map (Node.outline prefixless)) :
    ∃ elements' rest', other = elements'.map Element.node ++ rest' ∧
      List.Forall₂ Element.Alike elements elements' ∧
      rest.map (Node.outline prefixless) = rest'.map (Node.outline prefixless) := by
  induction elements generalizing other with
  | nil => exact ⟨[], other, rfl, .nil, same⟩
  | cons element elements induction =>
      cases other with
      | nil => cases same
      | cons node other =>
          rw [List.map_cons, List.cons_append, List.map_cons, List.map_cons] at same
          have heads := (List.cons.inj same).1
          rcases induction (List.cons.inj same).2 with ⟨elements', rest', rfl, alike, rests⟩
          cases node with
          | text characters => simp [Element.node, Node.outline] at heads
          | element tag content =>
              refine ⟨⟨tag, content⟩ :: elements', rest', rfl, .cons ?_ alike, rests⟩
              rw [Element.node, Node.outline_element, Node.outline_element] at heads
              exact heads

/--
The elements of each field in a content are as wanted, and where a field takes any number of them
they have one full name.
-/
def IsMet (fields : List (Field ρ)) (wantedOf : String → Element → Prop) (content : List Node) :
    Prop :=
  ∀ name index field, Field.find? fields name = some (index, field) →
    (∀ element ∈ content.flatMap (Node.named name), wantedOf name element) ∧
      (field.value.isList = true → ∀ first ∈ content.flatMap (Node.named name),
        ∀ second ∈ content.flatMap (Node.named name), first.name = second.name)

theorem IsMet.of_append {front rest : List Node} (met : IsMet fields wantedOf (front ++ rest)) :
    IsMet fields wantedOf rest := by
  intro name index field found
  rcases met name index field found with ⟨each, named⟩
  have later : ∀ element ∈ rest.flatMap (Node.named name),
      element ∈ (front ++ rest).flatMap (Node.named name) := by
    intro element member
    rw [List.flatMap_append]
    exact List.mem_append_right _ member
  exact ⟨fun element member => each element (later element member), fun isList one member two
    member' => named isList one (later one member) two (later two member')⟩

/-- An element of a content is among those that are looked up by its own local name. -/
theorem mem_flatMap_named {elements : List Element} {element : Element}
    (member : element ∈ elements) (rest : List Node) :
    element ∈ (elements.map Element.node ++ rest).flatMap
      (Node.named (String.ofList element.localName)) := by
  refine List.mem_flatMap.mpr ⟨element.node, ?_, ?_⟩
  · exact List.mem_append_left _ (List.mem_map_of_mem member)
  · have here : Node.named (String.ofList element.localName) element.node = [element] := if_pos rfl
    rw [here]
    exact List.mem_singleton_self element

/-- A field that takes one element takes no other with it. -/
theorem FieldValue.Takes.others_eq_nil {value : FieldValue ρ} {first : Element}
    {others : List Element} {change : ρ → ρ} (taken : value.Takes (first :: others) change)
    (one : value.isList ≠ true) : others = [] := by
  cases value with
  | text set =>
      rcases taken with ⟨element, text, alone, -, -⟩
      exact (List.cons.inj alone).2
  | element update =>
      rcases taken with ⟨element, alone, -⟩
      exact (List.cons.inj alone).2
  | list update => exact absurd rfl one

/-- Elements that are alike have the same local names. -/
theorem forall_localName_of_alike {elements others : List Element} {name : List Char}
    (alike : List.Forall₂ Element.Alike elements others)
    (named : ∀ element ∈ elements, element.localName = name) :
    ∀ other ∈ others, other.localName = name := by
  induction alike with
  | nil => exact List.forall_mem_nil _
  | cons first rest induction =>
      rcases List.forall_mem_cons.mp named with ⟨here, later⟩
      exact List.forall_mem_cons.mpr ⟨first.localName_eq ▸ here, induction later⟩

theorem isText_of_outlines {rest rest' : List Node}
    (same : rest.map (Node.outline prefixless) = rest'.map (Node.outline prefixless))
    (apart : ∀ next ∈ rest.head?, next.isText = false) :
    ∀ next ∈ rest'.head?, next.isText = false := by
  cases rest with
  | nil => simp [List.map_eq_nil_iff.mp same.symm]
  | cons first others =>
      cases rest' with
      | nil => simp
      | cons first' others' =>
          rw [List.map_cons, List.map_cons] at same
          have heads := (List.cons.inj same).1
          have noText := apart first rfl
          cases first <;> cases first' <;> simp_all [Node.outline, Node.isText]

/-- What is read out of a content is read out of another one of its outline. -/
theorem Reads.follows (reads : Reads fields filling content filled)
    (heeds : FieldsHeed fields wantedOf)
    {content' : List Node}
    (same : content.map (Node.outline prefixless) = content'.map (Node.outline prefixless))
    (met : IsMet fields wantedOf content') : Reads fields filling content' filled := by
  induction reads generalizing content' with
  | nil filling =>
      rw [List.map_eq_nil_iff.mp same.symm]
      exact .nil filling
  | @text characters rest filling filled legible behind induction =>
      cases content' with
      | nil => cases same
      | cons node rest' =>
          rw [List.map_cons, List.map_cons] at same
          have heads := (List.cons.inj same).1
          cases node with
          | element tag inside => simp [Node.outline] at heads
          | text characters' =>
              cases Outline.text.inj heads
              exact .text legible
                (induction (List.cons.inj same).2 (@IsMet.of_append _ _ _ [_] _ met))
  | @other element rest filling filled unknown passed behind induction =>
      rcases @exists_append_of_outlines [element] rest content' same with
        ⟨elements, rest', rfl, alike, rests⟩
      cases alike with
      | @cons _ element' _ _ first others =>
          cases others with
          | nil =>
              refine .other ?_ (first.pass_eq ▸ passed) (induction rests met.of_append)
              rwa [← first.localName_eq]
  | @given first others rest filling filled index field change alike found fresh taken apart
      behind induction =>
      rcases exists_append_of_outlines same with ⟨elements, rest', rfl, alikeAll, rests⟩
      cases alikeAll with
      | @cons _ first' _ others' sameFirst sameOthers =>
          have locals : ∀ other ∈ first' :: others', other.localName = first.localName := by
            refine forall_localName_of_alike (.cons sameFirst sameOthers) ?_
            refine List.forall_mem_cons.mpr ⟨rfl, fun other member => ?_⟩
            rw [Element.localName, alike other member, Element.localName]
          have looked : ∀ other ∈ first' :: others', other ∈
              ((first' :: others').map Element.node ++ rest').flatMap
                (Node.named (String.ofList first.localName)) := by
            intro other member
            rw [← locals other member]
            exact mem_flatMap_named member rest'
          -- all of `others` had the full name of `first`; that they still share one is what `met`
          -- says of a list, and a field that takes one element has no others
          rcases met _ index field found with ⟨each, named⟩
          refine .given ?_ (sameFirst.localName_eq ▸ found) fresh
            ((heeds _ index field found).follows (.cons sameFirst sameOthers) taken
              fun other member => each other (looked other member)) ?_
            (induction rests met.of_append)
          · by_cases isList : field.value.isList = true
            · intro other member
              exact named isList other (looked other (List.mem_cons_of_mem _ member)) first'
                (looked first' List.mem_cons_self)
            · cases taken.others_eq_nil isList
              cases sameOthers
              exact List.forall_mem_nil _
          · exact fun isList => isText_of_outlines rests (apart isList)

/-! ## Records -/

/-- A record heeds that each of its fields is met. -/
theorem Decoder.record_heeds (default : ρ) (heeds : FieldsHeed fields wantedOf) :
    (Decoder.record fields default).Heeds fun element =>
      IsMet fields wantedOf element.content := by
  constructor
  · intro element value decoded name index field found
    unfold Decoder.record at decoded
    cases tag : element.attributes? with
    | none => simp [tag] at decoded
    | some attributes =>
        simp only [tag] at decoded
        rcases exists_of_bind_eq_ok decoded with ⟨filling, -, decoded⟩
        rcases exists_of_bind_eq_ok decoded with ⟨filled, taken, -⟩
        have reads := reads_of_content (isAlike_runsOf element.content) taken
        rw [flatMap_nodes_runsOf] at reads
        rcases reads.shows heeds found with ⟨-, each, named⟩
        exact ⟨each, fun _ => named⟩
  · intro element other value alike decoded met
    rcases Element.Alike.iff.mp alike with ⟨tags, contents⟩
    have attributes : element.attributes?.map (List.map fun given => (given.key, given.raw)) =
        other.attributes?.map (List.map fun given => (given.key, given.raw)) :=
      congrArg Prod.snd tags
    unfold Decoder.record at decoded ⊢
    cases tag : element.attributes? with
    | none => simp [tag] at decoded
    | some given =>
        cases tag' : other.attributes? with
        | none => simp [tag, tag'] at attributes
        | some given' =>
            rw [tag, tag', Option.map_some, Option.map_some, Option.some_inj] at attributes
            simp only [tag] at decoded
            simp only [tag']
            rw [Filling.foldlM_take_eq attributes] at decoded
            rcases exists_of_bind_eq_ok decoded with ⟨filling, taken, decoded⟩
            rcases exists_of_bind_eq_ok decoded with ⟨filled, held, made⟩
            have reads := reads_of_content (isAlike_runsOf element.content) held
            rw [flatMap_nodes_runsOf] at reads
            have held' : filling.content fields other.runs = .ok filled :=
              (reads.follows heeds contents met).content_eq_ok
            rw [taken, ok_bind, held', ok_bind]
            exact made

end Records

/-! ## Names that stay -/

/-- The elements of a field have one full name. -/
def Element.OneNamed (name : String) (element : Element) : Prop :=
  ∀ first ∈ element.childrenNamed name, ∀ second ∈ element.childrenNamed name,
    first.name = second.name

theorem flatMap_map_eq_of_imp {α β γ δ : Type} {f : α → β} {g : γ → δ} {next : α → List γ}
    (imp : ∀ {first second}, f first = f second → (next first).map g = (next second).map g)
    {firsts seconds : List α} (same : firsts.map f = seconds.map f) :
    (firsts.flatMap next).map g = (seconds.flatMap next).map g := by
  rw [List.map_flatMap, List.map_flatMap, List.flatMap_def, List.flatMap_def,
    map_eq_map_of_imp imp same]

namespace Element

variable {element other : Element} (same : element.outline keyed = other.outline keyed)

include same

theorem name_eq_of_keyed : element.name = other.name :=
  congrArg Prod.fst (Outline.element.inj same).1

/-- The elements of a name inside elements in which names stay. -/
theorem childrenNamed_of_keyed (name : String) :
    (element.childrenNamed name).map (outline keyed) =
      (other.childrenNamed name).map (outline keyed) := by
  refine flatMap_map_eq_of_imp ?_ (Outline.element.inj same).2
  intro node node' same
  cases node with
  | text characters =>
      cases node' with
      | text characters' => rfl
      | element tag content => simp [Node.outline] at same
  | element tag content =>
      cases node' with
      | text characters => simp [Node.outline] at same
      | element tag' content' =>
          rw [Node.outline_element, Node.outline_element] at same
          have names : localName ⟨tag, content⟩ = localName ⟨tag', content'⟩ :=
            congrArg Xml.localName (name_eq_of_keyed same)
          rw [Node.named, Node.named, names]
          split
          · rw [List.map_singleton, List.map_singleton, same]
          · rfl

theorem descend_of_keyed (path : List String) :
    (element.descend path).map (outline keyed) = (other.descend path).map (outline keyed) := by
  induction path generalizing element other with
  | nil => rw [descend_nil, descend_nil, List.map_singleton, List.map_singleton, same]
  | cons name path induction =>
      exact flatMap_map_eq_of_imp (fun same => induction same) (childrenNamed_of_keyed same name)

theorem oneNamed_of_keyed {name : String} (named : element.OneNamed name) :
    other.OneNamed name := by
  have names : (element.childrenNamed name).map Element.name =
      (other.childrenNamed name).map Element.name :=
    map_eq_map_of_imp (fun same => name_eq_of_keyed same) (childrenNamed_of_keyed same name)
  have one : ∀ first ∈ (element.childrenNamed name).map Element.name,
      ∀ second ∈ (element.childrenNamed name).map Element.name, first = second := by
    simpa [OneNamed] using named
  rw [names] at one
  simpa [OneNamed] using one

end Element

end ChangeTransport.Xml
