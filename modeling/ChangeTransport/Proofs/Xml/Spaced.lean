import ChangeTransport.Proofs.Xml.RecordWriting
import ChangeTransport.Proofs.Xml.Respelling

/-!
# Labels of tags, and blanks between them

A tag is read as its label: its name, and its attributes with their references resolved.  Where
nothing but blanks and asides stands between the tags of a document, its root element is the one
that its tags alone would give.
-/

namespace ChangeTransport.Xml

/-! ## Labels -/

/-- What is read of a tag. -/
structure Label where
  name : List Char
  /-- Names and values; the references in the values are resolved. -/
  attributes : List (List Char × List Char)
  deriving Repr, DecidableEq

/-- The name and the value of an attribute; none when a reference has no referent. -/
def Attribute.resolved? (given : Attribute) : Option (List Char × List Char) :=
  (resolve given.raw).map (given.name, ·)

/-- The label of a tag; none when the tag or a reference in it is malformed. -/
def label? (tag : List Char) : Option Label := do
  let attributes ← Element.attributes? ⟨tag, []⟩
  let resolved ← attributes.mapM Attribute.resolved?
  pure ⟨tagName tag, resolved⟩

/-- The label of a name and attributes. -/
def Label.of (name : String) (given : List (String × String)) : Label :=
  ⟨name.toList, given.map fun entry => (entry.1.toList, entry.2.toList)⟩

theorem mapM_resolved?_attributesOf (given : List (String × String)) :
    (attributesOf given).mapM Attribute.resolved? =
      some (given.map fun entry => (entry.1.toList, entry.2.toList)) := by
  induction given with
  | nil => rfl
  | cons entry rest induction =>
      have first : Attribute.resolved? ⟨entry.1.toList, escaped entry.2.toList⟩ =
          some (entry.1.toList, entry.2.toList) := by
        rw [Attribute.resolved?, resolve_escaped, Option.map_some]
      unfold attributesOf at induction ⊢
      rw [List.map_cons, List.mapM_cons, first, induction]
      rfl

section Written

variable {name : String} {given : List (String × String)} (plain : isPlainName name.toList = true)
  (named : AreNames (given.map Prod.fst))

include plain named

/-- A tag is read with the name and the values with which it has been written. -/
theorem label?_tagOf : label? (tagOf name.toList (attributesOf given)) = some (.of name given) := by
  unfold label?
  rw [Element.attributes?_tagOf plain (isPlain_of_mem_attributesOf named)
    (nodup_attributesOf named), tagName_tagOf plain]
  simp only [Option.bind_eq_bind, Option.bind_some, mapM_resolved?_attributesOf]
  rfl

theorem Element.outline_of (children : List Element) :
    (Element.of name given children).outline label? =
      .element (some (.of name given)) (children.map (Element.outline label?)) := by
  rw [Element.outline, Element.of, label?_tagOf plain named, List.map_map]
  congr 2
  funext child
  exact Node.outline_element label? child.tag child.content

end Written

/-! ## Blanks between tags -/

theorem Scanner.eq_of_place {scanner : Scanner} {place : Place} (here : scanner.place = place) :
    scanner = ⟨scanner.before, place⟩ := by
  rw [← here]

/-- Whether a token is a tag of an element. -/
def Token.isTag : Token → Bool
  | .startTag _ => true
  | .emptyTag _ => true
  | .endTag _ => true
  | _ => false

theorem Token.isTag_iff {token : Token} : token.isTag = true ↔ token.IsTag := by
  cases token <;> simp [isTag, IsTag]

/-- Whether a token stands between tags without a meaning. -/
def Token.isSpace : Token → Bool
  | .aside => true
  | .text raw => raw.all isBlank
  | _ => false

theorem Token.isSpace_iff {token : Token} : token.isSpace = true ↔ token.IsBlank := by
  cases token <;> simp [isSpace, IsBlank]

/-- Tags, and tokens between them that have no meaning. -/
def AreSpacedTags (tokens : List Token) : Prop :=
  ∀ token ∈ tokens, token.isTag = true ∨ token.isSpace = true

instance (tokens : List Token) : Decidable (AreSpacedTags tokens) :=
  inferInstanceAs <| Decidable <| ∀ token ∈ tokens, token.isTag = true ∨ token.isSpace = true

theorem AreSpacedTags.append {front behind : List Token} (spaced : AreSpacedTags front)
    (spacedBehind : AreSpacedTags behind) : AreSpacedTags (front ++ behind) :=
  List.forall_mem_append.mpr ⟨spaced, spacedBehind⟩

namespace Builder

variable {γ : Type} {view : List Char → γ}

/-- In front of the root element, a token without a meaning makes no difference. -/
theorem step_before_of_isBlank {token : Token} (blank : token.IsBlank) :
    step .before token = .before := by
  rcases blank with rfl | ⟨raw, rfl, blank⟩
  · rfl
  · exact if_pos (by simpa using blank)

/-- What stands between tags without a meaning makes no difference to what is built. -/
theorem alike_filter_isTag {tokens : List Token} (spaced : AreSpacedTags tokens)
    {builder : Builder} (ready : builder = .before ∨ builder.IsRested) :
    (tokens.foldl step builder).Alike view
      ((tokens.filter Token.isTag).foldl step builder) := by
  induction tokens generalizing builder with
  | nil => exact .refl _
  | cons token rest induction =>
      rcases List.forall_mem_cons.mp spaced with ⟨here, later⟩
      cases isTag : token.isTag with
      | true =>
          rw [List.filter_cons_of_pos isTag]
          exact induction later (.inr (isRested_step_of_isTag (Token.isTag_iff.mp isTag) builder))
      | false =>
          have blank : token.IsBlank :=
            Token.isSpace_iff.mp (here.resolve_left (by simp [isTag]))
          rw [List.filter_cons_of_neg (by simp [isTag]), List.foldl_cons]
          rcases ready with rfl | rested
          · rw [step_before_of_isBlank blank]
            exact induction later (.inl rfl)
          · rcases rested.step_of_isBlank blank with ⟨rested', alike⟩
            exact (induction later (.inr rested')).trans (alike.foldl_step _)

end Builder

/-- The root element of tags with blanks between them is the one that is written as the tags. -/
theorem Element.exists_ofTokens?_of_spaced {γ : Type} (view : List Char → γ) {tokens : List Token}
    (spaced : AreSpacedTags tokens) {element : Element} (plain : element.node.IsPlain)
    (tags : tokens.filter Token.isTag = element.node.tokens) :
    ∃ root, Element.ofTokens? tokens = some root ∧ root.outline view = element.outline view := by
  have alike : (tokens.foldl Builder.step .before).Alike view
      ((tokens.filter Token.isTag).foldl Builder.step .before) :=
    Builder.alike_filter_isTag spaced (.inl rfl)
  rw [tags, node, ofTokens?_eq_some_iff.mp (Xml.ofTokens?_tokens plain)] at alike
  rcases alike.symm.exists_whole with ⟨root, whole, same⟩
  exact ⟨root, ofTokens?_eq_some_iff.mpr whole, same.symm⟩

end ChangeTransport.Xml
