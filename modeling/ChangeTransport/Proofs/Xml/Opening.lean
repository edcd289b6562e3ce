import ChangeTransport.Proofs.Xml.RootEnd

/-!
# How a document begins

The name of the root element is looked for in the first tag of a document, and the element is built
out of all its tokens.  Where the element is whole both come to the same tag, so a document is
decoded exactly if its root element is whole, has the wanted name and can be read.
-/

namespace ChangeTransport.Xml

/-! ## The tag of the root element -/

namespace Builder

/-- The tag of the root element, once it has begun. -/
def rootTag? : Builder → Option (List Char)
  | .before => none
  | .inside frame outer => (frame :: outer).getLast?.map Frame.tag
  | .whole root => some root.tag
  | .stopped => none

theorem rootTag?_complete (element : Element) (outer : List Frame) {frame : Frame}
    (same : frame.tag = element.tag) :
    (complete element outer).rootTag? = (inside frame outer).rootTag? := by
  cases outer with
  | nil => exact congrArg some same.symm
  | cons around outer =>
      have kept : (around.push (.element element.tag element.content)).tag = around.tag := by
        unfold Frame.push Frame.flush
        dsimp only
        split <;> rfl
      cases outer <;> simp [complete, rootTag?, kept]

/-- Once the root element has begun, its tag stays. -/
theorem rootTag?_step {builder : Builder} {tag : List Char} (begun : builder.rootTag? = some tag)
    (token : Token) :
    (builder.step token).rootTag? = some tag ∨ builder.step token = .stopped := by
  cases builder with
  | before => cases begun
  | stopped => cases begun
  | whole root => exact .inl begun
  | inside frame outer =>
      have flushed : (inside frame.flush outer).rootTag? = (inside frame outer).rootTag? := by
        have kept : frame.flush.tag = frame.tag := by
          unfold Frame.flush
          split <;> rfl
        cases outer <;> simp [rootTag?, kept]
      cases token with
      | text raw => exact .inl (by cases outer <;> exact begun)
      | «section» characters => exact .inl (by cases outer <;> exact begun)
      | startTag inner => exact .inl begun
      | emptyTag inner =>
          have opened : Frame.tag (.start inner) = inner := rfl
          exact .inl ((rootTag?_complete ⟨inner, []⟩ (frame :: outer) opened).trans begun)
      | endTag name =>
          rw [step]
          split
          · exact .inl ((rootTag?_complete frame.close outer rfl).trans begun)
          · exact .inr rfl
      | documentType => exact .inl (flushed.trans begun)
      | aside => exact .inl begun
      | broken => exact .inr rfl

theorem tag_of_foldl_eq_whole {builder : Builder} {tag : List Char} {root : Element}
    (begun : builder.rootTag? = some tag) {tokens : List Token}
    (whole : tokens.foldl Builder.step builder = .whole root) : root.tag = tag := by
  induction tokens generalizing builder with
  | nil =>
      rw [List.foldl_nil] at whole
      rw [whole] at begun
      exact Option.some.inj begun
  | cons token rest induction =>
      rw [List.foldl_cons] at whole
      rcases rootTag?_step begun token with kept | stopped
      · exact induction kept whole
      · rw [stopped, foldl_stopped] at whole
        cases whole

end Builder

/-- The element with which a document opens is its root element, if that is whole. -/
theorem Opening.ofTokens_of_ofTokens? {tokens : List Token} {root : Element}
    (whole : Element.ofTokens? tokens = some root) :
    Opening.ofTokens tokens = .element root.tag := by
  rw [Element.ofTokens?_eq_some_iff] at whole
  induction tokens with
  | nil => cases whole
  | cons token rest induction =>
      have stopped : Builder.step .before token ≠ .stopped := by
        intro impossible
        rw [List.foldl_cons, impossible, Builder.foldl_stopped] at whole
        cases whole
      rw [List.foldl_cons] at whole
      cases token with
      | text raw =>
          rw [Builder.step] at whole stopped
          split at whole
          · exact induction whole
          · next holds => exact absurd (if_neg holds) stopped
      | «section» characters => exact absurd rfl stopped
      | startTag tag =>
          have begun : (Builder.inside (.start tag) []).rootTag? = some tag := rfl
          rw [ofTokens, Builder.tag_of_foldl_eq_whole begun whole]
      | emptyTag tag =>
          have begun : (Builder.whole ⟨tag, []⟩).rootTag? = some tag := rfl
          rw [ofTokens, Builder.tag_of_foldl_eq_whole begun whole]
      | endTag name => exact absurd rfl stopped
      | documentType => exact induction whole
      | aside => exact induction whole
      | broken => exact absurd rfl stopped

/-- A document is decoded exactly if its root element is whole, has the name and can be read. -/
theorem decodeDocument_of_root {α : Type} (decoder : Decoder α) {wanted : String}
    {body : List UInt8} {root : Element} (found : documentRoot? body = some root) :
    (String.ofList root.localName = wanted ∧
        decodeDocument decoder wanted body = decoder root) ∨
      (String.ofList root.localName ≠ wanted ∧
        ∃ fault, decodeDocument decoder wanted body = .error fault) := by
  unfold documentRoot? at found
  unfold decodeDocument
  cases text : bodyCharacters body with
  | error fault => simp [text] at found
  | ok characters =>
      rw [text] at found
      dsimp only at found
      have opening := Opening.ofTokens_of_ofTokens? found
      by_cases named : String.ofList root.localName = wanted
      · have rooted : checkRoot wanted characters = .ok () := by
          unfold checkRoot
          rw [opening]
          exact if_pos named
        refine .inl ⟨named, ?_⟩
        rw [ok_bind, rooted, ok_bind, decodeCharacters, found]
      · have rooted : checkRoot wanted characters =
            .error (.otherRoot wanted (String.ofList root.localName)) := by
          unfold checkRoot
          rw [opening]
          exact if_neg named
        refine .inr ⟨named, .otherRoot wanted (String.ofList root.localName), ?_⟩
        rw [ok_bind, rooted, error_bind]

end ChangeTransport.Xml
