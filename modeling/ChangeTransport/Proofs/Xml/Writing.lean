import ChangeTransport.Proofs.Text.Utf8
import ChangeTransport.Proofs.Xml.Markup

/-!
# Documents that are written

An element is written with one empty tag if it holds nothing, and else with its content between its
start tag and its end tag.  A document that is written so is cut into the tokens of its elements,
and out of these the same elements are built.
-/

namespace ChangeTransport.Xml

/-! ## Writing elements -/

mutual

/-- A part of the content of an element as it is written. -/
def Node.written : Node → List Char
  | .element tag [] => '<' :: tag ++ ['/', '>']
  | .element tag (first :: rest) =>
    '<' :: tag ++ ['>'] ++ (first.written ++ Node.writtenAll rest) ++
      ['<', '/'] ++ tagName tag ++ ['>']
  | .text characters => escaped (characters.getD [])

/-- The content of an element as it is written. -/
def Node.writtenAll : List Node → List Char
  | [] => []
  | node :: rest => node.written ++ Node.writtenAll rest

end

mutual

/-- The tokens of a part of the content. -/
def Node.tokens : Node → List Token
  | .element tag [] => [.emptyTag tag]
  | .element tag (first :: rest) =>
    .startTag tag :: (first.tokens ++ Node.tokensOfAll rest) ++ [.endTag (tagName tag)]
  | .text characters => [.text (escaped (characters.getD []))]

/-- The tokens of a content. -/
def Node.tokensOfAll : List Node → List Token
  | [] => []
  | node :: rest => node.tokens ++ Node.tokensOfAll rest

end

/-- An element of records: it holds a text with nothing to take away at its ends, or elements. -/
inductive Node.IsPlain : Node → Prop where
  | text {tag characters : List Char} (plainTag : IsPlainTag tag) (holds : characters ≠ [])
      (trimmed : isTrimmed characters = true) : IsPlain (.element tag [.text (some characters)])
  | elements {tag : List Char} {content : List Node} (plainTag : IsPlainTag tag)
      (each : ∀ node ∈ content, node.IsPlain) : IsPlain (.element tag content)

/-! ## Cutting a written element into its tokens -/

namespace Scanner

variable (read : List Token)

/-- A written start tag. -/
theorem foldl_step_startTag {tag : List Char} (plain : IsPlainTag tag) :
    ('<' :: tag ++ ['>']).foldl step ⟨read, .text []⟩ = ⟨.startTag tag :: read, .text []⟩ := by
  rcases plain with ⟨plainName, each⟩
  exact isCutInto_startMarkup plainName (isTagRest_written each) read

/-- The tag of an element that is written without content. -/
theorem foldl_step_emptyTag {tag : List Char} (plain : IsPlainTag tag) :
    ('<' :: tag ++ ['/', '>']).foldl step ⟨read, .text []⟩ =
      ⟨.emptyTag tag :: read, .text []⟩ := by
  rcases plain with ⟨plainName, each⟩
  exact isCutInto_emptyMarkup plainName (isTagRest_written each) read

/-- A written end tag, behind other markup. -/
theorem foldl_step_endTag {name : List Char} (plain : isPlainName name = true) :
    (['<', '/'] ++ name ++ ['>']).foldl step ⟨read, .text []⟩ =
      ⟨.endTag name :: read, .text []⟩ := by
  have cut := isCutInto_endMarkup plain (List.forall_mem_nil _) read
  rwa [endMarkup, List.append_nil] at cut

/-- A text that is followed by other markup is one token. -/
theorem foldl_step_text {raw : List Char} (holds : raw ≠ []) (plain : '<' ∉ raw) :
    (raw ++ ['<']).foldl step ⟨read, .text []⟩ =
      ['<'].foldl step ⟨.text raw :: read, .text []⟩ := by
  have collected : raw.foldl step ⟨read, .text []⟩ = ⟨read, .text (raw.reverse ++ [])⟩ := by
    refine foldl_collect step (fun before => ⟨read, .text before⟩) ?_ []
    intro character member before
    have other : character ≠ '<' := ne_of_mem_of_not_mem member plain
    simp [step, other, moveTo]
  rw [List.foldl_append, collected, List.append_nil]
  cases reversed : raw.reverse with
  | nil => exact absurd (List.reverse_eq_nil_iff.mp reversed) holds
  | cons last before =>
      have whole : raw = (last :: before).reverse := by rw [← reversed, List.reverse_reverse]
      rw [whole]
      rfl

end Scanner

/-- Where every part of a content is cut into its tokens, the content is. -/
theorem foldl_step_writtenAll {content : List Node}
    (each : ∀ node ∈ content, ∀ read : List Token,
      node.written.foldl Scanner.step ⟨read, .text []⟩ =
        ⟨node.tokens.reverse ++ read, .text []⟩)
    (read : List Token) :
    (Node.writtenAll content).foldl Scanner.step ⟨read, .text []⟩ =
      ⟨(Node.tokensOfAll content).reverse ++ read, .text []⟩ := by
  induction content generalizing read with
  | nil => rfl
  | cons node rest induction =>
      rw [Node.writtenAll, List.foldl_append, each node List.mem_cons_self,
        induction (fun other member => each other (List.mem_cons_of_mem _ member)),
        Node.tokensOfAll, List.reverse_append, List.append_assoc]

theorem IsPlainTag.tagName {tag : List Char} (plain : IsPlainTag tag) :
    isPlainName (tagName tag) = true := by
  rcases plain with ⟨plainName, each⟩
  rw [tagName_tagOf plainName]
  exact plainName

/-- A written element is cut into its tokens. -/
theorem Node.IsPlain.foldl_step_written {node : Node} (plain : node.IsPlain)
    (read : List Token) :
    node.written.foldl Scanner.step ⟨read, .text []⟩ =
      ⟨node.tokens.reverse ++ read, .text []⟩ := by
  induction plain generalizing read with
  | @text tag characters plainTag holds trimmed =>
      have split : (Node.element tag [.text (some characters)]).written =
          ('<' :: tag ++ ['>']) ++
            ((escaped characters ++ ['<']) ++ (['/'] ++ Xml.tagName tag ++ ['>'])) := by
        simp [Node.written, Node.writtenAll]
      have rejoined : ['<'] ++ (['/'] ++ Xml.tagName tag ++ ['>']) =
          ['<', '/'] ++ Xml.tagName tag ++ ['>'] := rfl
      rw [split, List.foldl_append, List.foldl_append, Scanner.foldl_step_startTag read plainTag,
        Scanner.foldl_step_text _ (escaped_ne_nil holds) (not_mem_escaped (by decide) _),
        ← List.foldl_append, rejoined, Scanner.foldl_step_endTag _ plainTag.tagName]
      rfl
  | @elements tag content plainTag each induction =>
      cases content with
      | nil => exact Scanner.foldl_step_emptyTag read plainTag
      | cons first rest =>
          have split : (Node.element tag (first :: rest)).written =
              ('<' :: tag ++ ['>']) ++
                (Node.writtenAll (first :: rest) ++
                  (['<', '/'] ++ Xml.tagName tag ++ ['>'])) := by
            simp [Node.written, Node.writtenAll]
          have tokens : (Node.element tag (first :: rest)).tokens =
              .startTag tag :: Node.tokensOfAll (first :: rest) ++
                [.endTag (Xml.tagName tag)] := rfl
          rw [split, List.foldl_append, List.foldl_append,
            Scanner.foldl_step_startTag read plainTag, foldl_step_writtenAll induction,
            Scanner.foldl_step_endTag _ plainTag.tagName, tokens]
          simp

/-! ## Building an element out of its tokens -/

namespace Builder

/-- The elements around the next one, as long as there can be one. -/
def around? : Builder → Option (List Frame)
  | .before => some []
  | .inside frame outer => some (frame :: outer)
  | .whole _ => none
  | .stopped => none

variable {builder : Builder} {outer : List Frame}

theorem step_startTag (ready : builder.around? = some outer) (tag : List Char) :
    builder.step (.startTag tag) = .inside (.start tag) outer := by
  cases builder <;> cases ready <;> rfl

theorem step_emptyTag (ready : builder.around? = some outer) (tag : List Char) :
    builder.step (.emptyTag tag) = complete ⟨tag, []⟩ outer := by
  cases builder <;> cases ready <;> rfl

theorem step_endTag (frame : Frame) (outer : List Frame) :
    (inside frame outer).step (.endTag (tagName frame.tag)) = complete frame.close outer := by
  simp [step]

/-- A whole element is put behind the other parts of the content if no text stands between. -/
theorem complete_cons (element : Element) (tag : List Char) (before : List Node)
    (outer : List Frame) :
    complete element (⟨tag, before, []⟩ :: outer) =
      .inside ⟨tag, .element element.tag element.content :: before, []⟩ outer := rfl

/-- Where every part of a content is an element that is built, the content is. -/
theorem foldl_step_tokensOfAll {content : List Node}
    (each : ∀ node ∈ content, ∃ element : Element,
      node = .element element.tag element.content ∧
      ∀ {builder : Builder} {outer : List Frame}, builder.around? = some outer →
        node.tokens.foldl step builder = complete element outer)
    (tag : List Char) (before : List Node) (outer : List Frame) :
    (Node.tokensOfAll content).foldl step (.inside ⟨tag, before, []⟩ outer) =
      .inside ⟨tag, content.reverse ++ before, []⟩ outer := by
  induction content generalizing before with
  | nil => rfl
  | cons node rest induction =>
      rcases each node List.mem_cons_self with ⟨element, same, built⟩
      rw [Node.tokensOfAll, List.foldl_append, built rfl, complete_cons,
        induction (fun other member => each other (List.mem_cons_of_mem _ member)), ← same]
      simp

end Builder

/-- A trimmed text that has been escaped is read as it has been. -/
theorem Node.ofPieces?_escaped {characters : List Char} (holds : characters ≠ [])
    (trimmed : isTrimmed characters = true) :
    Node.ofPieces? [.raw (escaped characters)] = some (.text (some characters)) := by
  have leading : withoutLeadingBlanks [.raw (escaped characters)] =
      [.raw (escaped characters)] := by
    rw [withoutLeadingBlanks, dropWhile_escaped trimmed]
    split
    · next none => exact absurd none (escaped_ne_nil holds)
    · rfl
  have read : pieceCharacters [.raw (escaped characters)] = some characters := by
    rw [pieceCharacters, dropWhile_reverse_escaped trimmed, List.reverse_reverse,
      resolve_escaped]
  unfold Node.ofPieces?
  rw [leading]
  dsimp only
  rw [read]

/-- Out of the tokens of a written element, the element is built. -/
theorem Node.IsPlain.exists_element {node : Node} (plain : node.IsPlain) :
    ∃ element : Element, node = .element element.tag element.content ∧
      ∀ {builder : Builder} {outer : List Frame}, builder.around? = some outer →
        node.tokens.foldl Builder.step builder = Builder.complete element outer := by
  induction plain with
  | @text tag characters plainTag holds trimmed =>
      refine ⟨⟨tag, [.text (some characters)]⟩, rfl, ?_⟩
      intro builder outer ready
      have tokens : (Node.element tag [.text (some characters)]).tokens =
          [.startTag tag, .text (escaped characters), .endTag (Xml.tagName tag)] := rfl
      have flushed : Frame.close ⟨tag, [], [.raw (escaped characters)]⟩ =
          ⟨tag, [.text (some characters)]⟩ := by
        unfold Frame.close Frame.flush
        dsimp only
        rw [List.reverse_singleton, Node.ofPieces?_escaped holds trimmed]
        rfl
      rw [tokens, List.foldl_cons, Builder.step_startTag ready, ← flushed]
      exact Builder.step_endTag ⟨tag, [], [.raw (escaped characters)]⟩ outer
  | @elements tag content plainTag each induction =>
      refine ⟨⟨tag, content⟩, rfl, ?_⟩
      intro builder outer ready
      cases content with
      | nil => exact Builder.step_emptyTag ready tag
      | cons first rest =>
          have tokens : (Node.element tag (first :: rest)).tokens =
              .startTag tag :: (Node.tokensOfAll (first :: rest) ++
                [.endTag (Xml.tagName tag)]) := rfl
          have closed : Frame.close ⟨tag, (first :: rest).reverse ++ [], []⟩ =
              ⟨tag, first :: rest⟩ := by
            simp [Frame.close, Frame.flush, Node.ofPieces?, withoutLeadingBlanks]
          rw [tokens, List.foldl_cons, Builder.step_startTag ready, List.foldl_append, Frame.start,
            Builder.foldl_step_tokensOfAll induction, ← closed]
          exact Builder.step_endTag ⟨tag, (first :: rest).reverse ++ [], []⟩ outer

/-! ## Reading a written document -/

variable {tag : List Char} {content : List Node}

/-- The tokens of a written document are those of its element. -/
theorem tokens_written (plain : (Node.element tag content).IsPlain) :
    tokens (Node.element tag content).written = (Node.element tag content).tokens := by
  have noMark : withoutMark (Node.element tag content).written =
      (Node.element tag content).written := by
    cases content <;> rfl
  rw [tokens_eq_finish_scan, scan, noMark, Scanner.start, plain.foldl_step_written,
    List.append_nil]
  exact List.reverse_reverse _

theorem ofTokens?_tokens (plain : (Node.element tag content).IsPlain) :
    Element.ofTokens? (Node.element tag content).tokens = some ⟨tag, content⟩ := by
  rcases plain.exists_element with ⟨element, same, built⟩
  cases same
  have whole : (Node.element element.tag element.content).tokens.foldl Builder.step .before =
      .whole element := @built .before [] rfl
  exact Element.ofTokens?_eq_some_iff.mpr whole

theorem opening_tokens (tag : List Char) (content : List Node) :
    Opening.ofTokens (Node.element tag content).tokens = .element tag := by
  cases content <;> rfl

/-- A written document with the wanted root element is decoded as this element. -/
theorem decodeDocument_written {α : Type} (decoder : Decoder α) {wanted : String}
    (plain : (Node.element tag content).IsPlain)
    (named : String.ofList (localName (tagName tag)) = wanted) :
    decodeDocument decoder wanted (Text.Utf8.encode (Node.element tag content).written) =
      decoder ⟨tag, content⟩ := by
  have text : Text.Utf8.decode (Text.Utf8.encode (Node.element tag content).written) =
      .ok (Node.element tag content).written := Text.Utf8.decode_eq_ok_iff.mpr rfl
  have rooted : checkRoot wanted (Node.element tag content).written = .ok () := by
    unfold checkRoot
    rw [tokens_written plain, opening_tokens]
    exact if_pos named
  unfold decodeDocument bodyCharacters
  rw [text]
  dsimp only
  rw [ok_bind, rooted, ok_bind, decodeCharacters, tokens_written plain, ofTokens?_tokens plain]

end ChangeTransport.Xml
