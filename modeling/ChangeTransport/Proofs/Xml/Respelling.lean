import Mathlib.Logic.Relation
import ChangeTransport.Proofs.Xml.Markup
import ChangeTransport.Proofs.Xml.Outline
import ChangeTransport.Proofs.Xml.Writing

/-!
# Documents that are spelled otherwise

A document is spelled otherwise by giving another prefix to an element or to attributes, by filling
a gap between two tags with other blanks, comments and instructions, and by writing an empty element
with one tag or with two.  None of this changes the outline of its root element, in which names
stand without their prefixes.
-/

namespace ChangeTransport.Xml

/-! ## Steps -/

/-- Tokens in which every start tag has its end tag. -/
inductive Balanced : List Token → Prop
  | nil : Balanced []
  | text (raw : List Char) {rest : List Token} (behind : Balanced rest) :
      Balanced (.text raw :: rest)
  | section (characters : List Char) {rest : List Token} (behind : Balanced rest) :
      Balanced (.section characters :: rest)
  | documentType {rest : List Token} (behind : Balanced rest) : Balanced (.documentType :: rest)
  | aside {rest : List Token} (behind : Balanced rest) : Balanced (.aside :: rest)
  | emptyTag (tag : List Char) {rest : List Token} (behind : Balanced rest) :
      Balanced (.emptyTag tag :: rest)
  | element (tag name : List Char) {inside rest : List Token} (content : Balanced inside)
      (behind : Balanced rest) : Balanced (.startTag tag :: (inside ++ .endTag name :: rest))

/-- The content of an element: it breaks off in no markup, and its tags are balanced. -/
structure IsContent (content : List Char) : Prop where
  whole : ∃ pending, (content.foldl Scanner.step .start).place = .text pending
  balanced : Balanced (content.foldl Scanner.step .start).finish

/-- The front of a document, up to a place at which markup can begin. -/
def EndsBetween (front : List Char) : Prop := ∃ pending, (scan front).place = .text pending

/-- A tag of an element. -/
def Token.IsTag (token : Token) : Prop :=
  (∃ tag, token = .startTag tag) ∨ (∃ tag, token = .emptyTag tag) ∨ ∃ name, token = .endTag name

/-- The front of a document, up to the end of a tag. -/
def EndsWithTag (front : List Char) : Prop :=
  ∃ tag read, scan front = ⟨tag :: read, .text []⟩ ∧ tag.IsTag

/-- The rest of a document, from the beginning of a tag. -/
def BeginsWithTag (behind : List Char) : Prop :=
  ∃ first rest, behind = '<' :: first :: rest ∧ first ≠ '!' ∧ first ≠ '?'

/--
Attributes of which one is another spelling of the other: of the same value, and of names that
differ in their prefixes alone.  A declaration of a namespace has no other spelling.
-/
inductive Attribute.SameButPrefix : Attribute → Attribute → Prop
  | refl (given : Attribute) : SameButPrefix given given
  | of {name other : List Char} (raw : List Char) (same : Xml.SameButPrefix name other)
      (undeclared : isNamespaceName name = false ∧ isNamespaceName other = false) :
      SameButPrefix ⟨name, raw⟩ ⟨other, raw⟩

/--
What stands behind the name of a tag, with other prefixes of its attributes.  The blanks and the
quotes around them may be others, too.
-/
inductive SameAttributes : List Char → List Char → Prop
  | of {rest rest' : List Char} {attributes attributes' : List Attribute}
      (spelled : SpellsAttributes attributes rest) (spelled' : SpellsAttributes attributes' rest')
      (same : List.Forall₂ Attribute.SameButPrefix attributes attributes')
      (distinct : (attributes.map Attribute.name).Nodup)
      (distinct' : (attributes'.map Attribute.name).Nodup) :
      SameAttributes rest rest'
  /-- What cannot be read as attributes still cannot. -/
  | unreadable {rest rest' : List Char}
      (refused : (rest.foldl AttributeScanner.step .start).finish? = none)
      (refused' : (rest'.foldl AttributeScanner.step .start).finish? = none) :
      SameAttributes rest rest'

/-- One step to another layout of a document, or to other prefixes of attributes. -/
inductive Relaid : List Char → List Char → Prop
  /-- Attributes in a start tag have other prefixes. -/
  | attributes {front name rest rest' behind : List Char}
      (here : EndsBetween front) (plain : isPlainName name = true)
      (tag : IsTagRest rest) (tag' : IsTagRest rest') (same : SameAttributes rest rest') :
      Relaid (front ++ (startMarkup name rest ++ behind))
        (front ++ (startMarkup name rest' ++ behind))
  /-- Attributes in the tag of an element without content have other prefixes. -/
  | emptyAttributes {front name rest rest' behind : List Char}
      (here : EndsBetween front) (plain : isPlainName name = true)
      (tag : IsTagRest rest) (tag' : IsTagRest rest') (same : SameAttributes rest rest') :
      Relaid (front ++ (emptyMarkup name rest ++ behind))
        (front ++ (emptyMarkup name rest' ++ behind))
  /-- Another gap stands between two tags. -/
  | gap {front gap gap' behind : List Char} (here : EndsWithTag front)
      (isGap : IsGap gap) (isGap' : IsGap gap') (next : BeginsWithTag behind) :
      Relaid (front ++ (gap ++ behind)) (front ++ (gap' ++ behind))
  /-- An empty element is written with two tags. -/
  | twoTags {front name rest blanks behind : List Char}
      (here : EndsBetween front) (plain : isPlainName name = true) (tag : IsTagRest rest)
      (blank : ∀ character ∈ blanks, isBlank character = true) :
      Relaid (front ++ (emptyMarkup name rest ++ behind))
        (front ++ (startMarkup name rest ++ (endMarkup name blanks ++ behind)))

/-- One step to another spelling of a document. -/
inductive Respelled : List Char → List Char → Prop
  | relaid {document other : List Char} (step : Relaid document other) : Respelled document other
  /-- The prefix of an element is another one, in its start tag and in its end tag. -/
  | element {front name other rest content blanks behind : List Char}
      (here : EndsBetween front) (same : SameButPrefix name other) (tag : IsTagRest rest)
      (inside : IsContent content) (blank : ∀ character ∈ blanks, isBlank character = true) :
      Respelled
        (front ++ (startMarkup name rest ++ (content ++ (endMarkup name blanks ++ behind))))
        (front ++ (startMarkup other rest ++ (content ++ (endMarkup other blanks ++ behind))))
  /-- The prefix of an element without content is another one. -/
  | emptyElement {front name other rest behind : List Char}
      (here : EndsBetween front) (same : SameButPrefix name other) (tag : IsTagRest rest) :
      Respelled (front ++ (emptyMarkup name rest ++ behind))
        (front ++ (emptyMarkup other rest ++ behind))

/-! ## The tokens of another spelling -/

/-- What counts of a tag when prefixes do not: its local name, and its attributes by their keys. -/
def prefixless (tag : List Char) : List Char × Option (List (String × List Char)) :=
  (localName (tagName tag),
    (Element.attributes? ⟨tag, []⟩).map (List.map fun given => (given.key, given.raw)))

theorem Attribute.SameButPrefix.key_raw {given other : Attribute}
    (same : given.SameButPrefix other) : (given.key, given.raw) = (other.key, other.raw) := by
  cases same with
  | refl => rfl
  | of raw names undeclared => simp [key, undeclared, names.localName_eq]

theorem Attribute.SameButPrefix.map_key_raw {attributes attributes' : List Attribute}
    (same : List.Forall₂ Attribute.SameButPrefix attributes attributes') :
    attributes.map (fun given => (given.key, given.raw)) =
      attributes'.map (fun given => (given.key, given.raw)) := by
  induction same with
  | nil => rfl
  | cons first others induction => rw [List.map_cons, List.map_cons, first.key_raw, induction]

theorem prefixless_of_sameButPrefix {name other rest : List Char}
    (same : SameButPrefix name other) (tag : IsTagRest rest) :
    prefixless (name ++ rest) = prefixless (other ++ rest) := by
  unfold prefixless
  rw [tagName_append same.isPlain tag.apart, tagName_append same.symm.isPlain tag.apart,
    same.localName_eq, Element.attributes?_append same.isPlain tag.apart,
    Element.attributes?_append same.symm.isPlain tag.apart]

theorem prefixless_of_sameAttributes {name rest rest' : List Char}
    (plain : isPlainName name = true) (tag : IsTagRest rest) (tag' : IsTagRest rest')
    (same : SameAttributes rest rest') :
    prefixless (name ++ rest) = prefixless (name ++ rest') := by
  unfold prefixless
  rw [tagName_append plain tag.apart, tagName_append plain tag'.apart]
  cases same with
  | of spelled spelled' same distinct distinct' =>
      rw [Element.attributes?_spelled plain tag.apart spelled distinct,
        Element.attributes?_spelled plain tag'.apart spelled' distinct', Option.map_some,
        Option.map_some, Attribute.SameButPrefix.map_key_raw same]
  | unreadable refused refused' =>
      rw [Element.attributes?_append plain tag.apart, Element.attributes?_append plain tag'.apart,
        refused, refused']

/-- What counts of a tag when the prefixes of attributes do not. -/
def keyed (tag : List Char) : List Char × (List Char × Option (List (String × List Char))) :=
  (tagName tag, prefixless tag)

theorem keyed_of_sameAttributes {name rest rest' : List Char}
    (plain : isPlainName name = true) (tag : IsTagRest rest) (tag' : IsTagRest rest')
    (same : SameAttributes rest rest') : keyed (name ++ rest) = keyed (name ++ rest') := by
  unfold keyed
  rw [prefixless_of_sameAttributes plain tag tag' same, tagName_append plain tag.apart,
    tagName_append plain tag'.apart]

namespace Scanner

/-- A scanner behind other tokens. -/
def behind (scanner : Scanner) (read : List Token) : Scanner :=
  ⟨scanner.before ++ read, scanner.place⟩

variable (scanner : Scanner) (read : List Token)

theorem tag_behind (isEnd : Bool) (quote : Option Char) (inside : List Char) (character : Char) :
    (scanner.behind read).tag isEnd quote inside character =
      (scanner.tag isEnd quote inside character).behind read := by
  unfold tag
  split
  · rfl
  · split
    · rfl
    · split <;> rfl

theorem declaration_behind (kind : Declaration) (balance : Nat) (inside : List Char)
    (character : Char) :
    (scanner.behind read).declaration kind balance inside character =
      (scanner.declaration kind balance inside character).behind read := by
  unfold declaration
  split
  · split
    · split <;> rfl
    · rfl
  · rfl

/-- What has been read has no bearing on the other tokens. -/
theorem step_behind (character : Char) :
    (scanner.behind read).step character = (scanner.step character).behind read := by
  rcases scanner with ⟨before, place⟩
  cases place with
  | text pending =>
      by_cases opens : character = '<'
      · cases pending <;> simp [step, opens, moveTo, behind]
      · simp [step, opens, moveTo, behind]
  | opened =>
      have inTag := tag_behind ⟨before, .opened⟩ read false none [] character
      unfold step
      dsimp only [behind] at inTag ⊢
      split
      · rfl
      · split
        · rfl
        · split
          · rfl
          · exact inTag
  | tag isEnd quote inside => exact tag_behind _ read isEnd quote inside character
  | declared =>
      unfold step
      dsimp only [behind]
      split
      · rfl
      · split
        · rfl
        · split <;> rfl
  | declaration kind balance inside =>
      exact declaration_behind _ read kind balance inside character
  | instruction inside =>
      unfold step
      dsimp only [behind]
      split
      · split <;> rfl
      · rfl
  | stopped => rfl

theorem foldl_step_behind (characters : List Char) :
    characters.foldl step (scanner.behind read) = (characters.foldl step scanner).behind read := by
  induction characters generalizing scanner with
  | nil => rfl
  | cons character rest induction => rw [List.foldl_cons, step_behind, induction, List.foldl_cons]

end Scanner

/-- The tokens that are complete with the rest of a document, behind other markup. -/
def tokensBehind (behind : List Char) : List Token :=
  (behind.foldl Scanner.step .start).before.reverse

/-- Where markup begins, a document continues with tokens that its front has no bearing on. -/
theorem completeTokens_of_markup {front : List Char} {read : List Token} {pending : List Char}
    (here : scan front = ⟨read, .text pending⟩) (inner : List Char) :
    completeTokens (front ++ '<' :: inner) =
      (heldText pending ++ read).reverse ++ tokensBehind ('<' :: inner) := by
  have onward : scan (front ++ '<' :: inner) =
      ('<' :: inner).foldl Scanner.step (scan front) := by
    cases front with
    | nil => rfl
    | cons first others => exact scan_append (List.cons_ne_nil first others) _
  have placed : (⟨heldText pending ++ read, .text []⟩ : Scanner) =
      Scanner.behind .start (heldText pending ++ read) := rfl
  unfold completeTokens tokensBehind
  rw [onward, here, Scanner.foldl_step_markup, placed, Scanner.foldl_step_behind,
    Scanner.behind, List.reverse_append]

theorem tokensBehind_of_isCutInto {markup : List Char} {piece : List Token}
    (cut : IsCutInto markup piece) (behind : List Char) :
    tokensBehind (markup ++ behind) = piece ++ tokensBehind behind := by
  have placed : (⟨piece.reverse ++ [], .text []⟩ : Scanner) =
      Scanner.behind .start piece.reverse := by
    simp [Scanner.behind, Scanner.start]
  unfold tokensBehind
  rw [List.foldl_append, Scanner.start, cut, placed, Scanner.foldl_step_behind, Scanner.behind,
    List.reverse_append, List.reverse_reverse]
  rfl

/-- A content and an end tag behind it are cut into balanced tokens and the end tag. -/
theorem IsContent.exists_isCutInto {content blanks : List Char} (isContent : IsContent content)
    (blank : ∀ character ∈ blanks, isBlank character = true) :
    ∃ inside, Balanced inside ∧ ∀ {name : List Char}, isPlainName name = true →
      IsCutInto (content ++ endMarkup name blanks) (inside ++ [.endTag name]) := by
  rcases isContent with ⟨⟨pending, place⟩, balanced⟩
  cases ended : content.foldl Scanner.step .start with
  | mk inner ending =>
      rw [ended] at place balanced
      cases place
      have finished : Scanner.finish ⟨inner, .text pending⟩ =
          (heldText pending ++ inner).reverse := by
        cases pending <;> rfl
      refine ⟨(heldText pending ++ inner).reverse, finished ▸ balanced, ?_⟩
      intro name plain read
      have placed : (⟨read, .text []⟩ : Scanner) = Scanner.behind .start read := rfl
      rw [List.foldl_append, placed, Scanner.foldl_step_behind, ended]
      dsimp only [endMarkup, Scanner.behind]
      rw [Scanner.foldl_step_markup]
      have cut := isCutInto_endMarkup plain blank (heldText pending ++ (inner ++ read))
      rw [endMarkup] at cut
      rw [cut]
      simp

/-! ## Building elements out of the tokens of another spelling -/

/-- What an open element holds once its last text is complete does not depend on its tag. -/
theorem Frame.exists_flush (before : List Node) (pieces : List Piece) :
    ∃ before', ∀ tag, Frame.flush ⟨tag, before, pieces⟩ = ⟨tag, before', []⟩ := by
  cases text : Node.ofPieces? pieces.reverse with
  | none => exact ⟨before, fun tag => by simp [flush, text]⟩
  | some node => exact ⟨node :: before, fun tag => by simp [flush, text]⟩

theorem Frame.exists_push (before : List Node) (pieces : List Piece) (node : Node) :
    ∃ before', ∀ tag, Frame.push ⟨tag, before, pieces⟩ node = ⟨tag, before', []⟩ := by
  rcases exists_flush before pieces with ⟨flushed, same⟩
  exact ⟨node :: flushed, fun tag => by simp [push, same]⟩

section Views

variable {γ : Type} {view : List Char → γ}

namespace Builder

/-- Balanced tokens add to the content of an open element, whatever its tag. -/
theorem foldl_step_balanced {tokens : List Token} (balanced : Balanced tokens)
    (before : List Node) (pieces : List Piece) :
    (∀ tag outer, tokens.foldl step (.inside ⟨tag, before, pieces⟩ outer) = .stopped) ∨
      ∃ before' pieces', ∀ tag outer,
        tokens.foldl step (.inside ⟨tag, before, pieces⟩ outer) =
          .inside ⟨tag, before', pieces'⟩ outer := by
  induction balanced generalizing before pieces with
  | nil => exact .inr ⟨before, pieces, fun tag outer => rfl⟩
  | text raw behind induction => exact induction before (.raw raw :: pieces)
  | «section» characters behind induction => exact induction before (.section characters :: pieces)
  | aside behind induction => exact induction before pieces
  | documentType behind induction =>
      rcases Frame.exists_flush before pieces with ⟨flushed, same⟩
      have taken (tag : List Char) (outer : List Frame) :
          step (.inside ⟨tag, before, pieces⟩ outer) .documentType =
            .inside ⟨tag, flushed, []⟩ outer := by
        rw [step, same]
      simp only [List.foldl_cons, taken]
      exact induction flushed []
  | emptyTag inner behind induction =>
      rcases Frame.exists_push before pieces (.element inner []) with ⟨pushed, same⟩
      have taken (tag : List Char) (outer : List Frame) :
          step (.inside ⟨tag, before, pieces⟩ outer) (.emptyTag inner) =
            .inside ⟨tag, pushed, []⟩ outer := by
        rw [step, complete, same]
      simp only [List.foldl_cons, taken]
      exact induction pushed []
  | element inner name content behind inside rest =>
      have begun (tag : List Char) (outer : List Frame) :
          step (.inside ⟨tag, before, pieces⟩ outer) (.startTag inner) =
            .inside ⟨inner, [], []⟩ (⟨tag, before, pieces⟩ :: outer) := rfl
      simp only [List.foldl_cons, List.foldl_append, begun]
      -- `inside` builds the content in a frame of its own, and `rest` goes on in the outer one
      rcases inside [] [] with stops | ⟨held, text, builds⟩
      · refine .inl fun tag outer => ?_
        rw [stops]
        exact foldl_stopped _
      · simp only [builds]
        by_cases closes : name = tagName inner
        · rcases Frame.exists_push before pieces
            (.element inner (Frame.close ⟨inner, held, text⟩).content) with ⟨pushed, same⟩
          have taken (tag : List Char) (outer : List Frame) :
              complete (Frame.close ⟨inner, held, text⟩) (⟨tag, before, pieces⟩ :: outer) =
                .inside ⟨tag, pushed, []⟩ outer := by
            rw [complete, ← same]
            rfl
          simp only [step, if_pos closes, taken]
          exact rest pushed []
        · refine .inl fun tag outer => ?_
          rw [step, if_neg closes]
          exact foldl_stopped _

/-- Where no element can come any more, no token changes anything. -/
theorem foldl_step_of_around?_eq_none {builder : Builder} (none : builder.around? = none)
    (tokens : List Token) : tokens.foldl step builder = builder := by
  cases builder with
  | before => cases none
  | inside frame outer => cases none
  | whole root => exact foldl_whole root tokens
  | stopped => exact foldl_stopped tokens

section Pieces

variable {tag other : List Char} (same : view tag = view other) (builder : Builder)

include same

/-- An element is built alike with another prefix in its start tag and its end tag. -/
theorem alike_element {inside : List Token} (balanced : Balanced inside) :
    ((.startTag tag :: (inside ++ [.endTag (tagName tag)])).foldl step builder).Alike view
      ((.startTag other :: (inside ++ [.endTag (tagName other)])).foldl step builder) := by
  cases ready : builder.around? with
  | none =>
      rw [foldl_step_of_around?_eq_none ready, foldl_step_of_around?_eq_none ready]
  | some outer =>
      rw [List.foldl_cons, List.foldl_cons, step_startTag ready, step_startTag ready,
        List.foldl_append, List.foldl_append, Frame.start, Frame.start]
      rcases foldl_step_balanced balanced [] [] with stops | ⟨held, text, builds⟩
      · rw [stops, stops]
        exact .stopped
      · rcases Frame.exists_flush held text with ⟨content, flushed⟩
        have closed (tag : List Char) :
            step (.inside ⟨tag, held, text⟩ outer) (.endTag (tagName tag)) =
              complete ⟨tag, content.reverse⟩ outer := by
          rw [step_endTag ⟨tag, held, text⟩ outer, Frame.close, flushed]
        rw [builds, builds, List.foldl_cons, List.foldl_cons, closed, closed]
        refine alike_complete ?_ rfl
        rw [Element.outline, Element.outline, same]

theorem alike_emptyTag :
    (builder.step (.emptyTag tag)).Alike view (builder.step (.emptyTag other)) := by
  cases builder with
  | before => exact .whole (by rw [Element.outline, Element.outline, same])
  | inside frame outer =>
      have labels : Element.outline view ⟨tag, []⟩ = Element.outline view ⟨other, []⟩ := by
        rw [Element.outline, Element.outline, same]
      have around : (frame :: outer).map (Frame.outline view) =
          (frame :: outer).map (Frame.outline view) := rfl
      exact alike_complete labels around
  | whole root => exact .whole rfl
  | stopped => exact .stopped

theorem alike_startTag (names : tagName tag = tagName other) :
    (builder.step (.startTag tag)).Alike view (builder.step (.startTag other)) := by
  have frames : (Frame.start tag).outline view = (Frame.start other).outline view :=
    Frame.outline_eq_iff.mpr ⟨names, same, rfl, rfl⟩
  cases builder with
  | before => exact .inside frames rfl
  | inside frame outer => exact .inside frames rfl
  | whole root => exact .whole rfl
  | stopped => exact .stopped

end Pieces

/-- An empty element is built out of one tag as out of two. -/
theorem foldl_step_twoTags (tag : List Char) (builder : Builder) :
    [.startTag tag, .endTag (tagName tag)].foldl step builder =
      builder.step (.emptyTag tag) := by
  cases ready : builder.around? with
  | none =>
      rw [foldl_step_of_around?_eq_none ready]
      exact (foldl_step_of_around?_eq_none ready [.emptyTag tag]).symm
  | some outer =>
      rw [List.foldl_cons, step_startTag ready, step_emptyTag ready]
      exact step_endTag (.start tag) outer

/-- A builder to which blanks make no difference: it stands behind a tag. -/
def IsRested : Builder → Prop
  | .before => False
  | .inside frame _ => withoutLeadingBlanks frame.pieces.reverse = []
  | .whole _ => True
  | .stopped => True

theorem isRested_complete (element : Element) (outer : List Frame) :
    (complete element outer).IsRested := by
  cases outer with
  | nil => exact True.intro
  | cons frame outer =>
      have flushed : frame.flush.pieces = [] := by
        unfold Frame.flush
        split <;> rfl
      simp [complete, IsRested, Frame.push, flushed, withoutLeadingBlanks]

theorem isRested_step_of_isTag {token : Token} (isTag : token.IsTag) (builder : Builder) :
    (builder.step token).IsRested := by
  rcases isTag with ⟨tag, rfl⟩ | ⟨tag, rfl⟩ | ⟨name, rfl⟩
  · cases builder <;> first | exact True.intro | rfl
  · cases builder with
    | inside frame outer => exact isRested_complete ⟨tag, []⟩ (frame :: outer)
    | _ => exact True.intro
  · cases builder with
    | inside frame outer =>
        rw [step]
        split
        · exact isRested_complete _ _
        · exact True.intro
    | _ => exact True.intro

/-- Where blanks make no difference, a token without a meaning makes none. -/
theorem IsRested.step_of_isBlank {builder : Builder} (rested : builder.IsRested) {token : Token}
    (blank : token.IsBlank) :
    (builder.step token).IsRested ∧ (builder.step token).Alike view builder := by
  cases builder with
  | before => exact rested.elim
  | whole root => exact ⟨True.intro, .whole rfl⟩
  | stopped => exact ⟨True.intro, .stopped⟩
  | inside frame outer =>
      rcases blank with rfl | ⟨raw, rfl, blank⟩
      · exact ⟨rested, .refl _⟩
      · have none : raw.dropWhile isBlank = [] := by simpa using blank
        have still : withoutLeadingBlanks (frame.pushPiece (.raw raw)).pieces.reverse = [] := by
          have rested : withoutLeadingBlanks frame.pieces.reverse = [] := rested
          rw [Frame.pushPiece, List.reverse_cons, withoutLeadingBlanks_append, rested,
            List.nil_append, withoutLeadingBlanks]
          simp [none, withoutLeadingBlanks]
        refine ⟨still, .inside ?_ rfl⟩
        exact Frame.outline_eq_iff.mpr ⟨rfl, rfl, rfl, still.trans rested.symm⟩

theorem IsRested.foldl_step_of_isBlank {builder : Builder} (rested : builder.IsRested)
    {tokens : List Token} (blank : ∀ token ∈ tokens, token.IsBlank) :
    (tokens.foldl step builder).Alike view builder := by
  induction tokens generalizing builder with
  | nil => exact .refl _
  | cons token rest induction =>
      rcases rested.step_of_isBlank (blank token List.mem_cons_self) with ⟨rested', alike⟩
      exact (induction rested' fun later member =>
        blank later (List.mem_cons_of_mem _ member)).trans alike

end Builder

/-! ## The root element of another spelling -/

/-- The builder behind all complete tokens of a document. -/
def built (document : List Char) : Builder :=
  (completeTokens document).foldl Builder.step .before

theorem alike_built_of_markup {front markup markup' behind : List Char}
    {piece piece' : List Token} (here : EndsBetween front)
    (cut : IsCutInto ('<' :: markup) piece) (cut' : IsCutInto ('<' :: markup') piece')
    (alike : ∀ builder : Builder,
      (piece.foldl Builder.step builder).Alike view (piece'.foldl Builder.step builder)) :
    (built (front ++ ('<' :: markup ++ behind))).Alike view
      (built (front ++ ('<' :: markup' ++ behind))) := by
  rcases here with ⟨pending, place⟩
  have placed : scan front = ⟨(scan front).before, .text pending⟩ := by rw [← place]
  have cutAt {markup : List Char} {piece : List Token} (cut : IsCutInto ('<' :: markup) piece) :
      built (front ++ ('<' :: markup ++ behind)) =
        (tokensBehind behind).foldl Builder.step
          (piece.foldl Builder.step
            ((heldText pending ++ (scan front).before).reverse.foldl Builder.step .before)) := by
    unfold built
    rw [List.cons_append, completeTokens_of_markup placed, ← List.cons_append,
      tokensBehind_of_isCutInto cut, List.foldl_append, List.foldl_append]
  rw [cutAt cut, cutAt cut']
  exact (alike _).foldl_step _

/-- Another gap between two tags makes no difference to what is built. -/
theorem alike_built_of_gap {front gap gap' behind : List Char} (here : EndsWithTag front)
    (isGap : IsGap gap) (isGap' : IsGap gap') (next : BeginsWithTag behind) :
    (built (front ++ (gap ++ behind))).Alike view
      (built (front ++ (gap' ++ behind))) := by
  rcases here with ⟨tag, read, place, isTag⟩
  rcases next with ⟨first, rest, rfl, -, -⟩
  have nonempty : front ≠ [] := by
    rintro rfl
    cases place
  have rested : ((tag :: read).reverse.foldl Builder.step .before).IsRested := by
    rw [List.reverse_cons, List.foldl_append]
    exact Builder.isRested_step_of_isTag isTag _
  -- behind the gap, the building goes on as if nothing stood there
  have passed {gap : List Char} (isGap : IsGap gap) :
      (built (front ++ (gap ++ '<' :: first :: rest))).Alike view
        ((tokensBehind ('<' :: first :: rest)).foldl Builder.step
          ((tag :: read).reverse.foldl Builder.step .before)) := by
    rcases Scanner.isCutBlank_of_isGap isGap (tag :: read) (List.forall_mem_nil _) with
      ⟨tokens, pending, cut, each, blank⟩
    have placed : (⟨heldText pending ++ (tokens ++ tag :: read), .text []⟩ : Scanner) =
        Scanner.behind .start (heldText pending ++ (tokens ++ tag :: read)) := rfl
    have complete : completeTokens (front ++ (gap ++ '<' :: first :: rest)) =
        (tag :: read).reverse ++ (heldText pending ++ tokens).reverse ++
          tokensBehind ('<' :: first :: rest) := by
      unfold completeTokens tokensBehind
      rw [scan_append nonempty, place, List.foldl_append, cut, Scanner.foldl_step_markup, placed,
        Scanner.foldl_step_behind]
      simp [Scanner.behind]
    unfold built
    rw [complete, List.foldl_append, List.foldl_append]
    refine (rested.foldl_step_of_isBlank ?_).foldl_step _
    intro token member
    rcases List.mem_append.mp (List.mem_reverse.mp member) with held | early
    · exact isBlank_of_mem_heldText blank token held
    · exact each token early
  exact (passed isGap).trans (passed isGap').symm

end Views

/-- Another layout is built alike, whatever counts of a tag but the prefixes of its attributes. -/
theorem Relaid.alike_built {document other : List Char} (step : Relaid document other) :
    (built document).Alike keyed (built other) := by
  cases step with
  | attributes here plain tag tag' same =>
      refine alike_built_of_markup here (isCutInto_startMarkup plain tag)
        (isCutInto_startMarkup plain tag') ?_
      refine fun builder => Builder.alike_startTag
        (keyed_of_sameAttributes plain tag tag' same) builder ?_
      rw [tagName_append plain tag.apart, tagName_append plain tag'.apart]
  | emptyAttributes here plain tag tag' same =>
      refine alike_built_of_markup here (isCutInto_emptyMarkup plain tag)
        (isCutInto_emptyMarkup plain tag') ?_
      exact Builder.alike_emptyTag (keyed_of_sameAttributes plain tag tag' same)
  | gap here isGap isGap' next => exact alike_built_of_gap here isGap isGap' next
  | @twoTags front name rest blanks behind here plain tag blank =>
      have alike : (built (front ++ (emptyMarkup name rest ++ behind))).Alike keyed
          (built (front ++ (startMarkup name rest ++ endMarkup name blanks ++ behind))) := by
        refine alike_built_of_markup here (isCutInto_emptyMarkup plain tag)
          ((isCutInto_startMarkup plain tag).append (isCutInto_endMarkup plain blank)) ?_
        intro builder
        have same := Builder.foldl_step_twoTags (name ++ rest) builder
        rw [tagName_append plain tag.apart] at same
        rw [List.singleton_append, same]
        exact .refl _
      simpa using alike

/-- Another spelling is built alike, as far as prefixes do not count. -/
theorem Respelled.alike_built {document other : List Char} (step : Respelled document other) :
    (built document).Alike prefixless (built other) := by
  cases step with
  | relaid step => exact step.alike_built.of_view fun same => congrArg Prod.snd same
  | @element front name other rest content blanks behind here same tag inside blank =>
      rcases inside.exists_isCutInto blank with ⟨tokens, balanced, cut⟩
      have alike : (built (front ++ (startMarkup name rest ++ (content ++ endMarkup name blanks) ++
            behind))).Alike prefixless
          (built (front ++ (startMarkup other rest ++ (content ++ endMarkup other blanks) ++
            behind))) := by
        refine alike_built_of_markup here
          ((isCutInto_startMarkup same.isPlain tag).append (cut same.isPlain))
          ((isCutInto_startMarkup same.symm.isPlain tag).append (cut same.symm.isPlain)) ?_
        intro builder
        have alike := Builder.alike_element (prefixless_of_sameButPrefix same tag) builder balanced
        rwa [tagName_append same.isPlain tag.apart,
          tagName_append same.symm.isPlain tag.apart] at alike
      simpa using alike
  | emptyElement here same tag =>
      refine alike_built_of_markup here (isCutInto_emptyMarkup same.isPlain tag)
        (isCutInto_emptyMarkup same.symm.isPlain tag) ?_
      exact Builder.alike_emptyTag (prefixless_of_sameButPrefix same tag)

/-- The root element of a document is the one that is built out of its complete tokens. -/
theorem documentRoot?_encode (document : List Char) {root : Element} :
    documentRoot? (Text.Utf8.encode document) = some root ↔ built document = .whole root := by
  have rootOf : documentRoot? (Text.Utf8.encode document) =
      Element.ofTokens? (completeTokens document) := by
    unfold documentRoot? bodyCharacters
    rw [Text.Utf8.decode_eq_ok_iff.mpr rfl]
    exact Element.ofTokens?_tokens document
  rw [rootOf]
  exact Element.ofTokens?_eq_some_iff

/-- Documents that differ in steps that keep what is built have root elements of one outline. -/
theorem exists_documentRoot_of_eqvGen {γ : Type} {view : List Char → γ}
    {step : List Char → List Char → Prop}
    (keeps : ∀ {document other}, step document other → (built document).Alike view (built other))
    {document other : List Char} (steps : Relation.EqvGen step document other) {root : Element}
    (found : documentRoot? (Text.Utf8.encode document) = some root) :
    ∃ root', documentRoot? (Text.Utf8.encode other) = some root' ∧
      root.outline view = root'.outline view := by
  have alike : (built document).Alike view (built other) := by
    clear found
    induction steps with
    | rel document other step => exact keeps step
    | refl document => exact .refl _
    | symm document other steps induction => exact induction.symm
    | trans document other third first second induction induction' =>
        exact induction.trans induction'
  rw [(documentRoot?_encode document).mp found] at alike
  rcases alike.exists_whole with ⟨root', whole, same⟩
  exact ⟨root', (documentRoot?_encode other).mpr whole, same⟩

end ChangeTransport.Xml
