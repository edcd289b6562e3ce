import ChangeTransport.Proofs.Xml.RootEnd
import ChangeTransport.Proofs.Xml.Tag

/-!
# Markup in all its spellings

Tags with any attributes, blanks and quotes, and what may stand between two tags without a meaning:
blanks, comments and instructions.  Each spelling is cut into the tokens for which it stands, and
the attributes of a tag are read in whatever way they are spelled.  A tag that is written with one
blank in front of each attribute, and with double quotes, is one of these spellings.
-/

namespace ChangeTransport.Xml

/-! ## Names and their prefixes -/

/-- Whether a name has a character, and holds no blank, no mark and no colon. -/
def isSimpleName (name : List Char) : Bool := isPlainName name && !name.contains ':'

/-- A name behind a prefix, if there is one. -/
def qualified : Option (List Char) → List Char → List Char
  | none, name => name
  | some space, name => space ++ ':' :: name

theorem isSimpleName_iff {name : List Char} :
    isSimpleName name = true ↔ isPlainName name = true ∧ ':' ∉ name := by
  simp [isSimpleName]

theorem localName_qualified {name : List Char} (simple : isSimpleName name = true)
    {space : Option (List Char)} (simpleSpace : ∀ front ∈ space, isSimpleName front = true) :
    localName (qualified space name) = name := by
  have passed {characters : List Char} (simple : isSimpleName characters = true)
      (rest : List Char) :
      (characters ++ rest).dropWhile (fun character => character != ':') =
        rest.dropWhile (fun character => character != ':') := by
    refine List.dropWhile_append_of_pos ?_
    intro character member
    simpa using ne_of_mem_of_not_mem member (isSimpleName_iff.mp simple).2
  cases space with
  | none =>
      have whole := passed simple []
      rw [List.append_nil, List.dropWhile_nil] at whole
      rw [qualified, localName, whole]
  | some front =>
      rw [qualified, localName, passed (simpleSpace front rfl)]
      rfl

theorem isPlainName_qualified {name : List Char} (simple : isSimpleName name = true)
    {space : Option (List Char)} (simpleSpace : ∀ front ∈ space, isSimpleName front = true) :
    isPlainName (qualified space name) = true := by
  have plain := (isSimpleName_iff.mp simple).1
  cases space with
  | none => exact plain
  | some front =>
      have plainFront := (isSimpleName_iff.mp (simpleSpace front rfl)).1
      rw [qualified, isPlainName_iff]
      refine ⟨by simp, ?_⟩
      intro character member
      rcases List.mem_append.mp member with early | late
      · exact (isPlainName_iff.mp plainFront).2 character early
      · rcases List.mem_cons.mp late with rfl | last
        · exact ⟨by decide, by decide⟩
        · exact (isPlainName_iff.mp plain).2 character last

/-- Names, each with at most one colon, that differ in nothing but what stands in front of it. -/
inductive SameButPrefix : List Char → List Char → Prop
  | of {name : List Char} {first second : Option (List Char)}
      (simple : isSimpleName name = true)
      (simpleFirst : ∀ front ∈ first, isSimpleName front = true)
      (simpleSecond : ∀ front ∈ second, isSimpleName front = true) :
      SameButPrefix (qualified first name) (qualified second name)

namespace SameButPrefix

variable {name other : List Char} (same : SameButPrefix name other)

include same

theorem symm : SameButPrefix other name := by
  cases same with
  | of simple simpleFirst simpleSecond => exact .of simple simpleSecond simpleFirst

theorem localName_eq : localName name = localName other := by
  cases same with
  | of simple simpleFirst simpleSecond =>
      rw [localName_qualified simple simpleFirst, localName_qualified simple simpleSecond]

theorem isPlain : isPlainName name = true := by
  cases same with
  | of simple simpleFirst simpleSecond => exact isPlainName_qualified simple simpleFirst

end SameButPrefix

/-! ## Tags -/

/-- Characters in which all quotes are closed, and no `>` stands outside them. -/
inductive QuotesClosed : List Char → Prop
  | nil : QuotesClosed []
  | outside {character : Char} {rest : List Char}
      (other : character ≠ '>' ∧ character ≠ '\'' ∧ character ≠ '"') (behind : QuotesClosed rest) :
      QuotesClosed (character :: rest)
  | quoted {mark : Char} {inside rest : List Char} (quote : mark = '\'' ∨ mark = '"')
      (unquoted : mark ∉ inside) (behind : QuotesClosed rest) :
      QuotesClosed (mark :: inside ++ mark :: rest)

/-- Characters without a quote and without a `>` leave the quotes as they are. -/
theorem QuotesClosed.behind_plain {front rest : List Char}
    (plain : ∀ character ∈ front, character ≠ '>' ∧ character ≠ '\'' ∧ character ≠ '"')
    (behind : QuotesClosed rest) : QuotesClosed (front ++ rest) := by
  induction front with
  | nil => exact behind
  | cons first others induction =>
      rcases List.forall_mem_cons.mp plain with ⟨here, later⟩
      exact .outside here (induction later)

theorem QuotesClosed.append {front behind : List Char} (first : QuotesClosed front)
    (second : QuotesClosed behind) : QuotesClosed (front ++ behind) := by
  induction first with
  | nil => exact second
  | outside other _ induction => exact .outside other induction
  | @quoted mark inside rest quote unquoted _ induction =>
      have parts : mark :: inside ++ mark :: rest ++ behind =
          mark :: inside ++ mark :: (rest ++ behind) := by
        simp
      rw [parts]
      exact .quoted quote unquoted induction

/-- What stands between the angle brackets of a tag that begins an element. -/
structure IsElementTag (tag : List Char) : Prop where
  closed : QuotesClosed tag
  begins : ∀ first ∈ tag.head?, first ∉ ['/', '!', '?']

theorem isElementTag_append {name rest : List Char} (plain : isPlainName name = true)
    (closed : QuotesClosed rest) : IsElementTag (name ++ rest) := by
  refine ⟨.behind_plain ?_ closed, ?_⟩
  · intro character member
    exact ⟨ne_of_isPlainName plain (by decide) character member,
      ne_of_isPlainName plain (by decide) character member,
      ne_of_isPlainName plain (by decide) character member⟩
  · intro first member
    cases name with
    | nil => cases plain
    | cons head others =>
        cases member
        have other {mark : Char} (listed : mark ∈ nameMarks) : first ≠ mark :=
          ne_of_isPlainName plain listed first List.mem_cons_self
        simpa using ⟨other (by decide), other (by decide), other (by decide)⟩

/-- What may stand behind the name in a tag: it is apart from the name, and ends with no slash. -/
structure IsTagRest (rest : List Char) : Prop where
  closed : QuotesClosed rest
  apart : ∀ first ∈ rest.head?, isBlank first = true
  unslashed : ∀ last ∈ rest.getLast?, last ≠ '/'

/-- A start tag. -/
def startMarkup (name rest : List Char) : List Char := '<' :: (name ++ rest ++ ['>'])

/-- The tag of an element that is written without content. -/
def emptyMarkup (name rest : List Char) : List Char := '<' :: (name ++ rest ++ ['/', '>'])

/-- An end tag; blanks may stand behind its name. -/
def endMarkup (name blanks : List Char) : List Char := '<' :: '/' :: (name ++ blanks ++ ['>'])

theorem tagName_append {name rest : List Char} (plain : isPlainName name = true)
    (apart : ∀ first ∈ rest.head?, isBlank first = true) : tagName (name ++ rest) = name := by
  have behind : rest.takeWhile (fun character => !isBlank character) = [] := by
    cases rest with
    | nil => rfl
    | cons first rest => simp [apart first rfl]
  unfold tagName
  rw [List.takeWhile_append_of_pos, behind, List.append_nil]
  intro character member
  simp [not_blank_of_isPlainName plain character member]

/-- Characters that, behind other markup, are cut into the given tokens. -/
def IsCutInto (markup : List Char) (piece : List Token) : Prop :=
  ∀ read : List Token,
    markup.foldl Scanner.step ⟨read, .text []⟩ = ⟨piece.reverse ++ read, .text []⟩

theorem IsCutInto.append {front behind : List Char} {first second : List Token}
    (cut : IsCutInto front first) (cutBehind : IsCutInto behind second) :
    IsCutInto (front ++ behind) (first ++ second) := by
  intro read
  rw [List.foldl_append, cut, cutBehind, List.reverse_append, List.append_assoc]

namespace Scanner

variable (read : List Token)

theorem foldl_step_quotesClosed {rest : List Char} (closed : QuotesClosed rest) (isEnd : Bool)
    (before : List Char) :
    rest.foldl step ⟨read, .tag isEnd none before⟩ =
      ⟨read, .tag isEnd none (rest.reverse ++ before)⟩ := by
  induction closed generalizing before with
  | nil => rfl
  | @outside character rest other behind induction =>
      have taken : step ⟨read, .tag isEnd none before⟩ character =
          ⟨read, .tag isEnd none (character :: before)⟩ := by
        simp [step, tag, other, moveTo]
      rw [List.foldl_cons, taken, induction]
      simp
  | @quoted mark inside rest quote unquoted behind induction =>
      have opened : step ⟨read, .tag isEnd none before⟩ mark =
          ⟨read, .tag isEnd (some mark) (mark :: before)⟩ := by
        rcases quote with rfl | rfl <;> rfl
      have shut (inside : List Char) : step ⟨read, .tag isEnd (some mark) inside⟩ mark =
          ⟨read, .tag isEnd none (mark :: inside)⟩ := by
        simp [step, tag, moveTo]
      rw [List.cons_append, List.foldl_cons, opened, List.foldl_append,
        foldl_step_quoted read isEnd unquoted, List.foldl_cons, shut, induction]
      simp

end Scanner

/-- The tag of an element is cut into its token, with or without a slash at its end. -/
theorem IsElementTag.isCutInto {tag : List Char} (isTag : IsElementTag tag) :
    IsCutInto ('<' :: (tag ++ ['>'])) [.ofTag tag.reverse] := by
  intro read
  have opened : Scanner.step ⟨read, .text []⟩ '<' = ⟨read, .opened⟩ := rfl
  have begun : (tag ++ ['>']).foldl Scanner.step ⟨read, .opened⟩ =
      (tag ++ ['>']).foldl Scanner.step ⟨read, .tag false none []⟩ := by
    cases tag with
    | nil => rfl
    | cons first rest =>
        rw [List.cons_append, List.foldl_cons, List.foldl_cons,
          Scanner.step_opened read (isTag.begins first rfl)]
  have ended : ['>'].foldl Scanner.step ⟨read, .tag false none tag.reverse⟩ =
      ⟨.ofTag tag.reverse :: read, .text []⟩ := rfl
  rw [List.foldl_cons, opened, begun, List.foldl_append,
    Scanner.foldl_step_quotesClosed read isTag.closed, List.append_nil, ended]
  rfl

section Tags

variable {name rest : List Char} (plain : isPlainName name = true)

include plain

/-- A tag without a slash at its end is no tag of an element without content. -/
theorem Token.ofTag_reverse_append (unslashed : ∀ last ∈ rest.getLast?, last ≠ '/') :
    Token.ofTag (name ++ rest).reverse = .startTag (name ++ rest) := by
  have final : ∃ front last, name ++ rest = front ++ [last] ∧ last ≠ '/' := by
    rcases List.eq_nil_or_concat rest with rfl | ⟨front, last, rfl⟩
    · rcases List.eq_nil_or_concat name with rfl | ⟨front, last, rfl⟩
      · cases plain
      · exact ⟨front, last, by simp, ne_of_isPlainName plain (by decide) last (by simp)⟩
    · exact ⟨name ++ front, last, by simp, unslashed last (by simp)⟩
  rcases final with ⟨front, last, split, noSlash⟩
  rw [split, List.reverse_append, List.reverse_singleton, List.singleton_append]
  unfold ofTag
  split
  · next found => exact absurd (List.cons.inj found).1 noSlash
  · rw [List.reverse_cons, List.reverse_reverse]

theorem isCutInto_startMarkup (tag : IsTagRest rest) :
    IsCutInto (startMarkup name rest) [.startTag (name ++ rest)] := by
  have cut := (isElementTag_append plain tag.closed).isCutInto
  rwa [Token.ofTag_reverse_append plain tag.unslashed] at cut

theorem isCutInto_emptyMarkup (tag : IsTagRest rest) :
    IsCutInto (emptyMarkup name rest) [.emptyTag (name ++ rest)] := by
  have slashed : QuotesClosed (rest ++ ['/']) := tag.closed.append (.outside (by decide) .nil)
  have cut := (isElementTag_append plain slashed).isCutInto
  rw [← List.append_assoc, List.append_assoc, List.reverse_append] at cut
  have token : Token.ofTag (['/'].reverse ++ (name ++ rest).reverse) = .emptyTag (name ++ rest) :=
    congrArg Token.emptyTag (List.reverse_reverse _)
  rwa [token] at cut

theorem isCutInto_endMarkup {blanks : List Char}
    (blank : ∀ character ∈ blanks, isBlank character = true) :
    IsCutInto (endMarkup name blanks) [.endTag name] := by
  intro read
  have opened : ['<', '/'].foldl Scanner.step ⟨read, .text []⟩ = ⟨read, .tag true none []⟩ := rfl
  have closed : ['>'].foldl Scanner.step ⟨read, .tag true none (name ++ blanks).reverse⟩ =
      ⟨.ofEndTag (name ++ blanks).reverse :: read, .text []⟩ := rfl
  have quiet : QuotesClosed (blanks ++ []) := by
    refine .behind_plain ?_ .nil
    intro character member
    refine ⟨?_, ?_, ?_⟩ <;> rintro rfl <;> cases blank _ member
  rw [List.append_nil] at quiet
  have named : Token.ofEndTag (name ++ blanks).reverse = .endTag name := by
    have passed : (blanks.reverse ++ name.reverse).dropWhile isBlank = name.reverse := by
      rw [List.dropWhile_append_of_pos fun character member =>
        blank character (List.mem_reverse.mp member)]
      rcases List.eq_nil_or_concat name with rfl | ⟨front, last, rfl⟩
      · rfl
      · simp [not_blank_of_isPlainName plain last (by simp)]
    rcases List.eq_nil_or_concat name with rfl | ⟨front, last, rfl⟩
    · cases plain
    · rw [List.reverse_append, Token.ofEndTag, passed]
      simp
  have split : endMarkup name blanks = ['<', '/'] ++ (name ++ (blanks ++ ['>'])) := by
    simp [endMarkup]
  rw [split, List.foldl_append, opened, List.foldl_append,
    Scanner.foldl_step_name read true plain, List.foldl_append,
    Scanner.foldl_step_quotesClosed read quiet, List.append_nil, ← List.reverse_append, closed,
    named]
  rfl

end Tags

/-! ## Attributes -/

/-- An attribute in any spelling: blanks, its name, the equals sign, and its value in quotes. -/
inductive SpellsAttribute : Attribute → List Char → Prop
  | of {name raw lead gap gap' : List Char} {mark : Char} (nonempty : name ≠ [])
      (named : ∀ character ∈ name, isBlank character = false ∧ character ≠ '=')
      (leadBlank : ∀ character ∈ lead, isBlank character = true)
      (gapBlank : ∀ character ∈ gap, isBlank character = true)
      (gapBlank' : ∀ character ∈ gap', isBlank character = true)
      (quote : mark = '\'' ∨ mark = '"') (unquoted : mark ∉ raw) :
      SpellsAttribute ⟨name, raw⟩
        (lead ++ (name ++ (gap ++ '=' :: (gap' ++ mark :: (raw ++ [mark])))))

/-- Attributes in any spelling, with blanks behind them. -/
inductive SpellsAttributes : List Attribute → List Char → Prop
  | nil {blanks : List Char} (blank : ∀ character ∈ blanks, isBlank character = true) :
      SpellsAttributes [] blanks
  | cons {given : Attribute} {attributes : List Attribute} {front behind : List Char}
      (first : SpellsAttribute given front) (others : SpellsAttributes attributes behind) :
      SpellsAttributes (given :: attributes) (front ++ behind)

namespace AttributeScanner

variable (read : List Attribute)

theorem foldl_step_blanks {blanks : List Char}
    (blank : ∀ character ∈ blanks, isBlank character = true) {place : AttributePlace}
    (waits : ∀ character, isBlank character = true → step ⟨read, place⟩ character = ⟨read, place⟩) :
    blanks.foldl step ⟨read, place⟩ = ⟨read, place⟩ := by
  induction blanks with
  | nil => rfl
  | cons first others induction =>
      rw [List.foldl_cons, waits first (blank first List.mem_cons_self),
        induction fun character member => blank character (List.mem_cons_of_mem _ member)]

/-- Behind a name of its own, blanks and the equals sign lead to the value. -/
theorem foldl_step_sign {name gap : List Char}
    (blank : ∀ character ∈ gap, isBlank character = true)
    (fresh : ∀ earlier ∈ read, earlier.name ≠ name) :
    (gap ++ ['=']).foldl step ⟨read, .name name.reverse⟩ = ⟨read, .afterSign name⟩ := by
  have signed : read.any (fun earlier => earlier.name == name) = false := by
    simpa using fresh
  cases gap with
  | nil => simp [step, sign, signed]
  | cons first others =>
      have firstBlank := blank first List.mem_cons_self
      have noSign : first ≠ '=' := by
        rintro rfl
        cases firstBlank
      have behind : step ⟨read, .name name.reverse⟩ first = ⟨read, .afterName name⟩ := by
        simp [step, noSign, firstBlank]
      rw [List.cons_append, List.foldl_cons, behind, List.foldl_append,
        foldl_step_blanks read (fun character member =>
          blank character (List.mem_cons_of_mem _ member))
          (fun character blank => by simp [step, blank])]
      simp [step, sign, signed, isBlank]

/-- An attribute is read in every spelling, unless there has been another one of its name. -/
theorem foldl_step_spelled {given : Attribute} {characters : List Char}
    (spelled : SpellsAttribute given characters)
    (fresh : ∀ earlier ∈ read, earlier.name ≠ given.name) :
    characters.foldl step ⟨read, .between⟩ = ⟨given :: read, .between⟩ := by
  cases spelled with
  | @of name raw lead gap gap' mark nonempty named leadBlank gapBlank gapBlank' quote unquoted =>
      have begun : name.foldl step ⟨read, .between⟩ = ⟨read, .name name.reverse⟩ := by
        cases name with
        | nil => exact absurd rfl nonempty
        | cons first others =>
            have opened : step ⟨read, .between⟩ first = ⟨read, .name [first]⟩ := by
              simp [step, (named first List.mem_cons_self).1]
            have takes : ∀ character ∈ others, ∀ before,
                step ⟨read, .name before⟩ character = ⟨read, .name (character :: before)⟩ := by
              intro character member before
              rcases named character (List.mem_cons_of_mem _ member) with ⟨notBlank, noSign⟩
              simp [step, noSign, notBlank]
            rw [List.foldl_cons, opened,
              foldl_collect step (fun before => ⟨read, .name before⟩) takes, List.reverse_cons]
      have opened : step ⟨read, .afterSign name⟩ mark = ⟨read, .value name mark []⟩ := by
        rcases quote with rfl | rfl <;> rfl
      have closed (inside : List Char) : [mark].foldl step ⟨read, .value name mark inside⟩ =
          ⟨⟨name, inside.reverse⟩ :: read, .between⟩ := by
        simp [step]
      have split : lead ++ (name ++ (gap ++ '=' :: (gap' ++ mark :: (raw ++ [mark])))) =
          lead ++ (name ++ ((gap ++ ['=']) ++ (gap' ++ mark :: (raw ++ [mark])))) := by
        simp
      rw [split, List.foldl_append,
        foldl_step_blanks read leadBlank (fun character blank => by simp [step, blank]),
        List.foldl_append, begun, List.foldl_append, foldl_step_sign read gapBlank fresh,
        List.foldl_append,
        foldl_step_blanks read gapBlank' (fun character blank => by simp [step, blank]),
        List.foldl_cons, opened, List.foldl_append, foldl_step_value read unquoted, closed,
        List.append_nil, List.reverse_reverse]

theorem foldl_step_allSpelled {attributes : List Attribute} {characters : List Char}
    (spelled : SpellsAttributes attributes characters)
    (distinct : ((read.reverse ++ attributes).map Attribute.name).Nodup) :
    characters.foldl step ⟨read, .between⟩ = ⟨attributes.reverse ++ read, .between⟩ := by
  induction spelled generalizing read with
  | nil blank => exact foldl_step_blanks read blank (fun character blank => by simp [step, blank])
  | @cons given rest front behind first others induction =>
      have fresh : ∀ earlier ∈ read, earlier.name ≠ given.name := by
        intro earlier member same
        rw [List.map_append, List.nodup_append] at distinct
        exact distinct.2.2 earlier.name (by simpa using ⟨earlier, member, rfl⟩) given.name
          (by simp) same
      rw [List.foldl_append, foldl_step_spelled read first fresh,
        induction (given :: read) (by simpa using distinct), List.reverse_cons,
        List.append_assoc, List.singleton_append]

end AttributeScanner

/-- The attributes of a tag do not depend on the name in front of them. -/
theorem Element.attributes?_append {name rest : List Char} (plain : isPlainName name = true)
    (apart : ∀ first ∈ rest.head?, isBlank first = true) (content : List Node) :
    Element.attributes? ⟨name ++ rest, content⟩ =
      (rest.foldl AttributeScanner.step .start).finish? := by
  unfold attributes? Element.name
  rw [tagName_append plain apart, List.drop_left]

/-- The attributes of a tag are read in every spelling. -/
theorem Element.attributes?_spelled {name rest : List Char} (plain : isPlainName name = true)
    (apart : ∀ first ∈ rest.head?, isBlank first = true) {attributes : List Attribute}
    (spelled : SpellsAttributes attributes rest)
    (distinct : (attributes.map Attribute.name).Nodup) (content : List Node) :
    Element.attributes? ⟨name ++ rest, content⟩ = some attributes := by
  rw [attributes?_append plain apart, AttributeScanner.start,
    AttributeScanner.foldl_step_allSpelled [] spelled (by simpa using distinct), List.append_nil]
  unfold AttributeScanner.finish?
  rw [List.reverse_reverse]

/-! ## Written tags -/

section Written

variable {attributes : List Attribute} (each : ∀ given ∈ attributes, given.IsPlain)

theorem Attribute.IsPlain.spells {given : Attribute} (plain : given.IsPlain) :
    SpellsAttribute given given.written := by
  rcases isPlainName_iff.mp plain.name with ⟨nonempty, named⟩
  have spelled : SpellsAttribute given
      ([' '] ++ (given.name ++ ([] ++ '=' :: ([] ++ '"' :: (given.raw ++ ['"']))))) := by
    refine .of nonempty ?_ (by simp [isBlank]) (by simp) (by simp) (.inr rfl) plain.value
    intro character member
    exact ⟨(named character member).1, ne_of_isPlainName plain.name (by decide) character member⟩
  simpa [written] using spelled

include each

theorem spellsAttributes_written :
    SpellsAttributes attributes (attributes.flatMap Attribute.written) := by
  induction attributes with
  | nil => exact .nil (List.forall_mem_nil _)
  | cons given rest induction =>
      rcases List.forall_mem_cons.mp each with ⟨here, later⟩
      exact .cons here.spells (induction later)

/-- Written attributes may stand behind the name in a tag. -/
theorem isTagRest_written : IsTagRest (attributes.flatMap Attribute.written) := by
  constructor
  · induction attributes with
    | nil => exact .nil
    | cons given rest induction =>
        rcases List.forall_mem_cons.mp each with ⟨here, later⟩
        have split : (given :: rest).flatMap Attribute.written =
            (' ' :: given.name ++ ['=']) ++
              ('"' :: given.raw ++ '"' :: rest.flatMap Attribute.written) := by
          simp [Attribute.written]
        rw [split]
        refine .behind_plain ?_ (.quoted (.inr rfl) here.value (induction later))
        intro character member
        have known : character = ' ' ∨ character ∈ given.name ∨ character = '=' := by
          simpa using member
        rcases known with rfl | inside | rfl
        · decide
        · exact ⟨ne_of_isPlainName here.name (by decide) character inside,
            ne_of_isPlainName here.name (by decide) character inside,
            ne_of_isPlainName here.name (by decide) character inside⟩
        · decide
  · cases attributes with
    | nil => simp
    | cons given rest => simp [Attribute.written, isBlank]
  · rcases List.eq_nil_or_concat attributes with rfl | ⟨front, given, rfl⟩
    · simp
    · have ends : (front.concat given).flatMap Attribute.written =
          (front.flatMap Attribute.written ++ ' ' :: given.name ++ ['=', '"'] ++ given.raw) ++
            ['"'] := by
        simp [Attribute.written]
      rw [ends, List.getLast?_concat]
      simp

end Written

/-- The attributes of a written tag are those with which it has been written. -/
theorem Element.attributes?_tagOf {name : List Char} (plainName : isPlainName name = true)
    {attributes : List Attribute} (each : ∀ given ∈ attributes, given.IsPlain)
    (distinct : (attributes.map Attribute.name).Nodup) (content : List Node) :
    Element.attributes? ⟨tagOf name attributes, content⟩ = some attributes :=
  attributes?_spelled plainName (isTagRest_written each).apart (spellsAttributes_written each)
    distinct content

/-! ## Gaps -/

/-- A comment. -/
def commentMarkup (inside : List Char) : List Char :=
  '<' :: (['!', '-', '-'] ++ inside ++ ['-', '-', '>'])

/-- An instruction. -/
def instructionMarkup (inside : List Char) : List Char := '<' :: (['?'] ++ inside ++ ['?', '>'])

/-- What may stand between two tags without a meaning: blanks, comments and instructions. -/
inductive IsGap : List Char → Prop
  | nil : IsGap []
  | blank {character : Char} {rest : List Char} (blank : isBlank character = true)
      (behind : IsGap rest) : IsGap (character :: rest)
  | comment {inside rest : List Char} (unended : ¬ ['-', '-', '>'] <:+: inside)
      (behind : IsGap rest) :
      IsGap (['<', '!', '-', '-'] ++ (inside ++ (['-', '-', '>'] ++ rest)))
  | instruction {inside rest : List Char} (named : inside.head? ≠ some '>')
      (unended : ¬ ['?', '>'] <:+: inside) (behind : IsGap rest) :
      IsGap (['<', '?'] ++ (inside ++ (['?', '>'] ++ rest)))

/-- A token without a meaning between two tags. -/
def Token.IsBlank (token : Token) : Prop :=
  token = .aside ∨ ∃ raw, token = .text raw ∧ ∀ character ∈ raw, isBlank character = true

/-- The text that is complete where markup begins, if there is one; its last character first. -/
def heldText : List Char → List Token
  | [] => []
  | last :: before => [.text (last :: before).reverse]

theorem isBlank_of_mem_heldText {pending : List Char}
    (blank : ∀ character ∈ pending, isBlank character = true) :
    ∀ token ∈ heldText pending, token.IsBlank := by
  intro token member
  cases pending with
  | nil => cases member
  | cons last before =>
      refine .inr ⟨_, List.mem_singleton.mp member, ?_⟩
      exact fun character held => blank character (List.mem_reverse.mp held)

/-- How many angle brackets are open has a bearing on document types alone. -/
theorem Declaration.endsAt_of_ne {kind : Declaration} (plain : kind ≠ .documentType) (balance : Nat)
    (before : List Char) : kind.endsAt balance before = kind.endsAt 0 before := by
  cases kind with
  | documentType => exact absurd rfl plain
  | _ => rfl

/-- A comment that ends behind two hyphens of its own has them inside. -/
theorem Declaration.hyphens_of_endsAt {front : List Char} {balance : Nat}
    (ends : comment.endsAt balance (front.reverse ++ ['-', '-']) = true) :
    ['-', '-'] <:+ front := by
  rw [← List.reverse_prefix]
  cases reversed : front.reverse with
  | nil => simp [endsAt, reversed] at ends
  | cons last before =>
      cases before with
      | nil => simp [endsAt, reversed] at ends
      | cons second before =>
          have both : last = '-' ∧ second = '-' := by simpa [endsAt, reversed] using ends
          exact ⟨before, by simp [both]⟩

namespace Scanner

variable (read : List Token)

/-- Where markup begins, the text in front of it is complete. -/
theorem foldl_step_markup (pending inner : List Char) :
    ('<' :: inner).foldl step ⟨read, .text pending⟩ =
      ('<' :: inner).foldl step ⟨heldText pending ++ read, .text []⟩ := by
  cases pending <;> rfl

/-- A declaration that is no document type goes on as long as no `>` ends it. -/
theorem foldl_step_declaration {kind : Declaration} (plain : kind ≠ .documentType)
    {before inside : List Char}
    (unended : ∀ earlier, earlier ++ ['>'] <+: inside →
      kind.endsAt 0 (earlier.reverse ++ before) = false) :
    ∃ balance, inside.foldl step ⟨read, .declaration kind 0 before⟩ =
      ⟨read, .declaration kind balance (inside.reverse ++ before)⟩ := by
  induction inside using List.reverseRecOn with
  | nil => exact ⟨0, rfl⟩
  | append_singleton front character induction =>
      rcases induction fun earlier early =>
        unended earlier (early.trans (List.prefix_append front _)) with ⟨balance, collected⟩
      rw [List.foldl_append, collected, List.foldl_cons, List.foldl_nil]
      by_cases closing : character = '>'
      · subst closing
        have goesOn : kind.endsAt balance (front.reverse ++ before) = false := by
          rw [Declaration.endsAt_of_ne plain]
          exact unended front List.prefix_rfl
        exact ⟨balance - 1, by simp [step, declaration, goesOn, moveTo]⟩
      · exact ⟨if character = '<' then balance + 1 else balance,
          by simp [step, declaration, closing, moveTo]⟩

/-- A comment goes on as long as no `-->` stands inside it. -/
theorem foldl_step_comment {inside : List Char} (unended : ¬ ['-', '-', '>'] <:+: inside) :
    ∃ balance, inside.foldl step ⟨read, .declaration .comment 0 ['-', '-']⟩ =
      ⟨read, .declaration .comment balance (inside.reverse ++ ['-', '-'])⟩ := by
  refine foldl_step_declaration read (by decide) ?_
  intro earlier early
  rw [Bool.eq_false_iff]
  intro ends
  rcases Declaration.hyphens_of_endsAt ends with ⟨front, rfl⟩
  exact unended (List.IsInfix.trans ⟨front, [], by simp⟩ early.isInfix)

/-- An instruction goes on as long as no `?>` stands inside it. -/
theorem foldl_step_instruction {inside : List Char} (named : inside.head? ≠ some '>')
    (unended : ¬ ['?', '>'] <:+: inside) :
    inside.foldl step ⟨read, .instruction []⟩ = ⟨read, .instruction inside.reverse⟩ := by
  induction inside using List.reverseRecOn with
  | nil => rfl
  | append_singleton front character induction =>
      have namedFront : front.head? ≠ some '>' := by
        cases front with
        | nil => simp
        | cons first others => exact named
      rw [List.foldl_append, induction namedFront fun found =>
        unended (found.trans (List.prefix_append front _).isInfix), List.foldl_cons, List.foldl_nil]
      by_cases closing : character = '>'
      · subst closing
        cases reversed : front.reverse with
        | nil =>
            rw [List.reverse_eq_nil_iff.mp reversed] at named
            exact absurd rfl named
        | cons last before =>
            have unmarked : last ≠ '?' := by
              rintro rfl
              rw [← List.reverse_inj, List.reverse_reverse, List.reverse_cons] at reversed
              exact unended ⟨before.reverse, [], by simp [reversed]⟩
            simp [step, unmarked, moveTo, reversed]
      · simp [step, closing, moveTo]

theorem isCutInto_comment {inside : List Char} (unended : ¬ ['-', '-', '>'] <:+: inside) :
    IsCutInto (commentMarkup inside) [.aside] := by
  intro read
  have opened : ['<', '!', '-', '-'].foldl step ⟨read, .text []⟩ =
      ⟨read, .declaration .comment 0 ['-', '-']⟩ := rfl
  rcases foldl_step_comment read unended with ⟨balance, collected⟩
  have closed : ['-', '-', '>'].foldl step
      ⟨read, .declaration .comment balance (inside.reverse ++ ['-', '-'])⟩ =
      ⟨.aside :: read, .text []⟩ := by
    simp [step, declaration, moveTo, emit, Declaration.endsAt, Declaration.token?]
  have parts : commentMarkup inside = ['<', '!', '-', '-'] ++ inside ++ ['-', '-', '>'] := rfl
  rw [parts, List.foldl_append, List.foldl_append, opened, collected, closed]
  rfl

theorem isCutInto_instruction {inside : List Char} (named : inside.head? ≠ some '>')
    (unended : ¬ ['?', '>'] <:+: inside) : IsCutInto (instructionMarkup inside) [.aside] := by
  intro read
  have opened : ['<', '?'].foldl step ⟨read, .text []⟩ = ⟨read, .instruction []⟩ := rfl
  have closed : ['?', '>'].foldl step ⟨read, .instruction inside.reverse⟩ =
      ⟨.aside :: read, .text []⟩ := rfl
  have parts : instructionMarkup inside = ['<', '?'] ++ inside ++ ['?', '>'] := rfl
  rw [parts, List.foldl_append, List.foldl_append, opened,
    foldl_step_instruction read named unended, closed]
  rfl

/-- Characters that, behind blanks, are cut into tokens without a meaning and blanks. -/
def IsCutBlank (gap : List Char) : Prop :=
  ∀ (read : List Token) {pending : List Char}, (∀ character ∈ pending, isBlank character = true) →
    ∃ tokens pending', gap.foldl step ⟨read, .text pending⟩ = ⟨tokens ++ read, .text pending'⟩ ∧
      (∀ token ∈ tokens, token.IsBlank) ∧ ∀ character ∈ pending', isBlank character = true

/-- An aside completes the blanks in front of it. -/
theorem IsCutBlank.behind_aside {markup rest : List Char} (behind : IsCutBlank rest)
    (cut : ∀ read : List Token,
      ('<' :: markup).foldl step ⟨read, .text []⟩ = ⟨.aside :: read, .text []⟩) :
    IsCutBlank ('<' :: markup ++ rest) := by
  intro read pending blank
  rcases behind (.aside :: (heldText pending ++ read)) (List.forall_mem_nil _) with
    ⟨tokens, pending', cutRest, each, blank'⟩
  refine ⟨tokens ++ .aside :: heldText pending, pending', ?_, ?_, blank'⟩
  · rw [List.foldl_append, foldl_step_markup, cut, cutRest]
    simp
  · intro token member
    rcases List.mem_append.mp member with early | late
    · exact each token early
    · rcases List.mem_cons.mp late with rfl | held
      · exact .inl rfl
      · exact isBlank_of_mem_heldText blank token held

/-- A gap is cut into tokens without a meaning. -/
theorem isCutBlank_of_isGap {gap : List Char} (isGap : IsGap gap) : IsCutBlank gap := by
  induction isGap with
  | nil => exact fun read pending blank => ⟨[], pending, rfl, by simp, blank⟩
  | @blank character rest blankHere behind induction =>
      intro read pending blank
      have other : character ≠ '<' := by
        rintro rfl
        cases blankHere
      have taken : step ⟨read, .text pending⟩ character = ⟨read, .text (character :: pending)⟩ := by
        simp [step, other, moveTo]
      rw [List.foldl_cons, taken]
      refine induction read ?_
      intro earlier member
      rcases List.mem_cons.mp member with rfl | held
      · exact blankHere
      · exact blank earlier held
  | @comment inside rest unended behind induction =>
      have split : ['<', '!', '-', '-'] ++ (inside ++ (['-', '-', '>'] ++ rest)) =
          commentMarkup inside ++ rest := by
        simp [commentMarkup]
      rw [split]
      exact induction.behind_aside fun read => isCutInto_comment unended read
  | @instruction inside rest named unended behind induction =>
      have split : ['<', '?'] ++ (inside ++ (['?', '>'] ++ rest)) =
          instructionMarkup inside ++ rest := by
        simp [instructionMarkup]
      rw [split]
      exact induction.behind_aside fun read => isCutInto_instruction named unended read

end Scanner

end ChangeTransport.Xml
