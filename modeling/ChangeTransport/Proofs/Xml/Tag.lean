import ChangeTransport.Proofs.Xml.Reference
import ChangeTransport.Xml.Attribute

/-!
# Names and quoted values in tags

A tag is written as a name and attributes with their values in double quotes.  The name and those of
the attributes hold nothing that has a meaning in tags, and the values no double quote; inside a tag
such names and values are collected as they are.
-/

namespace ChangeTransport.Xml

/-! ## Names -/

/-- The characters that end a name or begin another kind of markup. -/
def nameMarks : List Char := '=' :: '/' :: '!' :: '?' :: marks

/-- Whether a name has a character, and holds no blank and no mark. -/
def isPlainName (name : List Char) : Bool :=
  !name.isEmpty && name.all fun character => !isBlank character && !nameMarks.contains character

/-- An attribute as it is written behind a name. -/
def Attribute.written (given : Attribute) : List Char :=
  ' ' :: given.name ++ ['=', '"'] ++ given.raw ++ ['"']

/-- A tag, without its angle brackets. -/
def tagOf (name : List Char) (attributes : List Attribute) : List Char :=
  name ++ attributes.flatMap Attribute.written

/-- An attribute that can be written. -/
structure Attribute.IsPlain (given : Attribute) : Prop where
  name : isPlainName given.name = true
  value : '"' ∉ given.raw

/-- A tag that can be written. -/
inductive IsPlainTag : List Char → Prop where
  | of {name : List Char} {attributes : List Attribute} (plainName : isPlainName name = true)
      (each : ∀ given ∈ attributes, given.IsPlain) : IsPlainTag (tagOf name attributes)

theorem isPlainName_iff {name : List Char} :
    isPlainName name = true ↔
      name ≠ [] ∧ ∀ character ∈ name, isBlank character = false ∧ character ∉ nameMarks := by
  simp [isPlainName]

theorem not_blank_of_isPlainName {name : List Char} (plain : isPlainName name = true) :
    ∀ character ∈ name, isBlank character = false :=
  fun character member => ((isPlainName_iff.mp plain).2 character member).1

theorem ne_of_isPlainName {name : List Char} (plain : isPlainName name = true) {mark : Char}
    (reserved : mark ∈ nameMarks) : ∀ character ∈ name, character ≠ mark := by
  intro character member same
  subst same
  exact ((isPlainName_iff.mp plain).2 character member).2 reserved

/-- What stands behind the name in a tag is nothing, or begins with a blank. -/
theorem takeWhile_flatMap_written (attributes : List Attribute) :
    (attributes.flatMap Attribute.written).takeWhile (fun character => !isBlank character) =
      [] := by
  cases attributes <;> rfl

@[simp]
theorem tagName_tagOf {name : List Char} (plain : isPlainName name = true)
    (attributes : List Attribute) : tagName (tagOf name attributes) = name := by
  unfold tagName tagOf
  rw [List.takeWhile_append_of_pos, takeWhile_flatMap_written, List.append_nil]
  intro character member
  simp [not_blank_of_isPlainName plain character member]

/-- Where every item is put in front of those taken before, all of them are in the end. -/
theorem foldl_collect {α σ : Type} (step : σ → α → σ) (state : List α → σ) {items : List α}
    (takes : ∀ item ∈ items, ∀ before, step (state before) item = state (item :: before))
    (before : List α) :
    items.foldl step (state before) = state (items.reverse ++ before) := by
  induction items generalizing before with
  | nil => rfl
  | cons item rest induction =>
      rw [List.foldl_cons, takes item List.mem_cons_self,
        induction (fun other member => takes other (List.mem_cons_of_mem _ member)),
        List.reverse_cons, List.append_assoc, List.singleton_append]

/-! ## Tags as pieces of markup -/

namespace Scanner

variable (read : List Token) (isEnd : Bool)

/-- Outside quotes, a name is part of the tag. -/
theorem foldl_step_name {name : List Char} (plain : isPlainName name = true) (before : List Char) :
    name.foldl step ⟨read, .tag isEnd none before⟩ =
      ⟨read, .tag isEnd none (name.reverse ++ before)⟩ := by
  refine foldl_collect step (fun before => ⟨read, .tag isEnd none before⟩) ?_ before
  intro character member before
  have noClose := ne_of_isPlainName plain (by decide : '>' ∈ nameMarks) character member
  have noQuote := ne_of_isPlainName plain (by decide : '"' ∈ nameMarks) character member
  have noApostrophe := ne_of_isPlainName plain (by decide : '\'' ∈ nameMarks) character member
  simp [step, tag, noClose, noQuote, noApostrophe, moveTo]

/-- Inside quotes, everything but the quote is part of the tag. -/
theorem foldl_step_quoted {mark : Char} {characters : List Char} (unquoted : mark ∉ characters)
    (before : List Char) :
    characters.foldl step ⟨read, .tag isEnd (some mark) before⟩ =
      ⟨read, .tag isEnd (some mark) (characters.reverse ++ before)⟩ := by
  refine foldl_collect step (fun before => ⟨read, .tag isEnd (some mark) before⟩) ?_ before
  intro character member before
  have other : character ≠ mark := ne_of_mem_of_not_mem member unquoted
  simp [step, tag, other, moveTo]

/-- Behind `<`, what is no end tag, declaration or instruction is the tag of an element. -/
theorem step_opened {character : Char} (begins : character ∉ ['/', '!', '?']) :
    step ⟨read, .opened⟩ character = step ⟨read, .tag false none []⟩ character := by
  have others : character ≠ '/' ∧ character ≠ '!' ∧ character ≠ '?' := by
    simpa using begins
  simp [step, others, tag, moveTo, emit]

end Scanner

/-! ## The attributes of a tag -/

namespace AttributeScanner

variable (read : List Attribute)

theorem foldl_step_value {mark : Char} {raw : List Char} (unquoted : mark ∉ raw)
    (name before : List Char) :
    raw.foldl step ⟨read, .value name mark before⟩ =
      ⟨read, .value name mark (raw.reverse ++ before)⟩ := by
  refine foldl_collect step (fun before => ⟨read, .value name mark before⟩) ?_ before
  intro character member before
  have other : character ≠ mark := ne_of_mem_of_not_mem member unquoted
  simp [step, other]

end AttributeScanner

end ChangeTransport.Xml
