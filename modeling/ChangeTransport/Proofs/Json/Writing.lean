import ChangeTransport.Proofs.Json.Spelling
import ChangeTransport.Proofs.Json.Whole

/-!
# How values are written

A value is written by its tokens, a list or an object with a comma between its parts, and every
token may be spelled in any way.  Whatever spells a value is read as that value, with nothing behind
it.
-/

namespace ChangeTransport.Json

/-! ## The tokens of a value -/

mutual

/-- The tokens of a value. -/
def Outline.tokens : Outline → List Token
  | .null => [.null]
  | .boolean value => [.boolean value]
  | .number value => [.number value]
  | .text value => [.text value]
  | .array items => .openArray :: items.tokens []
  | .object members => .openObject :: members.tokens []
  | .broken _ => []

/-- The tokens of items, up to the end of their array; `front` stands before the first of them. -/
def Items.tokens (front : List Token) : Items → List Token
  | .closed => [.closeArray]
  | .broken _ => []
  | .more item rest => front ++ item.tokens ++ rest.tokens [.comma]

/-- The tokens of members, up to the end of their object; `front` stands before the first of them. -/
def Members.tokens (front : List Token) : Members → List Token
  | .closed => [.closeObject]
  | .broken _ => []
  | .more name value rest =>
      front ++ .text name :: .colon :: value.tokens ++ rest.tokens [.comma]

end

/-- A text that spells a value. -/
structure Spells (outline : Outline) (bytes : List UInt8) : Prop where
  whole : outline.IsWhole
  spelled : SpellsTokens outline.tokens bytes

/-! ## Numbers stand apart -/

theorem areApart_append {first second : List Token} (apart : AreApart first)
    (further : AreApart second) (between : ∀ token ∈ second.head?, ¬ token.IsNumber) :
    AreApart (first ++ second) :=
  List.isChain_append.mpr ⟨apart, further, fun _ _ token member numbers =>
    between token member numbers.2⟩

theorem areApart_cons {token : Token} {tokens : List Token} (apart : AreApart tokens)
    (other : ¬ token.IsNumber) : AreApart (token :: tokens) :=
  List.isChain_cons.mpr ⟨fun _ _ numbers => other numbers.1, apart⟩

theorem areApart_singleton (token : Token) : AreApart [token] := List.IsChain.singleton token

theorem Items.head?_tokens_comma (items : Items) :
    ∀ token ∈ (items.tokens [.comma]).head?, ¬ token.IsNumber := by
  cases items <;> simp [Items.tokens, Token.IsNumber]

theorem Members.head?_tokens_comma (members : Members) :
    ∀ token ∈ (members.tokens [.comma]).head?, ¬ token.IsNumber := by
  cases members <;> simp [Members.tokens, Token.IsNumber]

theorem Token.not_isNumber_of_ne {token : Token} (other : ∀ value, token ≠ .number value) :
    ¬ token.IsNumber := by
  rintro ⟨value, same⟩
  exact other value same

mutual

theorem Outline.areApart_tokens : (outline : Outline) → AreApart outline.tokens
  | .null | .boolean _ | .number _ | .text _ => areApart_singleton _
  | .array items =>
      areApart_cons (Items.areApart_tokens [] List.IsChain.nil (by simp) items)
        (Token.not_isNumber_of_ne nofun)
  | .object members =>
      areApart_cons (Members.areApart_tokens [] List.IsChain.nil members)
        (Token.not_isNumber_of_ne nofun)
  | .broken _ => List.IsChain.nil

theorem Items.areApart_tokens (front : List Token) (apart : AreApart front)
    (alone : ∀ token ∈ front, ¬ token.IsNumber) :
    (items : Items) → AreApart (items.tokens front)
  | .closed => areApart_singleton _
  | .broken _ => List.IsChain.nil
  | .more item rest => by
      rw [Items.tokens]
      apply areApart_append _ (Items.areApart_tokens [.comma] (areApart_singleton _)
        (by simp [Token.IsNumber]) rest) rest.head?_tokens_comma
      apply List.isChain_append.mpr
      exact ⟨apart, Outline.areApart_tokens item, fun token member _ _ numbers =>
        alone token (List.mem_of_getLast? member) numbers.1⟩

theorem Members.areApart_tokens (front : List Token) (apart : AreApart front) :
    (members : Members) → AreApart (members.tokens front)
  | .closed => areApart_singleton _
  | .broken _ => List.IsChain.nil
  | .more name value rest => by
      rw [Members.tokens]
      apply areApart_append _ (Members.areApart_tokens [.comma] (areApart_singleton _) rest)
        rest.head?_tokens_comma
      apply areApart_append apart
      · exact areApart_cons (areApart_cons (Outline.areApart_tokens value)
          (Token.not_isNumber_of_ne nofun)) (Token.not_isNumber_of_ne nofun)
      · simp [Token.IsNumber]

end

/-! ## What is built -/

namespace Builder

/-- What begins a value does not end an array. -/
theorem foldl_step_firstItem {outline : Outline} (whole : outline.IsWhole) (outer : List Frame) :
    outline.tokens.foldl step (.waiting .firstItem outer) =
      outline.tokens.foldl step (.waiting .value (.array [] :: outer)) := by
  cases outline with
  | broken fault => exact absurd whole id
  | _ => rfl

mutual

/-- The tokens of a value build the value. -/
theorem foldl_step_outline : (outline : Outline) → outline.IsWhole → (outer : List Frame) →
    outline.tokens.foldl step (.waiting .value outer) = complete outline outer
  | .null, _, _ | .boolean _, _, _ | .number _, _, _ | .text _, _, _ => rfl
  | .array .closed, _, _ => rfl
  | .array (.more item rest), ⟨first, others⟩, outer => by
      rw [Outline.tokens, Items.tokens, List.foldl_cons, List.nil_append, List.foldl_append]
      have opened : step (.waiting .value outer) .openArray = .waiting .firstItem outer := rfl
      rw [opened, foldl_step_firstItem first, foldl_step_outline item first]
      exact foldl_step_items rest others [item] outer
  | .object members, unbroken, outer => by
      rw [Outline.tokens, List.foldl_cons]
      cases members with
      | closed => rfl
      | broken fault => exact absurd unbroken id
      | more name value rest =>
          rw [Members.tokens, List.nil_append, List.foldl_append, List.foldl_cons, List.foldl_cons]
          have named : step (step (step (.waiting .value outer) .openObject) (.text name)) .colon =
              .waiting .value (.object [] name :: outer) := rfl
          rw [named, foldl_step_outline value unbroken.1]
          exact foldl_step_members rest unbroken.2 [(name, value)] outer

theorem foldl_step_items : (items : Items) → items.IsWhole → (before : List Outline) →
    (outer : List Frame) →
    (items.tokens [.comma]).foldl step (.waiting (.afterItem before) outer) =
      complete (.array (Items.prepend before items)) outer
  | .closed, _, _, _ => rfl
  | .more item rest, ⟨first, others⟩, before, outer => by
      rw [Items.tokens, List.foldl_append, List.foldl_append]
      have behind : [Token.comma].foldl step (.waiting (.afterItem before) outer) =
          .waiting .value (.array before :: outer) := rfl
      rw [behind, foldl_step_outline item first]
      exact foldl_step_items rest others (item :: before) outer

theorem foldl_step_members : (members : Members) → members.IsWhole →
    (before : List (Option String × Outline)) → (outer : List Frame) →
    (members.tokens [.comma]).foldl step (.waiting (.afterMember before) outer) =
      complete (.object (Members.prepend before members)) outer
  | .closed, _, _, _ => rfl
  | .more name value rest, ⟨first, others⟩, before, outer => by
      rw [Members.tokens, List.foldl_append, List.foldl_append, List.foldl_cons, List.foldl_cons]
      have behind : step (step ([Token.comma].foldl step (.waiting (.afterMember before) outer))
          (.text name)) .colon = .waiting .value (.object before name :: outer) := rfl
      rw [behind, foldl_step_outline value first]
      exact foldl_step_members rest others ((name, value) :: before) outer

end

end Builder

/-! ## What is decoded -/

/-- Whatever spells a value is read as the value, with nothing behind it. -/
theorem Document.read_of_spells {outline : Outline} {bytes : List UInt8}
    (spells : Spells outline bytes) : Document.read bytes = ⟨outline, false⟩ := by
  rw [read, tokens_of_spellsTokens spells.spelled outline.areApart_tokens, ofTokens]
  have built : outline.tokens.foldl Builder.step .start = .whole outline false :=
    Builder.foldl_step_outline outline spells.whole []
  rw [built]
  rfl

/-- A text that spells a value is decoded as the value is. -/
theorem decode_of_spells {α : Type} {decoder : Decoder α} {outline : Outline} {bytes : List UInt8}
    (spells : Spells outline bytes) : decode decoder bytes = decoder .outermost outline := by
  rw [decode, Document.read_of_spells spells]
  cases decoder .outermost outline <;> rfl

end ChangeTransport.Json
