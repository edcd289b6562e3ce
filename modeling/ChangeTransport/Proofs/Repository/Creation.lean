import ChangeTransport.Proofs.Json.Quoting
import ChangeTransport.Proofs.Json.Record
import ChangeTransport.Proofs.Repository.Done

/-!
# What the creation of a repository says

The system is told about a new repository by one object.  Whatever characters the name and the
properties hold, the object is read as the one that was meant, so that no value can end its text,
add a member or replace one.
-/

namespace ChangeTransport

open Json Step

/-! ## Objects without blanks -/

/-- Characters that write a member, whatever follows them. -/
structure WritesMember (named : String × Outline) (characters : List Char) : Prop where
  whole : named.2.IsWhole
  spelled : ∀ {tokens rest}, SpellsTokens tokens rest →
    SpellsTokens (.text (some named.1) :: .colon :: (named.2.tokens ++ tokens))
      (Text.Utf8.encode characters ++ rest)

theorem writesMember_member (name : String) {value : Outline} {characters : List Char}
    (writes : Writes value characters) : WritesMember (name, value) (member name characters) := by
  refine ⟨writes.whole, fun {tokens rest} others => ?_⟩
  have spelled : Text.Utf8.encode (member name characters) ++ rest =
      Text.Utf8.encode (quoted name) ++ ([0x3A] ++ (Text.Utf8.encode characters ++ rest)) := by
    unfold member Text.Utf8.encode
    rw [List.flatMap_append, List.flatMap_cons, List.append_assoc, List.append_assoc]
    rfl
  rw [spelled]
  exact .next (spellsToken_quoted name) (.next .colon (writes.spelled others))

section Members

variable {members : List (String × Outline)} {written : List (List Char)}

theorem isWhole_ofList_of_writes (writes : List.Forall₂ WritesMember members written) :
    (Members.ofList members).IsWhole := by
  induction writes with
  | nil => trivial
  | cons first _ induction => exact ⟨first.whole, induction⟩

/-- Members with commas between them write the inside of an object, up to its end. -/
theorem spelled_intercalate (writes : List.Forall₂ WritesMember members written)
    {tokens : List Token} {rest : List UInt8} (others : SpellsTokens tokens rest) :
    SpellsTokens ((Members.ofList members).tokens [] ++ tokens)
      (Text.Utf8.encode ([','].intercalate written) ++ ([0x7D] ++ rest)) := by
  induction writes with
  | nil => exact @SpellsTokens.next _ _ [0x7D] _ .closeObject others
  | @cons named characters members written first further induction =>
      have split :
          (Members.ofList (named :: members)).tokens [] ++ tokens =
            .text (some named.1) :: .colon ::
              (named.2.tokens ++ ((Members.ofList members).tokens [.comma] ++ tokens)) := by
        simp [Members.ofList, Members.tokens]
      rw [split]
      cases further with
      | nil =>
          have last : [','].intercalate [characters] = characters := by simp
          rw [last]
          exact first.spelled (.next .closeObject others)
      | @cons second characters' members written next further =>
          have more : Text.Utf8.encode ([','].intercalate (characters :: characters' :: written)) =
              Text.Utf8.encode characters ++
                ([0x2C] ++ Text.Utf8.encode ([','].intercalate (characters' :: written))) := by
            rw [List.intercalate_cons_cons]
            unfold Text.Utf8.encode
            rw [List.flatMap_append, List.flatMap_append, List.append_assoc]
            rfl
          rw [more, List.append_assoc, List.append_assoc]
          exact first.spelled (.next .comma induction)

/-- An object is written by what writes its members. -/
theorem writes_objectText (writes : List.Forall₂ WritesMember members written) :
    Writes (.object (.ofList members)) (objectText written) := by
  refine ⟨isWhole_ofList_of_writes writes, fun {tokens rest} others => ?_⟩
  have split : Text.Utf8.encode (objectText written) ++ rest =
      [0x7B] ++ (Text.Utf8.encode ([','].intercalate written) ++ ([0x7D] ++ rest)) := by
    unfold objectText Text.Utf8.encode
    rw [List.flatMap_cons, List.flatMap_append, List.append_assoc, List.append_assoc]
    rfl
  rw [split]
  exact .next .openObject (spelled_intercalate writes others)

end Members

/-! ## The object of a creation -/

/-- The object that says which repository is to be created, and with which properties. -/
def CreateOptions.outline (options : CreateOptions) (name : String) : Outline :=
  .object <| .ofList
    [ ("repository", .text (some name)),
      ("data", .object <| .ofList
        [ ("rid", .text (some name)),
          ("name", .text (some name)),
          ("role", .text (some options.role)),
          ("type", .text (some options.kind)),
          ("vsid", .text (some options.vsid)),
          ("url", .text (some options.remoteUrl)) ]) ]

theorem CreateOptions.outline_inj {options others : CreateOptions} {name other : String} :
    options.outline name = others.outline other ↔ name = other ∧ options = others := by
  rcases options with ⟨role, kind, vsid, remoteUrl⟩
  rcases others with ⟨otherRole, otherKind, otherVsid, otherUrl⟩
  constructor
  · intro same
    simp only [outline, Members.ofList_cons, Outline.object.injEq, Members.more.injEq,
      Outline.text.injEq, Option.some.injEq, and_true, true_and] at same
    rcases same with ⟨rfl, -, -, rfl, rfl, rfl, rfl⟩
    exact ⟨rfl, rfl⟩
  · rintro ⟨rfl, same⟩
    rw [same]

namespace Repository

variable (repository : Repository) (options : CreateOptions)

theorem spells_body (name : String) :
    Spells (options.outline name) (Text.Utf8.ofText (options.body name)) := by
  have data := writes_objectText <|
    .cons (writesMember_member "rid" (writes_quoted name)) <|
    .cons (writesMember_member "name" (writes_quoted name)) <|
    .cons (writesMember_member "role" (writes_quoted options.role)) <|
    .cons (writesMember_member "type" (writes_quoted options.kind)) <|
    .cons (writesMember_member "vsid" (writes_quoted options.vsid)) <|
    .cons (writesMember_member "url" (writes_quoted options.remoteUrl)) .nil
  have whole := writes_objectText <|
    .cons (writesMember_member "repository" (writes_quoted name)) <|
    .cons (writesMember_member "data" data) .nil
  have body : Text.Utf8.ofText (options.body name) = Text.Utf8.encode _ :=
    congrArg Text.Utf8.encode String.toList_ofList
  rw [body]
  exact whole.spells

/--
The creation of a repository is one request, whatever is answered.  Its body is one text, which is
read as the object with the name and the properties that were given, and with nothing else.  Two
creations have the same body exactly if they have the same name and the same properties.
-/
theorem create_says_exactly_what_is_given (world : World) :
    let request := repository.createRequest options
    let after := (runIn world (repository.create options)).2
    after.system.sent = world.system.sent ++ [request] ∧ after.provider = world.provider ∧
      request.method = .post ∧ request.url = repository.listUrl ∧
      (∃ bytes, request.body = some bytes ∧
        Document.read bytes = ⟨options.outline repository.name, false⟩) ∧
      ∀ (other : Repository) (others : CreateOptions),
        request.body = (other.createRequest others).body ↔
          repository.name = other.name ∧ options = others := by
  intro request after
  have read (repository : Repository) (options : CreateOptions) :=
    Document.read_of_spells (spells_body options repository.name)
  rcases (repository.asks_create options).sent_runIn world with ⟨sent, provider⟩
  refine ⟨sent, provider, rfl, rfl, ⟨_, rfl, read repository options⟩, ?_⟩
  intro other others
  constructor
  · intro same
    have bytes := Option.some.inj same
    have outlines := read repository options
    rw [bytes, read other others] at outlines
    exact CreateOptions.outline_inj.mp (congrArg Document.value outlines.symm)
  · rintro ⟨name, rfl⟩
    simp only [request, createRequest, name]
    rfl

end Repository

end ChangeTransport
