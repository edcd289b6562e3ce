import ChangeTransport.Json.Decoder
import ChangeTransport.Proofs.Checks
import ChangeTransport.Proofs.Json.Scanning

/-!
# Whole texts

An outline is whole if it is nowhere broken.  What a text leaves open is broken, and no decoder
reads an outline that is not whole, be the break in a value that is read, kept or only passed over.  So a
text that can be decoded ends with the last token of its value, and whatever is cut off in front of
that token is refused.
-/

namespace ChangeTransport.Json

/-! ## Whole outlines -/

mutual

/-- A value that is nowhere broken. -/
def Outline.IsWhole : Outline → Prop
  | .array items => items.IsWhole
  | .object members => members.IsWhole
  | .broken _ => False
  | .null | .boolean _ | .number _ | .text _ => True

/-- Items of which none is broken, up to the end of their array. -/
def Items.IsWhole : Items → Prop
  | .closed => True
  | .broken _ => False
  | .more item rest => item.IsWhole ∧ rest.IsWhole

/-- Members of which none is broken, up to the end of their object. -/
def Members.IsWhole : Members → Prop
  | .closed => True
  | .broken _ => False
  | .more _ value rest => value.IsWhole ∧ rest.IsWhole

end

/-- Whether a value holds other values. -/
def Outline.IsContainer : Outline → Prop
  | .array _ | .object _ => True
  | _ => False

theorem Items.isWhole_of_prepend {before : List Outline} {rest : Items}
    (whole : (Items.prepend before rest).IsWhole) : rest.IsWhole := by
  induction before generalizing rest with
  | nil => exact whole
  | cons item before induction => exact (induction whole).2

theorem Members.isWhole_of_prepend {before : List (Option String × Outline)} {rest : Members}
    (whole : (Members.prepend before rest).IsWhole) : rest.IsWhole := by
  induction before generalizing rest with
  | nil => exact whole
  | cons member before induction => exact (induction whole).2

namespace Builder

/-- A container around a broken value is broken. -/
theorem not_isWhole_collapse {value : Outline} (broken : ¬ value.IsWhole) (outer : List Frame) :
    ¬ (collapse value outer).IsWhole := by
  induction outer generalizing value with
  | nil => exact broken
  | cons frame outer induction =>
      cases frame with
      | array before =>
          exact induction fun whole => broken (Items.isWhole_of_prepend whole).1
      | object before name =>
          exact induction fun whole => broken (Members.isWhole_of_prepend whole).1

theorem not_isWhole_breakValue (fault : Break) (outer : List Frame) :
    ¬ (breakValue fault outer).IsWhole :=
  not_isWhole_collapse id outer

theorem not_isWhole_breakItems (before : List Outline) (fault : Break) (outer : List Frame) :
    ¬ (breakItems before fault outer).IsWhole := by
  apply not_isWhole_collapse
  intro whole
  exact Items.isWhole_of_prepend whole

theorem not_isWhole_breakMembers (before : List (Option String × Outline)) (fault : Break)
    (outer : List Frame) : ¬ (breakMembers before fault outer).IsWhole := by
  apply not_isWhole_collapse
  intro whole
  exact Members.isWhole_of_prepend whole

/-- What is expected when the text ends is missing. -/
theorem not_isWhole_cut (outer : List Frame) (expectation : Expectation) :
    ¬ (cut outer expectation).IsWhole := by
  cases expectation with
  | value => exact not_isWhole_breakValue _ _
  | firstItem => exact not_isWhole_breakItems _ _ _
  | afterItem before => exact not_isWhole_breakItems _ _ _
  | name before mayEnd => exact not_isWhole_breakMembers _ _ _
  | colon before name => exact not_isWhole_breakValue _ _
  | afterMember before => exact not_isWhole_breakMembers _ _ _

/-- What a token can make of a text that is still open. -/
inductive Leaves (token : Token) : Builder → Prop where
  | waits (expectation : Expectation) (outer : List Frame) :
      Leaves token (.waiting expectation outer)
  | scalar {value : Outline} (plain : ¬ value.IsContainer) : Leaves token (.whole value false)
  | closed {value : Outline} (closing : token = .closeArray ∨ token = .closeObject) :
      Leaves token (.whole value false)
  | stops {value : Outline} (broken : ¬ value.IsWhole) : Leaves token (.stopped value)

theorem leaves_complete_scalar {value : Outline} (plain : ¬ value.IsContainer)
    (outer : List Frame) (token : Token) : Leaves token (complete value outer) := by
  rcases outer with _ | ⟨_ | _, outer⟩
  · exact .scalar plain
  · exact .waits _ _
  · exact .waits _ _

theorem leaves_complete_closed {token : Token}
    (closing : token = .closeArray ∨ token = .closeObject) (value : Outline)
    (outer : List Frame) : Leaves token (complete value outer) := by
  rcases outer with _ | ⟨_ | _, outer⟩
  · exact .closed closing
  · exact .waits _ _
  · exact .waits _ _

theorem leaves_takeValue (outer : List Frame) (token : Token) :
    Leaves token (takeValue outer token) := by
  cases token with
  | null | boolean value | number value | text value =>
      exact leaves_complete_scalar id outer _
  | openArray | openObject => exact .waits _ _
  | _ => exact .stops (not_isWhole_breakValue _ _)

theorem leaves_take (outer : List Frame) (expectation : Expectation) (token : Token) :
    Leaves token (take outer expectation token) := by
  unfold take
  split
  all_goals
    first
    | exact leaves_takeValue _ _
    | exact .waits _ _
    | exact leaves_complete_closed (.inl rfl) _ _
    | exact leaves_complete_closed (.inr rfl) _ _
    | exact .stops (not_isWhole_breakItems _ _ _)
    | exact .stops (not_isWhole_breakMembers _ _ _)
    | exact .stops (not_isWhole_breakValue _ _)

/-- A builder that has stopped has found the text broken. -/
def StopsBroken : Builder → Prop
  | .stopped value => ¬ value.IsWhole
  | .waiting _ _ | .whole _ _ => True

theorem stopsBroken_start : start.StopsBroken := trivial

theorem Leaves.stopsBroken {token : Token} {builder : Builder} (left : Leaves token builder) :
    builder.StopsBroken := by
  cases left with
  | waits => trivial
  | scalar => trivial
  | closed => trivial
  | stops broken => exact broken

theorem StopsBroken.foldl_step {builder : Builder} (stops : builder.StopsBroken)
    (tokens : List Token) : (tokens.foldl step builder).StopsBroken := by
  induction tokens generalizing builder with
  | nil => exact stops
  | cons token tokens induction =>
      apply induction
      cases builder with
      | waiting expectation outer => exact (leaves_take outer expectation token).stopsBroken
      | whole value trailing => trivial
      | stopped value => exact stops

/-- What stands behind a whole value is only noted. -/
theorem foldl_step_whole (value : Outline) (trailing : Bool) (tokens : List Token) :
    tokens.foldl step (.whole value trailing) =
      .whole value (trailing || !tokens.isEmpty) := by
  induction tokens generalizing trailing with
  | nil => simp
  | cons token tokens induction => simp [step, induction]

/-- A container is whole, with nothing behind it, only with the token that closes it. -/
theorem closes_of_foldl_step {tokens : List Token} {value : Outline}
    (container : value.IsContainer)
    (whole : tokens.foldl step .start = .whole value false) :
    ∃ front last, tokens = front ++ [last] ∧ (last = .closeArray ∨ last = .closeObject) := by
  rcases List.eq_nil_or_concat tokens with rfl | ⟨front, last, rfl⟩
  · cases whole
  · rw [List.concat_eq_append] at whole ⊢
    rw [List.foldl_append, List.foldl_cons, List.foldl_nil] at whole
    refine ⟨front, last, rfl, ?_⟩
    cases course : front.foldl step .start with
    | waiting expectation outer =>
        have left := leaves_take outer expectation last
        rw [course, step] at whole
        rw [whole] at left
        cases left with
        | scalar plain => exact absurd container plain
        | closed closing => exact closing
    | whole value trailing =>
        rw [course] at whole
        cases whole
    | stopped value =>
        rw [course] at whole
        cases whole

/-- A document whose value is whole has been read up to the end of the value. -/
theorem exists_whole_of_isWhole_finish {builder : Builder} (stops : builder.StopsBroken)
    (whole : builder.finish.value.IsWhole) :
    builder = .whole builder.finish.value builder.finish.trailing := by
  cases builder with
  | waiting expectation outer => exact absurd whole (not_isWhole_cut outer expectation)
  | whole value trailing => rfl
  | stopped value => exact absurd whole stops

end Builder

/-! ## Decoders -/

/-- A decoder that reads no outline but whole ones. -/
def Decoder.ReadsWhole {α : Type} (decoder : Decoder α) : Prop :=
  ∀ setting outline value, decoder setting outline = .ok value → outline.IsWhole

/-- A decoder that reads nothing but arrays and objects. -/
def Decoder.ReadsContainers {α : Type} (decoder : Decoder α) : Prop :=
  ∀ setting outline value, decoder setting outline = .ok value → outline.IsContainer

mutual

/-- A value that can be passed over is whole. -/
theorem Outline.isWhole_of_pass : (outline : Outline) → outline.pass = .ok () → outline.IsWhole
  | .array items, passed => Items.isWhole_of_pass items passed
  | .object members, passed => Members.isWhole_of_pass members passed
  | .null, _ | .boolean _, _ | .number _, _ | .text _, _ => trivial

theorem Items.isWhole_of_pass : (items : Items) → items.pass = .ok () → items.IsWhole
  | .closed, _ => trivial
  | .more item rest, passed => by
      rw [Items.pass] at passed
      rcases exists_of_bind_eq_ok passed with ⟨_, first, others⟩
      exact ⟨Outline.isWhole_of_pass item first, Items.isWhole_of_pass rest others⟩

theorem Members.isWhole_of_pass : (members : Members) → members.pass = .ok () → members.IsWhole
  | .closed, _ => trivial
  | .more _ value rest, passed => by
      rw [Members.pass] at passed
      rcases exists_of_bind_eq_ok passed with ⟨_, first, others⟩
      exact ⟨Outline.isWhole_of_pass value first, Members.isWhole_of_pass rest others⟩

end

mutual

/-- A value that can be kept is whole. -/
theorem Outline.isWhole_of_check : (setting : Setting) → (outline : Outline) →
    outline.check setting = .ok () → outline.IsWhole
  | _, .array items, kept => by
      rw [Outline.check] at kept
      rcases exists_of_bind_eq_ok kept with ⟨inner, -, each⟩
      exact Items.isWhole_of_check inner items each
  | _, .object members, kept => by
      rw [Outline.check] at kept
      rcases exists_of_bind_eq_ok kept with ⟨inner, -, each⟩
      exact Members.isWhole_of_check inner members each
  | _, .null, _ | _, .boolean _, _ | _, .number _, _ | _, .text _, _ => trivial

theorem Items.isWhole_of_check : (setting : Setting) → (items : Items) →
    items.check setting = .ok () → items.IsWhole
  | _, .closed, _ => trivial
  | setting, .more item rest, kept => by
      rw [Items.check] at kept
      rcases exists_of_bind_eq_ok kept with ⟨_, first, others⟩
      exact ⟨Outline.isWhole_of_check setting item first,
        Items.isWhole_of_check setting rest others⟩

theorem Members.isWhole_of_check : (setting : Setting) → (members : Members) →
    members.check setting = .ok () → members.IsWhole
  | _, .closed, _ => trivial
  | setting, .more (some _) value rest, kept => by
      rw [Members.check] at kept
      rcases exists_of_bind_eq_ok kept with ⟨_, first, others⟩
      exact ⟨Outline.isWhole_of_check setting value first,
        Members.isWhole_of_check setting rest others⟩

end

namespace Decoder

theorem readsWhole_text : text.ReadsWhole := by
  intro setting outline value read
  cases outline with
  | text given => trivial
  | _ => cases read

theorem readsWhole_optionalText : optionalText.ReadsWhole := by
  intro setting outline value read
  cases outline with
  | null => trivial
  | text given => trivial
  | _ => cases read

theorem readsWhole_integer : integer.ReadsWhole := by
  intro setting outline value read
  cases outline with
  | number given => trivial
  | _ => cases read

variable {α ρ : Type}

theorem isWhole_of_items {item : Decoder α} (reads : item.ReadsWhole) (setting : Setting) :
    (outlines : Items) → (values : List α) → items item setting outlines = .ok values →
      outlines.IsWhole
  | .closed, _, _ => trivial
  | .more outline rest, values, read => by
      rw [items] at read
      rcases exists_of_bind_eq_ok read with ⟨first, known, read⟩
      rcases exists_of_bind_eq_ok read with ⟨others, later, -⟩
      exact ⟨reads setting outline first known, isWhole_of_items reads setting rest others later⟩

theorem readsWhole_list {item : Decoder α} (reads : item.ReadsWhole) : (list item).ReadsWhole := by
  intro setting outline values read
  cases outline with
  | array outlines =>
      rcases exists_of_bind_eq_ok read with ⟨inner, -, read⟩
      exact isWhole_of_items reads inner outlines values read
  | _ => cases read

end Decoder

/-- A field that is given by whole values only. -/
def Field.ReadsWhole {ρ : Type} (field : Field ρ) : Prop := field.update.ReadsWhole

section Records

variable {α ρ : Type}

theorem Field.readsWhole_of {decoder : Decoder α} (reads : decoder.ReadsWhole) (name : String)
    (set : α → ρ → ρ) : (Field.of name decoder set).ReadsWhole := by
  intro setting outline change read
  rcases exists_of_bind_eq_ok read with ⟨value, known, -⟩
  exact reads setting outline value known

theorem Field.readsWhole_text (name : String) (set : String → ρ → ρ) :
    (Field.text name set).ReadsWhole :=
  readsWhole_of Decoder.readsWhole_text name set

theorem Field.mem_of_find? {fields : List (Field ρ)} {name : String} {field : Field ρ}
    (found : find? fields name = some field) : field ∈ fields :=
  List.mem_of_find?_eq_some found

variable {fields : List (Field ρ)}

theorem Items.isWhole_of_fill (setting : Setting) :
    (fields : List (Field ρ)) → (∀ field ∈ fields, field.ReadsWhole) → (record filled : ρ) →
      (items : Items) → items.fill setting fields record = .ok filled → items.IsWhole
  | _, _, _, _, .closed, _ => trivial
  | _, _, _, _, .broken _, read => by simp [Items.fill] at read
  | field :: fields, reads, record, filled, .more outline rest, read => by
      rw [Items.fill] at read
      rcases exists_of_bind_eq_ok read with ⟨change, known, read⟩
      exact ⟨reads field List.mem_cons_self setting outline change known,
        Items.isWhole_of_fill setting fields
          (fun other member => reads other (List.mem_cons_of_mem _ member)) _ filled rest read⟩

theorem Members.isWhole_of_fill (reads : ∀ field ∈ fields, field.ReadsWhole) (setting : Setting) :
    (seen : List String) → (record filled : ρ) → (members : Members) →
      members.fill setting fields seen record = .ok filled → members.IsWhole
  | _, _, _, .closed, _ => trivial
  | seen, record, filled, .more (some name) value rest, read => by
      rw [Members.fill] at read
      cases found : Field.find? fields name with
      | none =>
          rw [found] at read
          rcases exists_of_bind_eq_ok read with ⟨_, passed, read⟩
          exact ⟨Outline.isWhole_of_pass value passed,
            Members.isWhole_of_fill reads setting seen record filled rest read⟩
      | some field =>
          rw [found] at read
          dsimp only at read
          split at read
          · cases read
          · rcases exists_of_bind_eq_ok read with ⟨change, known, read⟩
            exact ⟨reads field (Field.mem_of_find? found) setting value change known,
              Members.isWhole_of_fill reads setting _ _ filled rest read⟩

theorem Members.isWhole_of_gather (reads : ∀ field ∈ fields, field.ReadsWhole)
    (setting : Setting) :
    (seen : List String) → (before : List (String × Outline)) → (record : ρ) →
      (gathered : ρ × List (String × Outline)) → (members : Members) →
      members.gather setting fields seen before record = .ok gathered → members.IsWhole
  | _, _, _, _, .closed, _ => trivial
  | seen, before, record, gathered, .more (some name) value rest, read => by
      rw [Members.gather] at read
      cases found : Field.find? fields name with
      | none =>
          rw [found] at read
          rcases exists_of_bind_eq_ok read with ⟨_, kept, read⟩
          exact ⟨Outline.isWhole_of_check setting value kept,
            Members.isWhole_of_gather reads setting seen _ record gathered rest read⟩
      | some field =>
          rw [found] at read
          dsimp only at read
          split at read
          · cases read
          · rcases exists_of_bind_eq_ok read with ⟨change, known, read⟩
            exact ⟨reads field (Field.mem_of_find? found) setting value change known,
              Members.isWhole_of_gather reads setting _ before _ gathered rest read⟩

namespace Decoder

/-- A record is read from a whole array or a whole object. -/
theorem readsWhole_record (reads : ∀ field ∈ fields, field.ReadsWhole) (default : ρ) :
    (record fields default).ReadsWhole := by
  intro setting outline value read
  cases outline with
  | array items =>
      rcases exists_of_bind_eq_ok read with ⟨inner, -, read⟩
      exact Items.isWhole_of_fill inner fields reads default value items read
  | object members =>
      rcases exists_of_bind_eq_ok read with ⟨inner, -, read⟩
      exact Members.isWhole_of_fill reads inner [] default value members read
  | _ => cases read

theorem readsContainers_record (fields : List (Field ρ)) (default : ρ) :
    (record fields default).ReadsContainers := by
  intro setting outline value read
  cases outline with
  | array items => trivial
  | object members => trivial
  | _ => cases read

/-- A merged record is read from a whole object, whatever becomes of the members that are kept. -/
theorem readsWhole_merged (reads : ∀ field ∈ fields, field.ReadsWhole) (kept : List (Field ρ))
    (default : ρ) : (merged fields kept default).ReadsWhole := by
  intro setting outline value read
  cases outline with
  | object members =>
      rcases exists_of_bind_eq_ok read with ⟨inner, -, read⟩
      rcases exists_of_bind_eq_ok read with ⟨gathered, known, -⟩
      exact Members.isWhole_of_gather reads inner [] [] default gathered members known
  | _ => cases read

theorem readsContainers_merged (fields kept : List (Field ρ)) (default : ρ) :
    (merged fields kept default).ReadsContainers := by
  intro setting outline value read
  cases outline with
  | object members => trivial
  | _ => cases read

end Decoder

end Records

/-! ## Texts that are cut off -/

/-- A text that breaks off: with more bytes, of which not all are blanks, it can be decoded. -/
def CutOff {α : Type} (decoder : Decoder α) (bytes : List UInt8) : Prop :=
  ∃ behind value, decode decoder (bytes ++ behind) = .ok value ∧
    ∃ byte ∈ behind, isGap byte = false

section Decode

variable {α : Type} {decoder : Decoder α}

/-- A text that can be decoded is one value and nothing else. -/
theorem foldl_step_of_decode (reads : decoder.ReadsWhole) {bytes : List UInt8} {value : α}
    (decoded : decode decoder bytes = .ok value) :
    (tokens bytes).foldl Builder.step .start = .whole (Document.read bytes).value false ∧
      decoder .outermost (Document.read bytes).value = .ok value := by
  rcases exists_of_bind_eq_ok decoded with ⟨found, read, ended⟩
  have whole := Builder.exists_whole_of_isWhole_finish
    (Builder.stopsBroken_start.foldl_step (tokens bytes)) (reads _ _ _ read)
  cases trailing : (Document.read bytes).trailing with
  | true =>
      rw [if_pos trailing] at ended
      cases ended
  | false =>
      rw [if_neg (by simp [trailing])] at ended
      cases ended
      refine ⟨?_, read⟩
      rw [← trailing]
      exact whole

/-- Nothing in front of the last token of a text can be decoded. -/
theorem exists_fault_of_cutOff (reads : decoder.ReadsWhole) (containers : decoder.ReadsContainers)
    {bytes : List UInt8} (cut : CutOff decoder bytes) :
    ∃ fault, decode decoder bytes = .error fault := by
  rcases cut with ⟨behind, value, decoded, byte, member, visible⟩
  cases early : decode decoder bytes with
  | error fault => exact ⟨fault, rfl⟩
  | ok other =>
      -- the front is one value already, so it ends with a token and the rest adds none to it
      rcases foldl_step_of_decode reads early with ⟨whole, read⟩
      rcases Builder.closes_of_foldl_step (containers _ _ _ read) whole with
        ⟨front, last, split, closing⟩
      have scanned : bytes.foldl Scanner.step .start = ⟨last :: front.reverse, .between⟩ := by
        apply Scanner.eq_between_of_finish
          (Scanner.stopsBroken_start.foldl_step bytes) split
        · rcases closing with rfl | rfl <;> rintro ⟨fault, broken | broken⟩ <;> cases broken
        · rcases closing with rfl | rfl <;> exact nofun
      have continued := (foldl_step_of_decode reads decoded).1
      rw [tokens_append scanned, List.reverse_cons, List.reverse_reverse, ← split,
        List.foldl_append, whole, Builder.foldl_step_whole] at continued
      have none : tokens behind = [] := by
        simpa using (Builder.whole.inj continued).2
      rw [isGap_of_tokens_eq_nil none byte member] at visible
      cases visible

end Decode

end ChangeTransport.Json
