import ChangeTransport.Proofs.Json.Telling

/-!
# Values that are kept before they are read

A value that is kept is checked first and read afterwards.  It is then read as it would have been at
once, since an array with too many items is refused in either case and only the fault is another.
The check adds something for those members of an object only that are no fields: the others can be
kept because they can be read.
-/

namespace ChangeTransport.Json

variable {α ρ : Type}

/-! ## Settings that differ in a fault -/

/-- The setting with another fault for an array that has too many items. -/
def Setting.facing (setting : Setting) (surplus : Fault) : Setting := { setting with surplus }

theorem Setting.inside_facing {setting inner : Setting} (opened : setting.inside = .ok inner)
    (surplus : Fault) : (setting.facing surplus).inside = .ok (inner.facing surplus) := by
  rcases setting with ⟨_ | room, before⟩
  · cases opened
  · cases opened
    rfl

/-- A decoder whose values do not depend on the fault of a surplus. -/
def Decoder.IsSteady (decoder : Decoder α) : Prop :=
  ∀ setting outline value, decoder setting outline = .ok value →
    ∀ surplus, decoder (setting.facing surplus) outline = .ok value

mutual

/-- Whether a value can be kept does not depend on the fault of a surplus. -/
theorem Outline.check_facing (surplus : Fault) : (setting : Setting) → (outline : Outline) →
    outline.check setting = .ok () → outline.check (setting.facing surplus) = .ok ()
  | setting, .array items, checked => by
      rcases exists_of_bind_eq_ok checked with ⟨inner, opened, each⟩
      rw [Outline.check, Setting.inside_facing opened, ok_bind]
      exact Items.check_facing surplus inner items each
  | setting, .object members, checked => by
      rcases exists_of_bind_eq_ok checked with ⟨inner, opened, each⟩
      rw [Outline.check, Setting.inside_facing opened, ok_bind]
      exact Members.check_facing surplus inner members each
  | _, .null, _ | _, .boolean _, _ | _, .number (some _), _ | _, .text (some _), _ => rfl

theorem Items.check_facing (surplus : Fault) : (setting : Setting) → (items : Items) →
    items.check setting = .ok () → items.check (setting.facing surplus) = .ok ()
  | _, .closed, _ => rfl
  | setting, .more item rest, checked => by
      rcases exists_of_bind_eq_ok checked with ⟨⟨⟩, first, others⟩
      rw [Items.check, Outline.check_facing surplus setting item first, ok_bind,
        Items.check_facing surplus setting rest others]

theorem Members.check_facing (surplus : Fault) : (setting : Setting) → (members : Members) →
    members.check setting = .ok () → members.check (setting.facing surplus) = .ok ()
  | _, .closed, _ => rfl
  | setting, .more (some _) value rest, checked => by
      rcases exists_of_bind_eq_ok checked with ⟨⟨⟩, first, others⟩
      rw [Members.check, Outline.check_facing surplus setting value first, ok_bind,
        Members.check_facing surplus setting rest others]

end

namespace Decoder

theorem isSteady_text : text.IsSteady := by
  intro setting outline value read surplus
  rw [text_eq_ok_iff] at read ⊢
  exact read

theorem isSteady_integer : integer.IsSteady := by
  intro setting outline value read surplus
  cases outline with
  | number given =>
      rcases given with _ | ⟨number⟩ | number
      · cases read
      · exact read
      · cases read
  | _ => cases read

theorem items_facing {item : Decoder α} (steady : item.IsSteady) (surplus : Fault)
    (setting : Setting) : (outlines : Items) → (values : List α) →
      items item setting outlines = .ok values →
      items item (setting.facing surplus) outlines = .ok values
  | .closed, _, read => read
  | .more outline rest, values, read => by
      rw [items] at read
      rcases exists_of_bind_eq_ok read with ⟨first, known, read⟩
      rcases exists_of_bind_eq_ok read with ⟨others, later, made⟩
      rw [items, steady setting outline first known surplus, ok_bind,
        items_facing steady surplus setting rest others later, ok_bind, made]

theorem isSteady_list {item : Decoder α} (steady : item.IsSteady) : (list item).IsSteady := by
  intro setting outline values read surplus
  cases outline with
  | array outlines =>
      rcases exists_of_bind_eq_ok read with ⟨inner, opened, read⟩
      rw [list, Setting.inside_facing opened, ok_bind]
      exact items_facing steady surplus inner outlines values read
  | _ => cases read

end Decoder

/-- A field whose value does not depend on the fault of a surplus. -/
def Field.IsSteady (field : Field ρ) : Prop := field.update.IsSteady

theorem Field.isSteady_of {decoder : Decoder α} (steady : decoder.IsSteady) (name : String)
    (set : α → ρ → ρ) : (of name decoder set).IsSteady := by
  intro setting outline change updated surplus
  rcases exists_of_bind_eq_ok updated with ⟨value, read, made⟩
  unfold of
  dsimp only
  rw [steady setting outline value read surplus, ok_bind, made]

theorem Field.isSteady_text (name : String) (set : String → ρ → ρ) : (text name set).IsSteady :=
  isSteady_of Decoder.isSteady_text name set

section Records

variable {fields : List (Field ρ)}

theorem Items.fill_facing (steady : ∀ field ∈ fields, field.IsSteady) (surplus : Fault)
    {setting : Setting} {items : Items} {record final : ρ}
    (filled : items.fill setting fields record = .ok final) :
    items.fill (setting.facing surplus) fields record = .ok final := by
  induction fields generalizing items record with
  | nil =>
      cases items with
      | closed => exact filled
      | _ => cases filled
  | cons field fields induction =>
      rcases List.forall_mem_cons.mp steady with ⟨first, later⟩
      cases items with
      | closed => exact filled
      | broken fault => cases filled
      | more item rest =>
          rcases exists_of_bind_eq_ok filled with ⟨change, updated, filled⟩
          rw [fill, first setting item change updated surplus, ok_bind]
          exact induction later filled

theorem Members.fill_facing (steady : ∀ field ∈ fields, field.IsSteady) (surplus : Fault)
    (setting : Setting) : (seen : List String) → (record final : ρ) → (members : Members) →
      members.fill setting fields seen record = .ok final →
      members.fill (setting.facing surplus) fields seen record = .ok final
  | _, _, _, .closed, filled => filled
  | seen, record, final, .more (some name) value rest, filled => by
      rw [fill] at filled ⊢
      cases found : Field.find? fields name with
      | none =>
          rw [found] at filled
          rcases exists_of_bind_eq_ok filled with ⟨⟨⟩, passed, filled⟩
          dsimp only
          rw [passed, ok_bind]
          exact fill_facing steady surplus setting seen record final rest filled
      | some field =>
          rw [found] at filled
          dsimp only at filled ⊢
          split at filled
          · cases filled
          · next unseen =>
              rcases exists_of_bind_eq_ok filled with ⟨change, updated, filled⟩
              rw [if_neg unseen, steady field (Field.mem_of_find? found) setting value change
                updated surplus, ok_bind]
              exact fill_facing steady surplus setting _ _ final rest filled

/-- A record of fields that do not depend on the fault of a surplus does not depend on it either. -/
theorem Decoder.isSteady_record (steady : ∀ field ∈ fields, field.IsSteady) (default : ρ) :
    (record fields default).IsSteady := by
  intro setting outline final read surplus
  cases outline with
  | object members =>
      rcases exists_of_bind_eq_ok read with ⟨inner, opened, filled⟩
      rw [record, Setting.inside_facing opened, ok_bind]
      exact Members.fill_facing steady surplus inner [] default final members filled
  | array items =>
      rcases exists_of_bind_eq_ok read with ⟨inner, opened, filled⟩
      rw [record, Setting.inside_facing opened, ok_bind]
      exact Items.fill_facing steady surplus filled
  | _ => cases read

theorem fillKept_facing (steady : ∀ field ∈ fields, field.IsSteady) (surplus : Fault)
    {setting : Setting} {seen : List String} {record final : ρ}
    {members : List (String × Outline)}
    (filled : fillKept setting fields seen record members = .ok final) :
    fillKept (setting.facing surplus) fields seen record members = .ok final := by
  induction members generalizing seen record with
  | nil => exact filled
  | cons member members induction =>
      rcases member with ⟨name, value⟩
      rw [fillKept] at filled ⊢
      cases found : Field.find? fields name with
      | none =>
          rw [found] at filled
          exact induction filled
      | some field =>
          rw [found] at filled
          dsimp only at filled ⊢
          split at filled
          · cases filled
          · next unseen =>
              rcases exists_of_bind_eq_ok filled with ⟨change, updated, filled⟩
              rw [if_neg unseen, steady field (Field.mem_of_find? found) setting value change
                updated surplus, ok_bind]
              exact induction filled

theorem fillKept_kept_iff (steady : ∀ field ∈ fields, field.IsSteady)
    {setting : Setting} {seen : List String} {record final : ρ}
    {members : List (String × Outline)} :
    fillKept setting.kept fields seen record members = .ok final ↔
      fillKept setting fields seen record members = .ok final :=
  ⟨fillKept_facing steady setting.surplus, fillKept_facing steady .mismatch⟩

end Records

/-! ## What the check adds -/

theorem Members.check_ofList_iff {setting : Setting} {members : List (String × Outline)} :
    (ofList members).check setting = .ok () ↔
      ∀ member ∈ members, member.2.check setting = .ok () := by
  induction members with
  | nil => simp [check]
  | cons member members induction =>
      rw [List.forall_mem_cons, ← induction, ofList, List.foldr_cons, check, bind_eq_ok_iff]
      exact ⟨fun ⟨⟨⟩, first, others⟩ => ⟨first, others⟩, fun ⟨first, others⟩ => ⟨(), first, others⟩⟩

theorem Items.check_ofList_iff {setting : Setting} {items : List Outline} :
    (ofList items).check setting = .ok () ↔ ∀ item ∈ items, item.check setting = .ok () := by
  induction items with
  | nil => simp [check]
  | cons item items induction =>
      rw [List.forall_mem_cons, ← induction, ofList_cons, check, bind_eq_ok_iff]
      exact ⟨fun ⟨⟨⟩, first, others⟩ => ⟨first, others⟩, fun ⟨first, others⟩ => ⟨(), first, others⟩⟩

/-- A decoder that reads nothing but what can be kept. -/
def Decoder.ReadsKept (decoder : Decoder α) : Prop :=
  ∀ setting outline value, decoder setting outline = .ok value → outline.check setting = .ok ()

/-- The members of an object that have none of the given names can be kept. -/
def Outline.KeepsOthers (names : List String) (setting : Setting) (outline : Outline) : Prop :=
  ∀ inner members, setting.inside = .ok inner → outline = .object (.ofList members) →
    ∀ member ∈ members, member.1 ∉ names → member.2.check inner = .ok ()

/-- The members of the items of an array that have none of the given names can be kept. -/
def Outline.ItemsKeepOthers (names : List String) (setting : Setting) (outline : Outline) : Prop :=
  ∀ inner items, setting.inside = .ok inner → outline = .array (.ofList items) →
    ∀ item ∈ items, item.KeepsOthers names inner

namespace Decoder

theorem readsKept_text : text.ReadsKept := by
  intro setting outline value read
  rw [text_eq_ok_iff.mp read]
  rfl

theorem readsKept_integer : integer.ReadsKept := by
  intro setting outline value read
  cases outline with
  | number given =>
      cases given with
      | none => cases read
      | some number => rfl
  | _ => cases read

end Decoder

/-- A field that is given by nothing but what can be kept. -/
def Field.ReadsKept (field : Field ρ) : Prop := field.update.ReadsKept

theorem Field.readsKept_of {decoder : Decoder α} (reads : decoder.ReadsKept) (name : String)
    (set : α → ρ → ρ) : (of name decoder set).ReadsKept := by
  intro setting outline change updated
  rcases exists_of_bind_eq_ok updated with ⟨value, read, -⟩
  exact reads setting outline value read

theorem Field.readsKept_text (name : String) (set : String → ρ → ρ) : (text name set).ReadsKept :=
  readsKept_of Decoder.readsKept_text name set

section Fields

variable {fields : List (Field ρ)}

theorem Field.find?_eq_none_iff {name : String} :
    find? fields name = none ↔ name ∉ fields.map Field.name := by
  simp [find?, List.find?_eq_none]

theorem Items.check_of_fill (reads : ∀ field ∈ fields, field.ReadsKept) {setting : Setting}
    {items : Items} {record final : ρ} (filled : items.fill setting fields record = .ok final) :
    items.check setting = .ok () := by
  induction fields generalizing items record with
  | nil =>
      cases items with
      | closed => rfl
      | _ => cases filled
  | cons field fields induction =>
      rcases List.forall_mem_cons.mp reads with ⟨first, later⟩
      cases items with
      | closed => rfl
      | broken fault => cases filled
      | more item rest =>
          rcases exists_of_bind_eq_ok filled with ⟨change, updated, filled⟩
          rw [check, first setting item change updated, ok_bind]
          exact induction later filled

/-- Every member that has been read as a field could have been kept. -/
theorem check_of_fillKept (reads : ∀ field ∈ fields, field.ReadsKept) {setting : Setting}
    {members : List (String × Outline)} {seen : List String} {record final : ρ}
    (filled : fillKept setting fields seen record members = .ok final) :
    ∀ member ∈ members, member.1 ∈ fields.map Field.name →
      member.2.check setting = .ok () := by
  induction members generalizing seen record with
  | nil => exact List.forall_mem_nil _
  | cons member members induction =>
      rcases member with ⟨name, value⟩
      rw [fillKept] at filled
      cases found : Field.find? fields name with
      | none =>
          rw [found] at filled
          refine List.forall_mem_cons.mpr ⟨fun known => ?_, induction filled⟩
          exact absurd known (Field.find?_eq_none_iff.mp found)
      | some field =>
          rw [found] at filled
          dsimp only at filled
          split at filled
          · cases filled
          · rcases exists_of_bind_eq_ok filled with ⟨change, updated, filled⟩
            refine List.forall_mem_cons.mpr ⟨fun _ => ?_, induction filled⟩
            exact reads field (Field.mem_of_find? found) setting value change updated

/-- A record that is read can be kept if the members can that are no fields. -/
theorem Decoder.check_iff_of_record (reads : ∀ field ∈ fields, field.ReadsKept) {default final : ρ}
    {setting : Setting} {outline : Outline}
    (read : record fields default setting outline = .ok final) :
    outline.check setting = .ok () ↔ outline.KeepsOthers (fields.map Field.name) setting := by
  cases outline with
  | object members =>
      rcases exists_of_bind_eq_ok read with ⟨inner, opened, filled⟩
      rcases Members.exists_fillKept_of_fill inner [] default final members filled with
        ⟨list, rfl, asKept⟩
      rw [Outline.check, opened, ok_bind, Members.check_ofList_iff]
      constructor
      · intro checked inner' members' opened' same member among _
        cases opened.symm.trans opened'
        cases Members.ofList_injective (Outline.object.inj same)
        exact checked member among
      · intro others member among
        by_cases known : member.1 ∈ fields.map Field.name
        · exact check_of_fillKept reads asKept member among known
        · exact others inner list opened rfl member among known
  | array items =>
      rcases exists_of_bind_eq_ok read with ⟨inner, opened, filled⟩
      rw [Outline.check, opened, ok_bind]
      refine iff_of_true (Items.check_of_fill reads filled) ?_
      intro _ _ _ impossible
      cases impossible
  | _ => cases read

/-- A list of records that is read can be kept if each of its items can. -/
theorem Decoder.check_iff_of_list {item : Decoder α} {names : List String}
    (records : ∀ setting outline value, item setting outline = .ok value →
      (outline.check setting = .ok () ↔ outline.KeepsOthers names setting))
    {setting : Setting} {outline : Outline} {values : List α}
    (read : list item setting outline = .ok values) :
    outline.check setting = .ok () ↔ outline.ItemsKeepOthers names setting := by
  cases outline with
  | array outlines =>
      rcases exists_of_bind_eq_ok read with ⟨inner, opened, read⟩
      rcases exists_forall₂_of_items inner outlines values read with ⟨items, rfl, each⟩
      have known : ∀ entry ∈ items,
          (entry.check inner = .ok () ↔ entry.KeepsOthers names inner) :=
        ((List.forall₂_and_left items values).mp <| each.imp fun entry value read =>
          ⟨records inner entry value read, read⟩).1
      rw [Outline.check, opened, ok_bind, Items.check_ofList_iff]
      constructor
      · intro checked inner' items' opened' same entry among
        cases opened.symm.trans opened'
        cases Items.ofList_injective (Outline.array.inj same)
        exact (known entry among).mp (checked entry among)
      · intro others entry among
        exact (known entry among).mpr (others inner items opened rfl entry among)
  | _ => cases read

end Fields

end ChangeTransport.Json
