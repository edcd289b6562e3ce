import ChangeTransport.Proofs.Json.Record
import ChangeTransport.Proofs.Json.Whole

/-!
# What a value holds for a record

A field of a record shows what the one member of its name stands for, wherever this member stands
among the others, and what it is by default if there is none.  In an array the place of the item
takes the part of the name.  So a text in a record is there because the value holds this text, and
no order of members, in any object inside the value, has a bearing on it.
-/

namespace ChangeTransport.Json

theorem Items.ofList_injective : Function.Injective Items.ofList := by
  intro first second same
  induction first generalizing second with
  | nil =>
      cases second with
      | nil => rfl
      | cons other others => cases same
  | cons item items induction =>
      cases second with
      | nil => cases same
      | cons other others =>
          rcases Items.more.inj same with ⟨rfl, rest⟩
          rw [induction rest]

theorem Members.ofList_injective : Function.Injective Members.ofList := by
  intro first second same
  induction first generalizing second with
  | nil =>
      cases second with
      | nil => rfl
      | cons other others => cases same
  | cons member members induction =>
      cases second with
      | nil => cases same
      | cons other others =>
          rcases member with ⟨name, value⟩
          rcases other with ⟨otherName, otherValue⟩
          rcases Members.more.inj same with ⟨names, rfl, rest⟩
          cases names
          rw [induction rest]

theorem mem_named {name : String} {members : List (String × Outline)} {value : Outline} :
    value ∈ named name members ↔ (name, value) ∈ members := by
  simp [named]

/-! ## Fields and views -/

section Shows

variable {ρ α : Type}

/-- A field that changes nothing of what a view shows. -/
def Field.Spares (view : ρ → α) (field : Field ρ) : Prop :=
  ∀ setting outline change, field.update setting outline = .ok change →
    ∀ record, view (change record) = view record

theorem Field.spares_of {β : Type} {view : ρ → α} {name : String} {decoder : Decoder β}
    {set : β → ρ → ρ} (spares : ∀ value record, view (set value record) = view record) :
    (Field.of name decoder set).Spares view := by
  intro setting outline change updated record
  rcases exists_of_bind_eq_ok updated with ⟨value, -, made⟩
  cases made
  exact spares value record

/--
A view shows the field of a name, which stands at a place among the fields and is read by a decoder;
the other fields have other names and change nothing of what is shown.
-/
inductive Shows (view : ρ → α) (name : String) (decoder : Decoder α) :
    Nat → List (Field ρ) → Prop
  | here {set : α → ρ → ρ} {rest : List (Field ρ)}
      (sees : ∀ value record, view (set value record) = value)
      (others : ∀ field ∈ rest, field.name ≠ name ∧ field.Spares view) :
      Shows view name decoder 0 (.of name decoder set :: rest)
  | later {place : Nat} {field : Field ρ} {rest : List (Field ρ)}
      (other : field.name ≠ name ∧ field.Spares view)
      (behind : Shows view name decoder place rest) :
      Shows view name decoder (place + 1) (field :: rest)

variable {view : ρ → α} {name : String} {decoder : Decoder α} {place : Nat}
  {fields : List (Field ρ)}

theorem Shows.exists_find? (shows : Shows view name decoder place fields) :
    ∃ set, Field.find? fields name = some (.of name decoder set) ∧
      ∀ value record, view (set value record) = value := by
  induction shows with
  | @here set rest sees others =>
      exact ⟨set, List.find?_cons_of_pos (beq_self_eq_true name), sees⟩
  | later other behind induction =>
      rcases induction with ⟨set, found, sees⟩
      refine ⟨set, ?_, sees⟩
      rw [Field.find?, List.find?_cons_of_neg (by simp [other.1])]
      exact found

theorem Shows.spares (shows : Shows view name decoder place fields) {field : Field ρ}
    (among : field ∈ fields) (other : field.name ≠ name) : field.Spares view := by
  induction shows with
  | here sees others =>
      rcases List.mem_cons.mp among with rfl | later
      · exact absurd rfl other
      · exact (others field later).2
  | later first behind induction =>
      rcases List.mem_cons.mp among with rfl | later
      · exact first.2
      · exact induction later

/-! ## Members -/

/--
Members that have been read show the value of the one member with the name of a field, or leave it
as it is if there is none.  The induction is on the members; a name that has been seen is not read
again.
-/
theorem Shows.view_fillKept (shows : Shows view name decoder place fields) {setting : Setting}
    {members : List (String × Outline)} {seen : List String} {record final : ρ}
    (filled : fillKept setting fields seen record members = .ok final) :
    (named name members = [] ∧ view final = view record) ∨
      ∃ outline, named name members = [outline] ∧ decoder setting outline = .ok (view final) ∧
        name ∉ seen := by
  induction members generalizing seen record with
  | nil =>
      cases filled
      exact .inl ⟨rfl, rfl⟩
  | cons member members induction =>
      rcases member with ⟨other, value⟩
      rw [fillKept] at filled
      cases found : Field.find? fields other with
      | none =>
          have different : name ≠ other := by
            rintro rfl
            rcases shows.exists_find? with ⟨set, known, -⟩
            rw [known] at found
            cases found
          rw [found] at filled
          rw [named_cons_of_ne different]
          exact induction filled
      | some field =>
          rw [found] at filled
          dsimp only at filled
          split at filled
          · cases filled
          · next unseen =>
              rcases exists_of_bind_eq_ok filled with ⟨change, updated, filled⟩
              have rest := induction filled
              by_cases same : name = other
              · subst same
                rcases shows.exists_find? with ⟨set, known, sees⟩
                rw [known, Option.some.injEq] at found
                subst found
                rcases exists_of_bind_eq_ok updated with ⟨shown, read, made⟩
                cases made
                rcases rest with ⟨none, still⟩ | ⟨_, _, _, fresh⟩
                · refine .inr ⟨value, by rw [named_cons_self, none], ?_, by simpa using unseen⟩
                  rw [still, sees]
                  exact read
                · exact absurd List.mem_cons_self fresh
              · have spared : view (change record) = view record := by
                  have named : field.name = other := by
                    simpa using List.find?_some found
                  exact shows.spares (Field.mem_of_find? found) (named ▸ Ne.symm same) setting
                    value change updated record
                rw [named_cons_of_ne same]
                rcases rest with ⟨none, still⟩ | ⟨outline, told, read, fresh⟩
                · exact .inl ⟨none, still.trans spared⟩
                · exact .inr ⟨outline, told, read, fun among => fresh (.tail _ among)⟩

/-- A member with the name of a field has been read as what the view shows. -/
theorem Shows.eq_ok_of_fillKept (shows : Shows view name decoder place fields) {setting : Setting}
    {members : List (String × Outline)} {seen : List String} {record final : ρ}
    (filled : fillKept setting fields seen record members = .ok final) {value : Outline}
    (among : (name, value) ∈ members) : decoder setting value = .ok (view final) := by
  rw [← mem_named] at among
  rcases shows.view_fillKept filled with ⟨none, -⟩ | ⟨outline, told, known, -⟩
  · rw [none] at among
    cases among
  · rw [told, List.mem_singleton] at among
    rw [among, known]

/-- Members that are read at once are whole, and read as they would be if they had been kept. -/
theorem Members.exists_fillKept_of_fill (setting : Setting) :
    (seen : List String) → (record final : ρ) → (members : Members) →
      members.fill setting fields seen record = .ok final →
      ∃ list, members = .ofList list ∧ fillKept setting fields seen record list = .ok final
  | _, _, _, .closed, filled => ⟨[], rfl, filled⟩
  | seen, record, final, .more (some name) value rest, filled => by
      rw [Members.fill] at filled
      cases found : Field.find? fields name with
      | none =>
          rw [found] at filled
          rcases exists_of_bind_eq_ok filled with ⟨_, -, filled⟩
          rcases exists_fillKept_of_fill setting seen record final rest filled with
            ⟨list, rfl, kept⟩
          exact ⟨(name, value) :: list, rfl, by rw [fillKept, found]; exact kept⟩
      | some field =>
          rw [found] at filled
          dsimp only at filled
          split at filled
          · cases filled
          · next unseen =>
              rcases exists_of_bind_eq_ok filled with ⟨change, updated, filled⟩
              rcases exists_fillKept_of_fill setting _ _ final rest filled with
                ⟨list, rfl, kept⟩
              refine ⟨(name, value) :: list, rfl, ?_⟩
              rw [fillKept, found]
              dsimp only
              rw [if_neg unseen, updated]
              exact kept

/-- Where no field is read at once, all members are kept. -/
theorem Members.exists_ofList_of_gather (setting : Setting) :
    (seen : List String) → (before : List (String × Outline)) → (record : ρ) →
      (gathered : ρ × List (String × Outline)) → (members : Members) →
      members.gather setting [] seen before record = .ok gathered →
      ∃ list, members = .ofList list ∧ gathered = (record, list.reverse ++ before)
  | _, _, _, _, .closed, kept => ⟨[], rfl, (Except.ok.inj kept).symm⟩
  | seen, before, record, gathered, .more (some name) value rest, kept => by
      rcases exists_of_bind_eq_ok kept with ⟨_, -, kept⟩
      rcases exists_ofList_of_gather setting seen _ record gathered rest kept with
        ⟨list, rfl, rfl⟩
      exact ⟨(name, value) :: list, rfl, by simp⟩

/-! ## Items -/

theorem view_of_fill_of_spares (setting : Setting)
    (spares : ∀ field ∈ fields, field.Spares view) {items : Items} {record final : ρ}
    (filled : items.fill setting fields record = .ok final) :
    (∃ list, items = .ofList list) ∧ view final = view record := by
  induction fields generalizing items record with
  | nil =>
      cases items with
      | closed =>
          cases filled
          exact ⟨⟨[], rfl⟩, rfl⟩
      | _ => cases filled
  | cons field rest induction =>
      cases items with
      | closed =>
          cases filled
          exact ⟨⟨[], rfl⟩, rfl⟩
      | broken fault => cases filled
      | more item others =>
          rw [Items.fill] at filled
          rcases exists_of_bind_eq_ok filled with ⟨change, updated, filled⟩
          rcases List.forall_mem_cons.mp spares with ⟨first, later⟩
          rcases induction later filled with ⟨⟨list, rfl⟩, still⟩
          exact ⟨⟨item :: list, rfl⟩, still.trans (first setting item change updated record)⟩

/-- Items that have been read show the one at the place of a field. -/
theorem Shows.view_fill (shows : Shows view name decoder place fields) {setting : Setting}
    {items : Items} {record final : ρ}
    (filled : items.fill setting fields record = .ok final) :
    ∃ list, items = .ofList list ∧
      ((list[place]? = none ∧ view final = view record) ∨
        ∃ outline, list[place]? = some outline ∧
          decoder setting outline = .ok (view final)) := by
  induction shows generalizing items record with
  | here sees others =>
      cases items with
      | closed =>
          cases filled
          exact ⟨[], rfl, .inl ⟨rfl, rfl⟩⟩
      | broken fault => cases filled
      | more item rest =>
          rw [Items.fill] at filled
          rcases exists_of_bind_eq_ok filled with ⟨change, updated, filled⟩
          rcases exists_of_bind_eq_ok updated with ⟨shown, read, made⟩
          cases made
          rcases view_of_fill_of_spares setting (fun field among => (others field among).2) filled
            with ⟨⟨list, rfl⟩, still⟩
          refine ⟨item :: list, rfl, .inr ⟨item, rfl, ?_⟩⟩
          rw [still, sees]
          exact read
  | later other behind induction =>
      cases items with
      | closed =>
          cases filled
          exact ⟨[], rfl, .inl ⟨rfl, rfl⟩⟩
      | broken fault => cases filled
      | more item rest =>
          rw [Items.fill] at filled
          rcases exists_of_bind_eq_ok filled with ⟨change, updated, filled⟩
          rcases induction filled with ⟨list, rfl, shown⟩
          have spared := other.2 setting item change updated record
          refine ⟨item :: list, rfl, ?_⟩
          rw [List.getElem?_cons_succ, ← spared]
          exact shown

end Shows

/-! ## Texts in records -/

/-- A value holds a text under a name if it is an object, or at a place if it is an array. -/
def HoldsText (name : String) (place : Nat) (text : String) (outline : Outline) : Prop :=
  (∃ members, outline = .object (.ofList members) ∧ (name, .text (some text)) ∈ members) ∨
    ∃ items, outline = .array (.ofList items) ∧ items[place]? = some (.text (some text))

theorem Decoder.text_eq_ok_iff {setting : Setting} {outline : Outline} {text : String} :
    Decoder.text setting outline = .ok text ↔ outline = .text (some text) := by
  constructor
  · intro read
    unfold Decoder.text at read
    split at read <;> cases read
    rfl
  · rintro rfl
    rfl

variable {ρ : Type}

/-- A record has a text other than the default exactly if the value that is read holds it. -/
theorem Shows.view_record_iff {view : ρ → String} {name : String} {place : Nat}
    {fields : List (Field ρ)} (shows : Shows view name Decoder.text place fields)
    {default final : ρ} {setting : Setting} {outline : Outline}
    (read : Decoder.record fields default setting outline = .ok final) {text : String}
    (other : text ≠ view default) : view final = text ↔ HoldsText name place text outline := by
  cases outline with
  | object members =>
      rcases exists_of_bind_eq_ok read with ⟨inner, -, filled⟩
      rcases Members.exists_fillKept_of_fill inner [] default final members filled with
        ⟨list, rfl, asKept⟩
      have holds : HoldsText name place text (.object (.ofList list)) ↔
          .text (some text) ∈ named name list := by
        rw [mem_named]
        constructor
        · rintro (⟨list', same, told⟩ | ⟨_, impossible, -⟩)
          · rwa [Members.ofList_injective (Outline.object.inj same)]
          · cases impossible
        · exact fun told => .inl ⟨list, rfl, told⟩
      rw [holds]
      rcases shows.view_fillKept asKept with ⟨none, still⟩ | ⟨value, told, known, -⟩
      · rw [none, still]
        exact iff_of_false (Ne.symm other) List.not_mem_nil
      · rw [told, List.mem_singleton, Decoder.text_eq_ok_iff.mp known]
        simp [eq_comm]
  | array items =>
      rcases exists_of_bind_eq_ok read with ⟨inner, -, filled⟩
      rcases shows.view_fill filled with ⟨list, rfl, shown⟩
      have holds : HoldsText name place text (.array (.ofList list)) ↔
          list[place]? = some (.text (some text)) := by
        constructor
        · rintro (⟨_, impossible, -⟩ | ⟨list', same, told⟩)
          · cases impossible
          · rwa [Items.ofList_injective (Outline.array.inj same)]
        · exact fun told => .inr ⟨list, rfl, told⟩
      rw [holds]
      rcases shown with ⟨none, still⟩ | ⟨value, told, known⟩
      · rw [none, still]
        exact iff_of_false (Ne.symm other) nofun
      · rw [told, Decoder.text_eq_ok_iff.mp known]
        simp [eq_comm]
  | _ => cases read

theorem Decoder.exists_forall₂_of_items {α : Type} {item : Decoder α} (setting : Setting) :
    (outlines : Items) → (values : List α) → items item setting outlines = .ok values →
      ∃ list, outlines = .ofList list ∧
        List.Forall₂ (fun outline value => item setting outline = .ok value) list values
  | .closed, _, read => ⟨[], rfl, Except.ok.inj read ▸ .nil⟩
  | .more outline rest, values, read => by
      rw [items] at read
      rcases exists_of_bind_eq_ok read with ⟨first, known, read⟩
      rcases exists_of_bind_eq_ok read with ⟨others, later, made⟩
      cases made
      rcases exists_forall₂_of_items setting rest others later with ⟨list, rfl, each⟩
      exact ⟨outline :: list, rfl, .cons known each⟩

/-- A list is read from an array, item by item. -/
theorem Decoder.exists_forall₂_of_list {α : Type} {item : Decoder α} {setting : Setting}
    {outline : Outline} {values : List α} (read : Decoder.list item setting outline = .ok values) :
    ∃ inner items, outline = .array (.ofList items) ∧
      List.Forall₂ (fun outline value => item inner outline = .ok value) items values := by
  cases outline with
  | array outlines =>
      rcases exists_of_bind_eq_ok read with ⟨inner, -, read⟩
      rcases exists_forall₂_of_items inner outlines values read with ⟨items, rfl, each⟩
      exact ⟨inner, items, rfl, each⟩
  | _ => cases read

/-- Where no field is read at once, a merged record is read from the members of an object. -/
theorem Decoder.exists_fillKept_of_merged {fields : List (Field ρ)} {default final : ρ}
    {setting : Setting} {outline : Outline}
    (read : Decoder.merged [] fields default setting outline = .ok final) :
    ∃ inner members, outline = .object (.ofList members) ∧
      fillKept inner fields [] default members = .ok final := by
  cases outline with
  | object members =>
      rcases exists_of_bind_eq_ok read with ⟨inner, -, read⟩
      rcases exists_of_bind_eq_ok read with ⟨gathered, kept, filled⟩
      rcases Members.exists_ofList_of_gather inner [] [] default gathered members kept with
        ⟨list, rfl, rfl⟩
      rw [List.append_nil] at filled
      dsimp only at filled
      rw [List.reverse_reverse] at filled
      exact ⟨inner.kept, list, rfl, filled⟩
  | _ => cases read

/-- A value is an object of which a member of the given name is of a kind. -/
def Tells (name : String) (kind : Outline → Prop) (outline : Outline) : Prop :=
  ∃ members value, outline = .object (.ofList members) ∧ (name, value) ∈ members ∧ kind value

theorem tells_ofList_iff {name : String} {kind : Outline → Prop}
    {members : List (String × Outline)} :
    Tells name kind (.object (.ofList members)) ↔ ∃ value ∈ named name members, kind value := by
  constructor
  · rintro ⟨others, value, same, told, known⟩
    cases Members.ofList_injective (Outline.object.inj same)
    exact ⟨value, mem_named.mpr told, known⟩
  · rintro ⟨value, told, known⟩
    exact ⟨members, value, rfl, mem_named.mp told, known⟩

/-! ## Members in another order -/

/-- The members of one object, anywhere in a value, are put in another order. -/
inductive Reordered : Outline → Outline → Prop
  | here {members others : List (String × Outline)} (order : members.Perm others) :
      Reordered (.object (.ofList members)) (.object (.ofList others))
  | inItem {front behind : List Outline} {item other : Outline} (inside : Reordered item other) :
      Reordered (.array (.ofList (front ++ item :: behind)))
        (.array (.ofList (front ++ other :: behind)))
  | inMember {front behind : List (String × Outline)} {name : String} {value other : Outline}
      (inside : Reordered value other) :
      Reordered (.object (.ofList (front ++ (name, value) :: behind)))
        (.object (.ofList (front ++ (name, other) :: behind)))

theorem Reordered.symm {outline other : Outline} (step : Reordered outline other) :
    Reordered other outline := by
  induction step with
  | here order => exact .here order.symm
  | inItem inside induction => exact .inItem induction
  | inMember inside induction => exact .inMember induction

theorem not_reordered_text {text : Option String} {other : Outline} :
    ¬ Reordered (.text text) other := nofun

/-- What is in a list stays in it if something else is replaced. -/
theorem eq_or_mem_of_mem_replaced {β : Type} {front behind : List β} {value found : β}
    (among : found ∈ front ++ value :: behind) (other : β) :
    found = value ∨ found ∈ front ++ other :: behind := by
  rw [List.mem_append, List.mem_cons] at among ⊢
  tauto

theorem eq_or_getElem?_replaced {β : Type} {front behind : List β} {value found : β} {place : Nat}
    (there : (front ++ value :: behind)[place]? = some found) (other : β) :
    found = value ∨ (front ++ other :: behind)[place]? = some found := by
  rcases Nat.lt_trichotomy place front.length with before | rfl | after
  · rw [List.getElem?_append_left before] at there ⊢
    exact .inr there
  · simp at there
    exact .inl there.symm
  · rw [List.getElem?_append_right (Nat.le_of_lt after)] at there ⊢
    rcases Nat.exists_eq_add_of_lt after with ⟨rest, rfl⟩
    have behindIt : front.length + rest + 1 - front.length = rest + 1 := by omega
    rw [behindIt, List.getElem?_cons_succ] at there ⊢
    exact .inr there

/-- A value holds the same texts when members have been put in another order. -/
theorem HoldsText.reordered {name text : String} {place : Nat} {outline other : Outline}
    (holds : HoldsText name place text outline) (step : Reordered outline other) :
    HoldsText name place text other := by
  cases step with
  | here order =>
      rcases holds with ⟨members, same, told⟩ | ⟨items, impossible, -⟩
      · cases Members.ofList_injective (Outline.object.inj same)
        exact .inl ⟨_, rfl, order.mem_iff.mp told⟩
      · cases impossible
  | inItem inside =>
      rcases holds with ⟨members, impossible, -⟩ | ⟨items, same, told⟩
      · cases impossible
      · cases Items.ofList_injective (Outline.array.inj same)
        rcases eq_or_getElem?_replaced told _ with rfl | still
        · exact absurd inside not_reordered_text
        · exact .inr ⟨_, rfl, still⟩
  | inMember inside =>
      rcases holds with ⟨members, same, told⟩ | ⟨items, impossible, -⟩
      · cases Members.ofList_injective (Outline.object.inj same)
        rcases eq_or_mem_of_mem_replaced told _ with replaced | still
        · cases replaced
          exact absurd inside not_reordered_text
        · exact .inl ⟨_, rfl, still⟩
      · cases impossible

/-- What an object tells does not depend on a member that is replaced by one of the same kind. -/
theorem tells_of_replaced {name given : String} {kind : Outline → Prop}
    {front behind : List (String × Outline)} {value other : Outline}
    (same : given = name → kind value → kind other)
    (tells : Tells name kind (.object (.ofList (front ++ (given, value) :: behind)))) :
    Tells name kind (.object (.ofList (front ++ (given, other) :: behind))) := by
  rw [tells_ofList_iff] at tells ⊢
  rcases tells with ⟨found, told, known⟩
  rcases eq_or_mem_of_mem_replaced (mem_named.mp told) (given, other) with replaced | still
  · cases replaced
    exact ⟨other, mem_named.mpr (by simp), same rfl known⟩
  · exact ⟨found, mem_named.mpr still, known⟩

/-- An object tells the same when members have been put in another order. -/
theorem Reordered.tells {name : String} {kind : Outline → Prop}
    (keeps : ∀ {value other}, Reordered value other → kind value → kind other)
    {outline other : Outline} (step : Reordered outline other) (tells : Tells name kind outline) :
    Tells name kind other := by
  cases step with
  | here order =>
      rw [tells_ofList_iff] at tells ⊢
      rcases tells with ⟨value, told, known⟩
      exact ⟨value, mem_named.mpr (order.mem_iff.mp (mem_named.mp told)), known⟩
  | inItem inside =>
      rcases tells with ⟨members, value, impossible, -⟩
      cases impossible
  | inMember inside => exact tells_of_replaced (fun _ => keeps inside) tells

end ChangeTransport.Json
