import ChangeTransport.Proofs.Json.Writing

/-!
# How records are written

An object describes a record if every field of the record is told by exactly one member, or by none
where the field is as it is by default.  The members may stand in any order, with others among them
that are no fields.

The fields of a record are independent of each other: what one of them sets, the others leave alone.
So after all members have been read, every field is as it is told, and the record is the one that is
described.
-/

namespace ChangeTransport.Json

/-! ## Lists and objects -/

/-- The items of a list. -/
def Items.ofList (items : List Outline) : Items := items.foldr .more .closed

/-- The members of an object, by their names. -/
def Members.ofList (members : List (String × Outline)) : Members :=
  members.foldr (fun member rest => .more (some member.1) member.2 rest) .closed

@[simp]
theorem Items.ofList_nil : ofList [] = .closed := rfl

@[simp]
theorem Items.ofList_cons (item : Outline) (items : List Outline) :
    ofList (item :: items) = .more item (ofList items) := rfl

@[simp]
theorem Members.ofList_nil : ofList [] = .closed := rfl

@[simp]
theorem Members.ofList_cons (name : String) (value : Outline) (members : List (String × Outline)) :
    ofList ((name, value) :: members) = .more (some name) value (ofList members) := rfl

/-! ## Values that are not read at once -/

mutual

/-- A value that is whole can be passed over. -/
theorem Outline.pass_of_isWhole : (outline : Outline) → outline.IsWhole → outline.pass = .ok ()
  | .array items, whole => Items.pass_of_isWhole items whole
  | .object members, whole => Members.pass_of_isWhole members whole
  | .null, _ | .boolean _, _ | .number _, _ | .text _, _ => rfl

theorem Items.pass_of_isWhole : (items : Items) → items.IsWhole → items.pass = .ok ()
  | .closed, _ => rfl
  | .more item rest, ⟨first, others⟩ => by
      rw [Items.pass, Outline.pass_of_isWhole item first, ok_bind,
        Items.pass_of_isWhole rest others]

theorem Members.pass_of_isWhole : (members : Members) → members.IsWhole → members.pass = .ok ()
  | .closed, _ => rfl
  | .more name value rest, ⟨first, others⟩ => by
      rw [Members.pass, Outline.pass_of_isWhole value first, ok_bind,
        Members.pass_of_isWhole rest others]

end

mutual

/-- A whole value of which every number, every text and every name stands for one. -/
def Outline.IsReadable : Outline → Prop
  | .number value => value.isSome
  | .text value => value.isSome
  | .array items => items.IsReadable
  | .object members => members.IsReadable
  | .broken _ => False
  | .null | .boolean _ => True

/-- Items that are all readable. -/
def Items.IsReadable : Items → Prop
  | .closed => True
  | .broken _ => False
  | .more item rest => item.IsReadable ∧ rest.IsReadable

/-- Members that are all readable. -/
def Members.IsReadable : Members → Prop
  | .closed => True
  | .broken _ => False
  | .more name value rest => name.isSome ∧ value.IsReadable ∧ rest.IsReadable

end

mutual

/-- How deep lists and objects are nested inside each other. -/
def Outline.depth : Outline → Nat
  | .array items => items.depth + 1
  | .object members => members.depth + 1
  | _ => 0

/-- How deep items are nested. -/
def Items.depth : Items → Nat
  | .more item rest => max item.depth rest.depth
  | _ => 0

/-- How deep the values of members are nested. -/
def Members.depth : Members → Nat
  | .more _ value rest => max value.depth rest.depth
  | _ => 0

end

/-- Inside a container there is room for one level less. -/
theorem Setting.exists_inside {setting : Setting} {depth : Nat} (room : depth + 1 ≤ setting.room) :
    ∃ inner, setting.inside = .ok inner ∧ depth ≤ inner.room := by
  rcases setting with ⟨_ | room, surplus⟩
  · simp at room
  · exact ⟨⟨_, surplus⟩, rfl, Nat.le_of_succ_le_succ ‹_›⟩

mutual

/-- A readable value can be kept if there is room for it. -/
theorem Outline.check_of_isReadable : (outline : Outline) → outline.IsReadable →
    (setting : Setting) → outline.depth ≤ setting.room → outline.check setting = .ok ()
  | .number (some _), _, _, _ | .text (some _), _, _, _ | .null, _, _, _ | .boolean _, _, _, _ => rfl
  | .array items, readable, setting, room => by
      rcases Setting.exists_inside room with ⟨inner, opened, room⟩
      rw [Outline.check, opened, ok_bind]
      exact Items.check_of_isReadable items readable inner room
  | .object members, readable, setting, room => by
      rcases Setting.exists_inside room with ⟨inner, opened, room⟩
      rw [Outline.check, opened, ok_bind]
      exact Members.check_of_isReadable members readable inner room

theorem Items.check_of_isReadable : (items : Items) → items.IsReadable →
    (setting : Setting) → items.depth ≤ setting.room → items.check setting = .ok ()
  | .closed, _, _, _ => rfl
  | .more item rest, ⟨first, others⟩, setting, room => by
      rw [Items.depth, Nat.max_le] at room
      rw [Items.check, Outline.check_of_isReadable item first setting room.1, ok_bind,
        Items.check_of_isReadable rest others setting room.2]

theorem Members.check_of_isReadable : (members : Members) → members.IsReadable →
    (setting : Setting) → members.depth ≤ setting.room → members.check setting = .ok ()
  | .closed, _, _, _ => rfl
  | .more (some name) value rest, ⟨_, first, others⟩, setting, room => by
      rw [Members.depth, Nat.max_le] at room
      rw [Members.check, Outline.check_of_isReadable value first setting room.1, ok_bind,
        Members.check_of_isReadable rest others setting room.2]

end

/-- A readable value that is nested less than a hundred deep. -/
structure Outline.IsKeepable (outline : Outline) : Prop where
  readable : outline.IsReadable
  shallow : outline.depth < 100

/-! ## Decoders and what denotes their values -/

/--
A decoder that gives back a value from everything that denotes it, where there is room for
containers nested so deep.
-/
def Decoder.Recovers {α : Type} (decoder : Decoder α) (depth : Nat)
    (Denotes : α → Outline → Prop) : Prop :=
  ∀ setting value outline, depth ≤ setting.room → Denotes value outline →
    decoder setting outline = .ok value

/-- The list of what denotes the values of a list, in their order. -/
def DenotesList {α : Type} (Denotes : α → Outline → Prop) (values : List α) (outline : Outline) :
    Prop :=
  ∃ items, outline = .array (.ofList items) ∧ List.Forall₂ Denotes values items

/-- A text that is there is denoted by itself, and none by `null`. -/
def DenotesOptionalText : Option String → Outline → Prop
  | none, outline => outline = .null
  | some text, outline => outline = .text (some text)

/-- An integer of 64 bits with a sign is denoted by itself. -/
def DenotesInteger (value : Int) (outline : Outline) : Prop :=
  -0x8000000000000000 ≤ value ∧ value < 0x8000000000000000 ∧
    outline = .number (some (.integer value))

/-- A text is denoted by itself. -/
def DenotesText (text : String) (outline : Outline) : Prop := outline = .text (some text)

namespace Decoder

theorem text_recovers (depth : Nat) : text.Recovers depth DenotesText := by
  rintro setting value outline - rfl
  rfl

theorem optionalText_recovers (depth : Nat) :
    optionalText.Recovers depth DenotesOptionalText := by
  rintro setting (_ | value) outline - rfl
  · rfl
  · rfl

theorem integer_recovers (depth : Nat) : integer.Recovers depth DenotesInteger := by
  rintro setting value outline - ⟨low, high, rfl⟩
  exact if_pos ⟨low, high⟩

variable {α : Type} {item : Decoder α} {depth : Nat} {Denotes : α → Outline → Prop}

theorem items_recovers (recovers : item.Recovers depth Denotes) {setting : Setting}
    (room : depth ≤ setting.room) {values : List α} {outlines : List Outline}
    (denotes : List.Forall₂ Denotes values outlines) :
    items item setting (.ofList outlines) = .ok values := by
  induction denotes with
  | nil => rfl
  | @cons value outline values outlines first others induction =>
      rw [Items.ofList_cons, items, recovers setting value outline room first, ok_bind, induction]
      rfl

theorem list_recovers (recovers : item.Recovers depth Denotes) :
    (list item).Recovers (depth + 1) (DenotesList Denotes) := by
  rintro setting values outline room ⟨outlines, rfl, denotes⟩
  rcases Setting.exists_inside room with ⟨inner, opened, room⟩
  rw [list, opened, ok_bind]
  exact items_recovers recovers room denotes

end Decoder

/-! ## Parts of a record -/

/-- One field of a record: its name, what may stand for it, and when two records agree in it. -/
structure RecordPart (ρ : Type) where
  name : String
  /-- What may stand for the field of a record. -/
  Denotes : ρ → Outline → Prop
  Agrees : ρ → ρ → Prop

namespace RecordPart

variable {ρ α : Type}

/-- The part of a record that is seen by a view. -/
@[simp]
def of (name : String) (view : ρ → α) (Denotes : α → Outline → Prop) : RecordPart ρ :=
  ⟨name, fun record => Denotes (view record), fun first second => view first = view second⟩

/-- A part that is a text. -/
@[simp]
def text (name : String) (view : ρ → String) : RecordPart ρ := of name view DenotesText

/-- A part that may be a text. -/
@[simp]
def optionalText (name : String) (view : ρ → Option String) : RecordPart ρ :=
  of name view DenotesOptionalText

/-- A part that is an integer. -/
@[simp]
def integer (name : String) (view : ρ → Int) : RecordPart ρ := of name view DenotesInteger

/-- A part that is a list. -/
@[simp]
def list (name : String) (view : ρ → List α) (Denotes : α → Outline → Prop) : RecordPart ρ :=
  of name view (DenotesList Denotes)

end RecordPart

/-- The values that members give for a name. -/
def named (name : String) (members : List (String × Outline)) : List Outline :=
  (members.filter fun member => member.1 == name).map Prod.snd

/--
What the members of an object tell about a part: it is given once, or not at all where the record is
as it is by default.
-/
def RecordPart.IsTold {ρ : Type} (part : RecordPart ρ) (default record : ρ)
    (members : List (String × Outline)) : Prop :=
  (∃ value, named part.name members = [value] ∧ part.Denotes record value) ∨
    named part.name members = [] ∧ part.Agrees default record

/--
An object that describes a record: it tells all its parts, and what is neither told nor read at once
is of the given kind.
-/
def Describes {ρ : Type} (parts : List (RecordPart ρ)) (default : ρ) (direct : List String)
    (Other : Outline → Prop) (record : ρ) (outline : Outline) : Prop :=
  ∃ members, outline = .object (.ofList members) ∧
    (∀ part ∈ parts, part.IsTold default record members) ∧
    ∀ member ∈ members, member.1 ∉ direct → Other member.2

/-! ## Fields and parts -/

section Fields

variable {ρ : Type}

/--
A field that sets a part and leaves all others alone, where there is room for values nested so deep.
-/
structure Field.Sets (depth : Nat) (parts : List (RecordPart ρ)) (field : Field ρ)
    (part : RecordPart ρ) : Prop where
  name : field.name = part.name
  update : ∀ setting record value, depth ≤ setting.room → part.Denotes record value →
    ∃ change, field.update setting value = .ok change ∧
      ∀ current, part.Agrees (change current) record ∧
        ∀ other ∈ parts, other.name ≠ part.name → ∀ reference,
          other.Agrees current reference → other.Agrees (change current) reference

/-- A change of the field with a name that leaves all other parts as they are. -/
def LeavesOthers {α : Type} (parts : List (RecordPart ρ)) (name : String) (set : α → ρ → ρ) :
    Prop :=
  ∀ other ∈ parts, other.name ≠ name → ∀ value current reference,
    other.Agrees current reference → other.Agrees (set value current) reference

/-- A field that is read by a decoder and changes nothing but what is seen by one view. -/
theorem Field.sets_of {α : Type} {decoder : Decoder α} {depth : Nat}
    {Denotes : α → Outline → Prop} {parts : List (RecordPart ρ)}
    {name : String} {set : α → ρ → ρ} {view : ρ → α}
    (recovers : decoder.Recovers depth Denotes)
    (seen : ∀ value record, view (set value record) = value)
    (alone : LeavesOthers parts name set) :
    (Field.of name decoder set).Sets depth parts (RecordPart.of name view Denotes) where
  name := rfl
  update := by
    intro setting record value room denotes
    refine ⟨set (view record), ?_, ?_⟩
    · exact congrArg (· >>= fun found => .ok (set found)) (recovers setting _ value room denotes)
    · intro current
      exact ⟨seen _ _, fun other member different reference => alone other member different _ _ _⟩

theorem Field.sets_text {depth : Nat} {parts : List (RecordPart ρ)} {name : String}
    {set : String → ρ → ρ} {view : ρ → String}
    (seen : ∀ value record, view (set value record) = value)
    (alone : LeavesOthers parts name set) :
    (Field.text name set).Sets depth parts (RecordPart.text name view) :=
  sets_of (Decoder.text_recovers depth) seen alone

theorem Field.sets_integer {depth : Nat} {parts : List (RecordPart ρ)} {name : String}
    {set : Int → ρ → ρ} {view : ρ → Int} (seen : ∀ value record, view (set value record) = value)
    (alone : LeavesOthers parts name set) :
    (Field.of name Decoder.integer set).Sets depth parts (RecordPart.integer name view) :=
  sets_of (Decoder.integer_recovers depth) seen alone

theorem Field.sets_list {α : Type} {item : Decoder α} {depth : Nat}
    {Denotes : α → Outline → Prop} {parts : List (RecordPart ρ)} {name : String}
    {set : List α → ρ → ρ} {view : ρ → List α} (recovers : item.Recovers depth Denotes)
    (seen : ∀ value record, view (set value record) = value)
    (alone : LeavesOthers parts name set) :
    (Field.of name (Decoder.list item) set).Sets (depth + 1) parts
      (RecordPart.list name view Denotes) :=
  sets_of (Decoder.list_recovers recovers) seen alone

/-- Fields that set parts, each its own. -/
structure FieldsSet (depth : Nat) (parts : List (RecordPart ρ)) (fields : List (Field ρ))
    (mine : List (RecordPart ρ)) : Prop where
  sets : List.Forall₂ (Field.Sets depth parts) fields mine
  distinct : (mine.map RecordPart.name).Nodup

variable {depth : Nat} {parts mine : List (RecordPart ρ)} {fields : List (Field ρ)}

theorem FieldsSet.find?_eq_none (set : FieldsSet depth parts fields mine) {name : String}
    (unknown : name ∉ mine.map RecordPart.name) : Field.find? fields name = none := by
  rcases set with ⟨sets, -⟩
  induction sets with
  | nil => rfl
  | @cons field part fields mine first others induction =>
      rw [List.map_cons, List.mem_cons, not_or] at unknown
      have differs : (field.name == name) = false := by
        rw [first.name, beq_eq_false_iff_ne]
        exact Ne.symm unknown.1
      rw [Field.find?, List.find?_cons_of_neg (by simp [differs])]
      exact induction unknown.2

theorem FieldsSet.exists_find? (set : FieldsSet depth parts fields mine) {name : String}
    (known : name ∈ mine.map RecordPart.name) :
    ∃ field part, Field.find? fields name = some field ∧ part ∈ mine ∧ part.name = name ∧
      Field.Sets depth parts field part := by
  rcases set with ⟨sets, -⟩
  induction sets with
  | nil => cases known
  | @cons field part fields mine first others induction =>
      by_cases same : part.name = name
      · have matched : (field.name == name) = true := by
          rw [first.name, same, beq_self_eq_true]
        exact ⟨field, part, List.find?_cons_of_pos matched, List.mem_cons_self, same, first⟩
      · have later : name ∈ mine.map RecordPart.name := by
          rw [List.map_cons, List.mem_cons] at known
          exact known.resolve_left (Ne.symm same)
        rcases induction later with ⟨field', part', found, member, named, sets⟩
        refine ⟨field', part', ?_, List.mem_cons_of_mem _ member, named, sets⟩
        rw [Field.find?, List.find?_cons_of_neg (by simp [first.name, same])]
        exact found

theorem named_cons_self (name : String) (value : Outline) (members : List (String × Outline)) :
    named name ((name, value) :: members) = value :: named name members := by
  simp [named]

theorem named_cons_of_ne {name other : String} (different : other ≠ name) (value : Outline)
    (members : List (String × Outline)) :
    named other ((name, value) :: members) = named other members := by
  simp [named, Ne.symm different]

/--
What is still to be told about a part: its value, which has not been read before, or nothing, where
the record that is being read agrees already.
-/
def RecordPart.IsDue (part : RecordPart ρ) (record : ρ) (seen : List String) (current : ρ)
    (members : List (String × Outline)) : Prop :=
  (∃ value, named part.name members = [value] ∧ part.Denotes record value ∧ part.name ∉ seen) ∨
    named part.name members = [] ∧ part.Agrees current record

/--
Members that tell all parts set all parts, in whatever order they stand.  The induction is on the
members: each of them sets the part that it names, and leaves what is due about the others as it is.
-/
theorem FieldsSet.exists_fillKept (set : FieldsSet depth parts fields mine) (inner : mine ⊆ parts)
    {setting : Setting} (room : depth ≤ setting.room) {record : ρ}
    {members : List (String × Outline)} {seen : List String} {current : ρ}
    (due : ∀ part ∈ mine, part.IsDue record seen current members) :
    ∃ final, fillKept setting fields seen current members = .ok final ∧
      (∀ part ∈ mine, part.Agrees final record) ∧
      ∀ part ∈ parts, part.name ∉ mine.map RecordPart.name → ∀ reference,
        part.Agrees current reference → part.Agrees final reference := by
  induction members generalizing seen current with
  | nil =>
      refine ⟨current, rfl, ?_, fun _ _ _ _ agrees => agrees⟩
      intro part member
      rcases due part member with ⟨value, told, -⟩ | ⟨-, agrees⟩
      · cases told
      · exact agrees
  | cons member members induction =>
      rcases member with ⟨name, value⟩
      by_cases known : name ∈ mine.map RecordPart.name
      · rcases set.exists_find? known with ⟨field, part, found, inside, rfl, sets⟩
        rcases due part inside with ⟨given, told, denotes, fresh⟩ | ⟨untold, -⟩
        · rw [named_cons_self, List.cons.injEq] at told
          rcases told with ⟨rfl, rest⟩
          rcases sets.update setting record value room denotes with ⟨change, read, effect⟩
          have still : ∀ other ∈ mine,
              other.IsDue record (part.name :: seen) (change current) members := by
            intro other member
            by_cases same : other.name = part.name
            · have equal : other = part :=
                List.inj_on_of_nodup_map set.distinct member inside same
              subst equal
              exact .inr ⟨rest, (effect current).1⟩
            · rcases due other member with ⟨given, told, denotes, unseen⟩ | ⟨untold, agrees⟩
              · rw [named_cons_of_ne same] at told
                refine .inl ⟨given, told, denotes, ?_⟩
                rw [List.mem_cons, not_or]
                exact ⟨same, unseen⟩
              · rw [named_cons_of_ne same] at untold
                exact .inr ⟨untold, (effect current).2 other (inner member) same _ agrees⟩
          rcases induction still with ⟨final, filled, agree, alone⟩
          refine ⟨final, ?_, agree, ?_⟩
          · rw [Json.fillKept, found]
            simp only [List.contains_eq_mem, fresh, decide_false, Bool.false_eq_true, if_false]
            rw [read, ok_bind, filled]
          · intro other member unknown reference agrees
            have different : other.name ≠ part.name := by
              intro same
              rw [same] at unknown
              exact unknown known
            exact alone other member unknown reference
              ((effect current).2 other member different reference agrees)
        · rw [named_cons_self] at untold
          cases untold
      · have still : ∀ part ∈ mine, part.IsDue record seen current members := by
          intro part member
          have different : part.name ≠ name := by
            rintro rfl
            exact known (List.mem_map_of_mem member)
          have told := due part member
          rwa [RecordPart.IsDue, named_cons_of_ne different] at told
        rcases induction still with ⟨final, filled, agree, alone⟩
        refine ⟨final, ?_, agree, alone⟩
        rw [Json.fillKept, set.find?_eq_none known]
        exact filled

/-! ## Records -/

/-- The members of an object are read as those of a list, if the others can be passed over. -/
theorem FieldsSet.fill_ofList (set : FieldsSet depth parts fields mine) (setting : Setting)
    {members : List (String × Outline)}
    (passed : ∀ member ∈ members, member.1 ∉ mine.map RecordPart.name → member.2.IsWhole)
    (seen : List String) (record : ρ) :
    (Members.ofList members).fill setting fields seen record =
      fillKept setting fields seen record members := by
  induction members generalizing seen record with
  | nil => rfl
  | cons member members induction =>
      rcases member with ⟨name, value⟩
      have others := induction fun other inside =>
        passed other (List.mem_cons_of_mem _ inside)
      rw [Members.ofList_cons, Members.fill, fillKept]
      by_cases known : name ∈ mine.map RecordPart.name
      · rcases set.exists_find? known with ⟨field, part, found, -⟩
        simp only [found, others]
      · have whole := passed (name, value) List.mem_cons_self known
        simp only [set.find?_eq_none known, Outline.pass_of_isWhole value whole, ok_bind, others]

/-- The direct members are read as those of a list, and the others kept if they can be. -/
theorem FieldsSet.gather_ofList (set : FieldsSet depth parts fields mine) (setting : Setting)
    {members : List (String × Outline)}
    (kept : ∀ member ∈ members, member.1 ∉ mine.map RecordPart.name →
      member.2.check setting = .ok ())
    (seen : List String) (before : List (String × Outline)) (record : ρ) :
    (Members.ofList members).gather setting fields seen before record =
      (fillKept setting fields seen record members).map fun filled =>
        (filled, (members.filter fun member => member.1 ∉ mine.map RecordPart.name).reverse ++
          before) := by
  induction members generalizing seen before record with
  | nil => rfl
  | cons member members induction =>
      rcases member with ⟨name, value⟩
      have others := induction fun other inside => kept other (List.mem_cons_of_mem _ inside)
      rw [Members.ofList_cons, Members.gather, fillKept]
      by_cases known : name ∈ mine.map RecordPart.name
      · rcases set.exists_find? known with ⟨field, part, found, -⟩
        have left : ((name, value) :: members).filter
            (fun member => decide (member.1 ∉ mine.map RecordPart.name)) =
              members.filter fun member => decide (member.1 ∉ mine.map RecordPart.name) :=
          List.filter_cons_of_neg (by simpa using known)
        simp only [found, others, left]
        split
        · rfl
        · cases field.update setting value <;> rfl
      · have checked := kept (name, value) List.mem_cons_self known
        have left : ((name, value) :: members).filter
            (fun member => decide (member.1 ∉ mine.map RecordPart.name)) =
              (name, value) :: members.filter fun member =>
                decide (member.1 ∉ mine.map RecordPart.name) :=
          List.filter_cons_of_pos (by simpa using known)
        simp only [set.find?_eq_none known, checked, ok_bind, others, left, List.reverse_cons,
          List.append_assoc, List.singleton_append]

/-- What is told in the beginning is due. -/
theorem RecordPart.isDue_of_isTold {part : RecordPart ρ} {default record : ρ}
    {members : List (String × Outline)} (told : part.IsTold default record members) :
    part.IsDue record [] default members := by
  rcases told with ⟨value, given, denotes⟩ | untold
  · exact .inl ⟨value, given, denotes, List.not_mem_nil⟩
  · exact .inr untold

namespace Decoder

/-- A record is recovered from every object that describes it. -/
theorem record_recovers {default : ρ} (set : FieldsSet depth parts fields parts)
    (ext : ∀ first second, (∀ part ∈ parts, part.Agrees first second) → first = second) :
    (record fields default).Recovers (depth + 1)
      (Describes parts default (parts.map RecordPart.name) Outline.IsWhole) := by
  rintro setting described outline room ⟨members, rfl, told, others⟩
  rcases Setting.exists_inside room with ⟨inner, opened, room⟩
  rcases set.exists_fillKept (List.Subset.refl parts) room
    (fun part member => RecordPart.isDue_of_isTold (told part member)) with
    ⟨final, filled, agree, -⟩
  rw [record, opened, ok_bind, set.fill_ofList inner others, filled, ext final described agree]

/-- An object with only one part of interest. -/
theorem single_recovers {inner : Decoder ρ} {Denotes : ρ → Outline → Prop}
    (recovers : inner.Recovers depth Denotes) (name : String) (default : ρ) :
    (record [.of name inner (fun value _ => value)] default).Recovers (depth + 1)
      (Describes [.of name id Denotes] default [name] Outline.IsWhole) := by
  have set : FieldsSet depth [RecordPart.of name id Denotes]
      [.of name inner (fun value _ => value)] [RecordPart.of name id Denotes] :=
    ⟨.cons (Field.sets_of recovers (fun _ _ => rfl) (by simp [LeavesOthers])) .nil, by simp⟩
  exact record_recovers set fun first second agree => by simpa using agree

variable {kept : List (RecordPart ρ)} {keptFields : List (Field ρ)}

/-- A part that is told among other members, too, is told by those that are kept. -/
theorem named_filter {name : String} {direct : List String} (other : name ∉ direct)
    (members : List (String × Outline)) :
    named name (members.filter fun member => member.1 ∉ direct) = named name members := by
  rw [named, named, List.filter_filter]
  congr 1
  apply List.filter_congr
  intro member inside
  by_cases same : member.1 = name
  · simp [same, other]
  · simp [same]

/--
A merged record is recovered from every object that describes it, if everything that is kept can be
kept.  The direct parts are set first, and what is kept sets the others.
-/
theorem merged_recovers {default : ρ} (deep : 100 ≤ depth)
    (set : FieldsSet depth (parts ++ kept) fields parts)
    (later : FieldsSet depth (parts ++ kept) keptFields kept)
    (apart : ∀ part ∈ kept, part.name ∉ parts.map RecordPart.name)
    (ext : ∀ first second, (∀ part ∈ parts ++ kept, part.Agrees first second) → first = second) :
    (merged fields keptFields default).Recovers (depth + 1)
      (Describes (parts ++ kept) default (parts.map RecordPart.name) Outline.IsKeepable) := by
  rintro setting described outline room ⟨members, rfl, told, others⟩
  rcases Setting.exists_inside room with ⟨inner, opened, room⟩
  have keepable : ∀ member ∈ members, member.1 ∉ parts.map RecordPart.name →
      member.2.check inner = .ok () := by
    intro member inside unknown
    have value := others member inside unknown
    have shallow := value.shallow
    exact member.2.check_of_isReadable value.readable inner (by omega)
  rcases set.exists_fillKept (List.subset_append_left parts kept) room
    (fun part member => RecordPart.isDue_of_isTold
      (told part (List.mem_append_left kept member))) with
    ⟨first, filled, agree, alone⟩
  have due : ∀ part ∈ kept, part.IsDue described [] first
      (members.filter fun member => member.1 ∉ parts.map RecordPart.name) := by
    intro part member
    have other := apart part member
    rw [RecordPart.IsDue, named_filter other]
    rcases told part (List.mem_append_right parts member) with
      ⟨value, given, denotes⟩ | ⟨untold, agrees⟩
    · exact .inl ⟨value, given, denotes, List.not_mem_nil⟩
    · exact .inr ⟨untold, alone part (List.mem_append_right parts member) other _ agrees⟩
  rcases later.exists_fillKept (List.subset_append_right parts kept)
    (show depth ≤ inner.kept.room from room) due with ⟨final, finished, agree', alone'⟩
  have equal : final = described := by
    apply ext
    intro part member
    rcases List.mem_append.mp member with direct | keeps
    · apply alone' part member _ _ (agree part direct)
      intro also
      rcases List.mem_map.mp also with ⟨other, inside, same⟩
      apply apart other inside
      rw [same]
      exact List.mem_map_of_mem direct
    · exact agree' part keeps
  rw [merged, opened, ok_bind, set.gather_ofList inner keepable, filled]
  simp only [Except.map, ok_bind, List.append_nil, List.reverse_reverse]
  rw [finished, equal]

/-- What is recovered where there is little room is recovered where there is more. -/
theorem Recovers.mono {α : Type} {decoder : Decoder α} {Denotes : α → Outline → Prop}
    {less more : Nat} (recovers : decoder.Recovers less Denotes) (le : less ≤ more) :
    decoder.Recovers more Denotes :=
  fun setting value outline room => recovers setting value outline (Nat.le_trans le room)

end Decoder

end Fields

end ChangeTransport.Json
