import ChangeTransport.Proofs.Json.Kept

/-!
# Records that are merged out of one object

Where several records are merged out of one object, each of them reads the members that are its own
as if it stood alone: the others neither add anything to it nor take anything away.  Only what can
be kept is stricter than what can be passed over, and this concerns the members that are no fields,
in the object itself and in the records inside it.
-/

namespace ChangeTransport.Json

variable {α ρ σ τ : Type}

/-! ## Members of an object -/

/-- The setting of the members of an object that is a whole text. -/
def Setting.outermostMember : Setting := ⟨126, .malformed⟩

theorem Setting.inside_outermost : Setting.outermost.inside = .ok .outermostMember := rfl

/-- The members with one of the given names. -/
def only (names : List String) (members : List (String × Outline)) : List (String × Outline) :=
  members.filter fun member => member.1 ∈ names

theorem Field.mem_names_of_find? {fields : List (Field ρ)} {name : String} {field : Field ρ}
    (found : find? fields name = some field) : name ∈ fields.map Field.name := by
  by_contra unknown
  rw [find?_eq_none_iff.mpr unknown] at found
  cases found

theorem fillKept_cons_of_none {setting : Setting} {fields : List (Field ρ)} {name : String}
    (unknown : Field.find? fields name = none) (value : Outline) (seen : List String) (record : ρ)
    (members : List (String × Outline)) :
    fillKept setting fields seen record ((name, value) :: members) =
      fillKept setting fields seen record members := by
  rw [fillKept, unknown]

/-- A field is read if it has not been seen before, and the others behind it. -/
theorem fillKept_cons_eq_ok_iff {setting : Setting} {fields : List (Field ρ)} {name : String}
    {field : Field ρ} (found : Field.find? fields name = some field) {value : Outline}
    {seen : List String} {record final : ρ} {members : List (String × Outline)} :
    fillKept setting fields seen record ((name, value) :: members) = .ok final ↔
      name ∉ seen ∧ ∃ change, field.update setting value = .ok change ∧
        fillKept setting fields (name :: seen) (change record) members = .ok final := by
  rw [fillKept, found]
  dsimp only
  by_cases before : name ∈ seen
  · simp [before]
  · simp [before, bind_eq_ok_iff]

/-- What is no field has no bearing on the record. -/
theorem fillKept_only (setting : Setting) (fields : List (Field ρ)) (seen : List String)
    (record : ρ) (members : List (String × Outline)) :
    fillKept setting fields seen record (only (fields.map Field.name) members) =
      fillKept setting fields seen record members := by
  induction members generalizing seen record with
  | nil => rfl
  | cons member members induction =>
      rcases member with ⟨name, value⟩
      by_cases known : name ∈ fields.map Field.name
      · have left : only (fields.map Field.name) ((name, value) :: members) =
            (name, value) :: only (fields.map Field.name) members :=
          List.filter_cons_of_pos (by simpa using known)
        simp only [left, fillKept, induction]
      · have left : only (fields.map Field.name) ((name, value) :: members) =
            only (fields.map Field.name) members :=
          List.filter_cons_of_neg (by simpa using known)
        rw [left, fillKept, Field.find?_eq_none_iff.mpr known]
        exact induction seen record

/-- Members that are all fields are read at once as they are read when they have been kept. -/
theorem Members.fill_ofList_of_known (setting : Setting) {fields : List (Field ρ)}
    {members : List (String × Outline)}
    (known : ∀ member ∈ members, member.1 ∈ fields.map Field.name) (seen : List String)
    (record : ρ) :
    (ofList members).fill setting fields seen record =
      fillKept setting fields seen record members := by
  induction members generalizing seen record with
  | nil => rfl
  | cons member members induction =>
      rcases member with ⟨name, value⟩
      rcases List.forall_mem_cons.mp known with ⟨first, known⟩
      rw [ofList_cons, fill, fillKept]
      cases found : Field.find? fields name with
      | none => exact absurd first (Field.find?_eq_none_iff.mp found)
      | some field => simp only [induction known]

/-- An object of which only the fields are left is read as these. -/
theorem Decoder.record_only (fields : List (Field ρ)) (default : ρ)
    (members : List (String × Outline)) :
    record fields default .outermost (.object (.ofList (only (fields.map Field.name) members))) =
      fillKept .outermostMember fields [] default members := by
  have known : ∀ member ∈ only (fields.map Field.name) members,
      member.1 ∈ fields.map Field.name := by
    intro member among
    simpa using (List.mem_filter.mp among).2
  rw [record, Setting.inside_outermost, ok_bind, Members.fill_ofList_of_known _ known,
    fillKept_only]

/-! ## What can be kept -/

/-- Where no field is read at once, members that can be kept are kept, in their order. -/
theorem Members.gather_eq_ok_iff (setting : Setting) {members : Members} {record : ρ}
    {seen : List String} {before : List (String × Outline)}
    {gathered : ρ × List (String × Outline)} :
    members.gather setting [] seen before record = .ok gathered ↔
      ∃ list, members = .ofList list ∧ (∀ member ∈ list, member.2.check setting = .ok ()) ∧
        gathered = (record, list.reverse ++ before) := by
  constructor
  · intro kept
    rcases exists_ofList_of_gather setting seen before record gathered members kept with
      ⟨list, rfl, made⟩
    refine ⟨list, rfl, ?_, made⟩
    clear made
    induction list generalizing before with
    | nil => exact List.forall_mem_nil _
    | cons member list induction =>
        rcases exists_of_bind_eq_ok kept with ⟨⟨⟩, checked, kept⟩
        exact List.forall_mem_cons.mpr ⟨checked, induction kept⟩
  · rintro ⟨list, rfl, checked, rfl⟩
    induction list generalizing before with
    | nil => rfl
    | cons member list induction =>
        rcases List.forall_mem_cons.mp checked with ⟨first, others⟩
        rw [ofList, List.foldr_cons, gather]
        change (member.2.check setting >>= fun _ =>
          (ofList list).gather setting [] seen (member :: before) record) = _
        rw [first, ok_bind, induction others, List.reverse_cons, List.append_assoc]
        rfl

/-- A merged record is read from an object of which everything can be kept. -/
theorem Decoder.merged_eq_ok_iff {fields : List (Field ρ)} {default final : ρ}
    {setting : Setting} {outline : Outline} :
    merged [] fields default setting outline = .ok final ↔
      ∃ inner members, setting.inside = .ok inner ∧ outline = .object (.ofList members) ∧
        (∀ member ∈ members, member.2.check inner = .ok ()) ∧
        fillKept inner.kept fields [] default members = .ok final := by
  constructor
  · intro read
    cases outline with
    | object members =>
        rcases exists_of_bind_eq_ok read with ⟨inner, opened, read⟩
        rcases exists_of_bind_eq_ok read with ⟨gathered, kept, filled⟩
        rcases (Members.gather_eq_ok_iff inner).mp kept with ⟨list, rfl, checked, rfl⟩
        rw [List.append_nil] at filled
        dsimp only at filled
        rw [List.reverse_reverse] at filled
        exact ⟨inner, list, opened, rfl, checked, filled⟩
    | _ => cases read
  · rintro ⟨inner, members, opened, rfl, checked, filled⟩
    have kept : (Members.ofList members).gather inner [] [] [] default =
        .ok (default, members.reverse) :=
      (Members.gather_eq_ok_iff inner).mpr ⟨members, rfl, checked, by rw [List.append_nil]⟩
    rw [merged, opened, ok_bind, kept, ok_bind]
    dsimp only
    rw [List.reverse_reverse, filled]

/-! ## Independent parts -/

/-- A field of a part is a field of the whole. -/
def Field.within (change : (σ → σ) → ρ → ρ) (field : Field σ) : Field ρ :=
  ⟨field.name, fun setting outline => (field.update setting outline).map change⟩

theorem Field.within_of {β : Type} (change : (σ → σ) → ρ → ρ) (name : String)
    (decoder : Decoder β) (set : β → σ → σ) :
    (of name decoder set).within change = of name decoder fun value => change (set value) := by
  unfold within of
  congr 1
  funext setting outline
  dsimp only
  cases decoder setting outline <;> rfl

theorem Field.find?_within (change : (σ → σ) → ρ → ρ) (fields : List (Field σ)) (name : String) :
    find? (fields.map (within change)) name = (find? fields name).map (within change) := by
  unfold find?
  rw [List.find?_map]
  rfl

theorem Field.find?_append_within (firsts : List (Field σ)) (seconds : List (Field τ))
    (changeFirst : (σ → σ) → ρ → ρ) (changeSecond : (τ → τ) → ρ → ρ) (name : String) :
    find? (firsts.map (within changeFirst) ++ seconds.map (within changeSecond)) name =
      ((find? firsts name).map (within changeFirst)).or
        ((find? seconds name).map (within changeSecond)) := by
  rw [← find?_within, ← find?_within]
  exact List.find?_append

/-- A record that consists of two parts, each of which can be changed alone. -/
structure IsPair (make : σ → τ → ρ) (changeFirst : (σ → σ) → ρ → ρ)
    (changeSecond : (τ → τ) → ρ → ρ) : Prop where
  first : ∀ change one other, changeFirst change (make one other) = make (change one) other
  second : ∀ change one other, changeSecond change (make one other) = make one (change other)

/-- Of the given names, the same ones have been seen. -/
def SeenAlike (names seen others : List String) : Prop :=
  ∀ name ∈ names, name ∈ seen ↔ name ∈ others

theorem SeenAlike.cons {names seen others : List String} (alike : SeenAlike names seen others)
    (name : String) : SeenAlike names (name :: seen) (name :: others) := by
  intro other among
  rw [List.mem_cons, List.mem_cons, alike other among]

theorem SeenAlike.cons_of_not_mem {names seen others : List String}
    (alike : SeenAlike names seen others) {name : String} (foreign : name ∉ names) :
    SeenAlike names (name :: seen) others := by
  intro other among
  have different : other ≠ name := by
    rintro rfl
    exact foreign among
  rw [List.mem_cons, alike other among, or_iff_right different]

/--
Two records that are read out of the same members are read as if each stood alone.  The induction is
on the members: each of them is a field of one of the records, or of none, and leaves the other one
and the names that it has seen alone.
-/
theorem IsPair.fillKept_eq_ok_iff {make : σ → τ → ρ} {changeFirst : (σ → σ) → ρ → ρ}
    {changeSecond : (τ → τ) → ρ → ρ} (pair : IsPair make changeFirst changeSecond)
    {firsts : List (Field σ)} {seconds : List (Field τ)}
    (apart : ∀ name ∈ firsts.map Field.name, name ∉ seconds.map Field.name) {setting : Setting}
    {members : List (String × Outline)} {seen ones others : List String}
    (seenOnes : SeenAlike (firsts.map Field.name) seen ones)
    (seenOthers : SeenAlike (seconds.map Field.name) seen others) (one : σ) (other : τ)
    {final : ρ} :
    fillKept setting (firsts.map (.within changeFirst) ++ seconds.map (.within changeSecond)) seen
        (make one other) members = .ok final ↔
      ∃ finalOne finalOther, final = make finalOne finalOther ∧
        fillKept setting firsts ones one members = .ok finalOne ∧
        fillKept setting seconds others other members = .ok finalOther := by
  induction members generalizing seen ones others one other with
  | nil =>
      constructor
      · intro filled
        exact ⟨one, other, (Except.ok.inj filled).symm, rfl, rfl⟩
      · rintro ⟨_, _, rfl, filledOne, filledOther⟩
        cases filledOne
        cases filledOther
        rfl
  | cons member members induction =>
      rcases member with ⟨name, value⟩
      have whole := Field.find?_append_within firsts seconds changeFirst changeSecond name
      cases found : Field.find? firsts name with
      | some field =>
          have known := Field.mem_names_of_find? found
          have foreign := apart name known
          have later (one : σ) :=
            induction (seenOnes.cons name) (seenOthers.cons_of_not_mem foreign) one other
          rw [found] at whole
          rw [fillKept_cons_of_none (Field.find?_eq_none_iff.mpr foreign),
            fillKept_cons_eq_ok_iff whole]
          simp only [fillKept_cons_eq_ok_iff found, seenOnes name known, Field.within,
            map_eq_ok_iff]
          constructor
          · rintro ⟨unseen, _, ⟨change, updated, rfl⟩, filled⟩
            rw [pair.first, later] at filled
            rcases filled with ⟨finalOne, finalOther, made, filledOne, filledOther⟩
            exact ⟨finalOne, finalOther, made, ⟨unseen, change, updated, filledOne⟩, filledOther⟩
          · rintro ⟨finalOne, finalOther, made, ⟨unseen, change, updated, filledOne⟩, filledOther⟩
            refine ⟨unseen, _, ⟨change, updated, rfl⟩, ?_⟩
            rw [pair.first, later]
            exact ⟨finalOne, finalOther, made, filledOne, filledOther⟩
      | none =>
          have foreign := Field.find?_eq_none_iff.mp found
          rw [found] at whole
          rw [fillKept_cons_of_none found]
          cases foundOther : Field.find? seconds name with
          | some field =>
              have known := Field.mem_names_of_find? foundOther
              have later (other : τ) :=
                induction (seenOnes.cons_of_not_mem foreign) (seenOthers.cons name) one other
              rw [foundOther] at whole
              rw [fillKept_cons_eq_ok_iff whole]
              simp only [fillKept_cons_eq_ok_iff foundOther, seenOthers name known, Field.within,
                map_eq_ok_iff]
              constructor
              · rintro ⟨unseen, _, ⟨change, updated, rfl⟩, filled⟩
                rw [pair.second, later] at filled
                rcases filled with ⟨finalOne, finalOther, made, filledOne, filledOther⟩
                exact ⟨finalOne, finalOther, made, filledOne, unseen, change, updated, filledOther⟩
              · rintro ⟨finalOne, finalOther, made, filledOne, unseen, change, updated, filledOther⟩
                refine ⟨unseen, _, ⟨change, updated, rfl⟩, ?_⟩
                rw [pair.second, later]
                exact ⟨finalOne, finalOther, made, filledOne, filledOther⟩
          | none =>
              rw [foundOther] at whole
              rw [fillKept_cons_of_none foundOther, fillKept_cons_of_none whole]
              exact induction seenOnes seenOthers one other

end ChangeTransport.Json
