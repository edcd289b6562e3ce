/-!
# Checks

What is known of a result by the way it has been made, and of a list of checks by its items.  A
list is passed if each of its items passes, and fails with the first one that does not.
-/

namespace ChangeTransport

variable {ε α β : Type}

@[simp]
theorem ok_bind (value : α) (next : α → Except ε β) : (.ok value >>= next) = next value := rfl

@[simp]
theorem error_bind (error : ε) (next : α → Except ε β) :
    (.error error >>= next) = .error error := rfl

theorem exists_of_bind_eq_ok {first : Except ε α} {next : α → Except ε β} {value : β}
    (ended : (first >>= next) = .ok value) :
    ∃ found, first = .ok found ∧ next found = .ok value := by
  cases first with
  | error error => cases ended
  | ok found => exact ⟨found, rfl, ended⟩

theorem bind_eq_ok_iff {first : Except ε α} {next : α → Except ε β} {value : β} :
    (first >>= next) = .ok value ↔ ∃ found, first = .ok found ∧ next found = .ok value := by
  constructor
  · exact exists_of_bind_eq_ok
  · rintro ⟨found, known, ended⟩
    rw [known, ok_bind, ended]

@[simp]
theorem map_eq_ok_iff {result : Except ε α} {make : α → β} {value : β} :
    result.map make = .ok value ↔ ∃ source, result = .ok source ∧ make source = value := by
  cases result <;> simp [Except.map]

@[simp]
theorem map_eq_error_iff {result : Except ε α} {make : α → β} {error : ε} :
    result.map make = .error error ↔ result = .error error := by
  cases result <;> simp [Except.map]

@[simp]
theorem mapError_eq_ok_iff {ε' : Type} {result : Except ε α} {change : ε → ε'} {value : α} :
    result.mapError change = .ok value ↔ result = .ok value := by
  cases result with
  | error cause =>
      constructor <;> intro impossible <;> cases impossible
  | ok found =>
      change (Except.ok found : Except ε' α) = .ok value ↔ (Except.ok found : Except ε α) = .ok value
      simp only [Except.ok.injEq]

theorem eq_ok_of_toOption {result : Except ε α} {value : α}
    (known : result.toOption = some value) : result = .ok value := by
  cases result with
  | error error => cases known
  | ok found =>
      cases known
      rfl

variable {check : α → Except ε β}

/-- A list of checks is passed exactly if each of its items passes. -/
theorem mapM_eq_ok_iff {items : List α} {values : List β} :
    items.mapM check = .ok values ↔ items.map check = values.map .ok := by
  induction items generalizing values with
  | nil => cases values <;> simp [pure, Except.pure]
  | cons item rest induction =>
      rw [List.mapM_cons, List.map_cons]
      cases checked : check item with
      | error error => cases values <;> simp
      | ok value =>
          rw [ok_bind]
          cases others : rest.mapM check with
          | error error =>
              constructor
              · intro impossible
                cases impossible
              · intro passed
                cases values with
                | nil => cases passed
                | cons first values =>
                    have known := induction.mpr (List.cons.inj passed).2
                    rw [others] at known
                    cases known
          | ok results =>
              have known := induction.mp others
              rw [known, ok_bind]
              constructor
              · intro equal
                cases equal
                rfl
              · intro equal
                rw [← List.map_cons, List.map_inj_right fun _ _ => Except.ok.inj] at equal
                rw [← equal]
                rfl

/-- Checks of the parts of items, each of which passes its own check. -/
theorem mapM_flatMap_eq_ok
    {ι κ : Type} {inner : ι → Except ε κ} {parts : α → List ι} {results : β → List κ}
    (each : ∀ item value, check item = .ok value →
      (parts item).mapM inner = .ok (results value))
    {items : List α} {values : List β} (passed : items.mapM check = .ok values) :
    (items.flatMap parts).mapM inner = .ok (values.flatMap results) := by
  rw [mapM_eq_ok_iff] at passed
  induction items generalizing values with
  | nil =>
      cases values with
      | nil => rfl
      | cons value values => cases passed
  | cons item rest induction =>
      cases values with
      | nil => cases passed
      | cons value values =>
          rcases List.cons.inj passed with ⟨first, others⟩
          rw [List.flatMap_cons, List.mapM_append, each item value first, ok_bind,
            induction others]
          rfl

/-- What can be told of an item and of its value alike is counted alike. -/
theorem countP_eq_of_mapM
    {told : α → Bool} {shown : β → Bool}
    (each : ∀ item value, check item = .ok value → told item = shown value)
    {items : List α} {values : List β} (passed : items.mapM check = .ok values) :
    items.countP told = values.countP shown := by
  rw [mapM_eq_ok_iff] at passed
  induction items generalizing values with
  | nil =>
      cases values with
      | nil => rfl
      | cons value values => cases passed
  | cons item rest induction =>
      cases values with
      | nil => cases passed
      | cons value values =>
          rcases List.cons.inj passed with ⟨first, others⟩
          rw [List.countP_cons, List.countP_cons, each item value first, induction others]

/-- A list of checks fails with the failure of the first item that does not pass. -/
theorem mapM_eq_error_iff {items : List α} {error : ε} :
    items.mapM check = .error error ↔
      ∃ (index : Nat) (item : α), items[index]? = some item ∧ check item = .error error ∧
        ∀ earlier < index, ∃ item value, items[earlier]? = some item ∧ check item = .ok value := by
  induction items with
  | nil => simp [pure, Except.pure]
  | cons first rest induction =>
      rw [List.mapM_cons]
      constructor
      · intro failed
        cases checked : check first with
        | error cause =>
            rw [checked] at failed
            cases failed
            exact ⟨0, first, rfl, checked, by simp⟩
        | ok value =>
            rw [checked, ok_bind] at failed
            cases others : rest.mapM check with
            | ok results =>
                rw [others] at failed
                cases failed
            | error cause =>
                rw [others] at failed
                cases failed
                rcases induction.mp others with ⟨index, item, here, failure, before⟩
                refine ⟨index + 1, item, here, failure, ?_⟩
                rintro (_ | earlier) less
                · exact ⟨first, value, rfl, checked⟩
                · exact before earlier (Nat.lt_of_succ_lt_succ less)
      · rintro ⟨_ | index, item, here, failure, before⟩
        · cases here
          rw [failure]
          rfl
        · rcases before 0 (Nat.succ_pos index) with ⟨passed, value, found, checked⟩
          cases found
          have others : rest.mapM check = .error error := by
            refine induction.mpr ⟨index, item, here, failure, ?_⟩
            intro earlier less
            exact before (earlier + 1) (Nat.succ_lt_succ less)
          rw [checked, ok_bind, others]
          rfl

end ChangeTransport
