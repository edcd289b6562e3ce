import ChangeTransport.Text.Composition

/-!
# Texts that are composed already

Every mark that can be put together with a letter lies outside ASCII, and no character of ASCII can
be taken apart.  A text of ASCII is therefore its own composed form.
-/

namespace ChangeTransport.Text.Composition

theorem split_of_ascii {character : Char} (ascii : character.toNat < 0x80) (steps : Nat) :
    split steps character = [character] := by
  cases steps with
  | zero => rfl
  | succ steps =>
      have below : character.toNat < 0xC0 := by omega
      -- `rw [split]` would open the table of pairs that stands in the other branch
      exact if_pos below

theorem classOf_of_ascii {character : Char} (ascii : character.toNat < 0x80) :
    classOf character = 0 := by
  have below : character.toNat < 0x300 := by omega
  simp only [classOf, below, if_true]

theorem order_of_ascii {characters : List Char}
    (ascii : ∀ character ∈ characters, character.toNat < 0x80) :
    order characters = characters := by
  have turned : ∀ before, characters.foldl
      (fun before character =>
        if classOf character = 0 then character :: before else placeMark character before)
      before = characters.reverse ++ before := by
    intro before
    induction characters generalizing before with
    | nil => rfl
    | cons first rest induction =>
        rw [List.foldl_cons, if_pos (classOf_of_ascii (ascii first (by simp))),
          induction fun other among => ascii other (List.mem_cons_of_mem _ among)]
        simp
  rw [order, turned, List.append_nil, List.reverse_reverse]

/-! ## No pair of characters of ASCII -/

theorem ascii_lt_of_mem_pairTexts :
    ∀ entry ∈ pairTexts, 0x80 ≤ (Char.ofNat entry.1).toNat := by
  decide +kernel

theorem ascii_lt_of_mem_pairs {pair : Char × Char × Char} (among : pair ∈ pairs) :
    0x80 ≤ pair.2.1.toNat := by
  rcases List.mem_flatMap.mp among with ⟨entry, listed, made⟩
  rcases List.mem_map.mp made with ⟨letters, -, rfl⟩
  exact ascii_lt_of_mem_pairTexts entry listed

theorem compose?_of_ascii {first second : Char}
    (start : first.toNat < 0x80) (ascii : second.toNat < 0x80) : compose? first second = none := by
  have noSyllable : composeSyllable? first.toNat second.toNat = none := by
    unfold composeSyllable?
    rw [if_neg (by omega), if_neg (by omega)]
  unfold compose?
  rw [noSyllable]
  dsimp only
  rw [List.find?_eq_none.mpr, Option.map_none]
  intro pair among paired
  simp only [Bool.and_eq_true, beq_iff_eq] at paired
  have wide := ascii_lt_of_mem_pairs among
  rw [paired.2] at wide
  omega

/-! ## Composing -/

/-- A composer that has met nothing but characters of ASCII. -/
structure Composer.IsAscii (composer : Composer) : Prop where
  letter : ∀ letter, composer.letter = some letter → letter.toNat < 0x80
  marks : composer.marks = []

theorem Composer.IsAscii.add {composer : Composer} (met : composer.IsAscii)
    {character : Char} (ascii : character.toNat < 0x80) :
    (composer.add character).IsAscii ∧
      (composer.add character).reversed = character :: composer.reversed := by
  have near : composer.isNear 0 = true := by
    rw [isNear, met.marks]
  have alone : composer.letter.bind (compose? · character) = none := by
    rw [Option.bind_eq_none_iff]
    intro letter known
    exact compose?_of_ascii (met.letter letter known) ascii
  have added : composer.add character = ⟨composer.reversed, some character, []⟩ := by
    simp only [Composer.add, classOf_of_ascii ascii, near, alone, if_true]
  rw [added]
  refine ⟨⟨?_, rfl⟩, rfl⟩
  rintro letter ⟨⟩
  exact ascii

theorem Composer.IsAscii.foldl_add {composer : Composer} (met : composer.IsAscii)
    {characters : List Char} (ascii : ∀ character ∈ characters, character.toNat < 0x80) :
    (characters.foldl Composer.add composer).reversed =
      characters.reverse ++ composer.reversed := by
  induction characters generalizing composer with
  | nil => rfl
  | cons first rest induction =>
      rcases met.add (ascii first (by simp)) with ⟨after, reversed⟩
      rw [List.foldl_cons,
        induction after fun other among => ascii other (List.mem_cons_of_mem _ among), reversed]
      simp

/-- A text of ASCII is composed. -/
theorem composed_of_ascii {characters : List Char}
    (ascii : ∀ character ∈ characters, character.toNat < 0x80) :
    composed characters = characters := by
  have whole : characters.flatMap (split 4) = characters := by
    induction characters with
    | nil => rfl
    | cons first rest induction =>
        rw [List.flatMap_cons, split_of_ascii (ascii first (by simp)),
          induction fun other among => ascii other (List.mem_cons_of_mem _ among)]
        rfl
  have begin : Composer.IsAscii ⟨[], none, []⟩ := ⟨by simp, rfl⟩
  rw [composed, whole, order_of_ascii ascii, begin.foldl_add ascii]
  simp [Composer.reversed]

end ChangeTransport.Text.Composition
