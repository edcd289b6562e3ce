import ChangeTransport.Text.Utf8

/-!
# UTF-8 is read as it is written

The bytes that spell characters are read as these characters, and no other bytes are read at all.
So bytes that are cut off are read, if they can be read, as characters that are cut off.
-/

namespace ChangeTransport.Text.Utf8

/-! ## Single bytes -/

theorem lead_one {value : Nat} (high : value < 0x80) :
    lead (UInt8.ofNat value) = .whole (Char.ofNat value) := by
  have small : value < 256 := by omega
  have less : UInt8.ofNat value < 0x80 := by
    rw [UInt8.lt_iff_toNat_lt, UInt8.toNat_ofNat_of_lt' small]
    exact high
  rw [lead, if_pos less, UInt8.toNat_ofNat_of_lt' small]

theorem lead_two {value : Nat} (low : 0xC2 ≤ value) (high : value < 0xE0) :
    lead (UInt8.ofNat value) = .opens ⟨value % 0x20, 1, 1, 0x80, 0xBF⟩ := by
  have small : value < 256 := by omega
  simp only [lead, UInt8.lt_iff_toNat_lt, UInt8.toNat_ofNat_of_lt' small, UInt8.reduceToNat]
  rw [if_neg (by omega), if_neg (by omega), if_pos high]

theorem lead_three {value : Nat} (low : 0xE0 ≤ value) (high : value < 0xF0) :
    lead (UInt8.ofNat value) =
      .opens ⟨value % 0x10, 1, 2, if value = 0xE0 then 0xA0 else 0x80,
        if value = 0xED then 0x9F else 0xBF⟩ := by
  have small : value < 256 := by omega
  simp only [lead, UInt8.lt_iff_toNat_lt, UInt8.toNat_ofNat_of_lt' small, UInt8.reduceToNat,
    ← UInt8.toNat_inj]
  rw [if_neg (by omega), if_neg (by omega), if_neg (by omega), if_pos high]

theorem lead_four {value : Nat} (low : 0xF0 ≤ value) (high : value < 0xF5) :
    lead (UInt8.ofNat value) =
      .opens ⟨value % 0x08, 1, 3, if value = 0xF0 then 0x90 else 0x80,
        if value = 0xF4 then 0x8F else 0xBF⟩ := by
  have small : value < 256 := by omega
  simp only [lead, UInt8.lt_iff_toNat_lt, UInt8.toNat_ofNat_of_lt' small, UInt8.reduceToNat,
    ← UInt8.toNat_inj]
  rw [if_neg (by omega), if_neg (by omega), if_neg (by omega), if_neg (by omega), if_pos high]

theorem lead_never {value : Nat} (small : value < 256)
    (outside : 0x80 ≤ value ∧ value < 0xC2 ∨ 0xF5 ≤ value) :
    lead (UInt8.ofNat value) = .never := by
  simp only [lead, UInt8.lt_iff_toNat_lt, UInt8.toNat_ofNat_of_lt' small, UInt8.reduceToNat]
  rw [if_neg (by omega)]
  rcases outside with inside | beyond
  · rw [if_pos inside.2]
  · rw [if_neg (by omega), if_neg (by omega), if_neg (by omega), if_neg (by omega)]

section Continuing

variable (index : Nat) (before : List Char) {spelled seen missing value : Nat}
  {least greatest : UInt8} (rest : List UInt8)

/-- The last byte of a sequence completes its character. -/
theorem decodeFrom_last
    (small : value < 256) (low : least.toNat ≤ value) (high : value ≤ greatest.toNat) :
    decodeFrom index before (some ⟨spelled, seen, 1, least, greatest⟩)
        (UInt8.ofNat value :: rest) =
      decodeFrom (index + 1) (Char.ofNat (spelled * 0x40 + value % 0x40) :: before) none rest := by
  have within : least ≤ UInt8.ofNat value ∧ UInt8.ofNat value ≤ greatest := by
    simp only [UInt8.le_iff_toNat_le, UInt8.toNat_ofNat_of_lt' small]
    exact ⟨low, high⟩
  simp [decodeFrom, Sequence.continueWith, within, Nat.mod_eq_of_lt small]

/-- Every other byte leaves a sequence that goes on. -/
theorem decodeFrom_further
    (small : value < 256) (low : least.toNat ≤ value) (high : value ≤ greatest.toNat) :
    decodeFrom index before (some ⟨spelled, seen, missing + 2, least, greatest⟩)
        (UInt8.ofNat value :: rest) =
      decodeFrom (index + 1) before
        (some ⟨spelled * 0x40 + value % 0x40, seen + 1, missing + 1, 0x80, 0xBF⟩) rest := by
  have within : least ≤ UInt8.ofNat value ∧ UInt8.ofNat value ≤ greatest := by
    simp only [UInt8.le_iff_toNat_le, UInt8.toNat_ofNat_of_lt' small]
    exact ⟨low, high⟩
  simp [decodeFrom, Sequence.continueWith, within, Nat.mod_eq_of_lt small]

end Continuing

/-- Bytes that can be read go on with a byte within the bounds. -/
theorem exists_continuing
    {index : Nat} {before characters : List Char} {sequence : Sequence} {bytes : List UInt8}
    (read : decodeFrom index before (some sequence) bytes = .ok characters) :
    ∃ value rest, bytes = UInt8.ofNat value :: rest ∧ value < 256 ∧
      sequence.least.toNat ≤ value ∧ value ≤ sequence.greatest.toNat := by
  cases bytes with
  | nil => cases read
  | cons byte rest =>
      refine ⟨byte.toNat, rest, by rw [UInt8.ofNat_toNat], byte.toNat_lt, ?_⟩
      rw [decodeFrom, Sequence.continueWith] at read
      by_cases within : sequence.least ≤ byte ∧ byte ≤ sequence.greatest
      · simpa only [UInt8.le_iff_toNat_le] using within
      · rw [if_neg within] at read
        cases read

/-! ## Whole characters -/

theorem encodeChar_ofNat {point : Nat} (valid : point.isValidChar) :
    String.utf8EncodeChar (Char.ofNat point) =
      if point ≤ 0x7F then [UInt8.ofNat point]
      else if point ≤ 0x7FF then
        [UInt8.ofNat (point / 64 % 32 + 0xC0), UInt8.ofNat (point % 64 + 0x80)]
      else if point ≤ 0xFFFF then
        [UInt8.ofNat (point / 4096 % 16 + 0xE0), UInt8.ofNat (point / 64 % 64 + 0x80),
          UInt8.ofNat (point % 64 + 0x80)]
      else
        [UInt8.ofNat (point / 262144 % 8 + 0xF0), UInt8.ofNat (point / 4096 % 64 + 0x80),
          UInt8.ofNat (point / 64 % 64 + 0x80), UInt8.ofNat (point % 64 + 0x80)] := by
  have same : (Char.ofNat point).val.toNat = point := by
    rw [Char.ofNat, dif_pos valid]
    rfl
  rw [String.utf8EncodeChar, same]

/-- The bytes that spell a character are read as the character. -/
theorem decodeFrom_encodeChar
    (index : Nat) (before : List Char) (character : Char) (rest : List UInt8) :
    decodeFrom index before none (String.utf8EncodeChar character ++ rest) =
      decodeFrom (index + (String.utf8EncodeChar character).length) (character :: before) none
        rest := by
  obtain ⟨point, valid, rfl⟩ : ∃ point, Nat.isValidChar point ∧ Char.ofNat point = character :=
    ⟨character.toNat, character.valid, Char.ofNat_toNat character⟩
  have bound : point < 0x110000 ∧ ¬ (0xD800 ≤ point ∧ point ≤ 0xDFFF) := by
    unfold Nat.isValidChar at valid
    omega
  rw [encodeChar_ofNat valid]
  -- one case for every number of bytes
  split
  · rw [List.cons_append, decodeFrom, lead_one (by omega)]
    rfl
  split
  · have spelled :
        (point / 64 % 32 + 0xC0) % 0x20 * 0x40 + (point % 64 + 0x80) % 0x40 = point := by
      omega
    simp only [List.cons_append, List.nil_append]
    rw [decodeFrom, lead_two (by omega) (by omega)]
    dsimp only
    rw [decodeFrom_last _ _ _ (by omega) (by simp) (by simp; omega), spelled]
    rfl
  split
  · have spelled :
        ((point / 4096 % 16 + 0xE0) % 0x10 * 0x40 + (point / 64 % 64 + 0x80) % 0x40) * 0x40 +
          (point % 64 + 0x80) % 0x40 = point := by
      omega
    simp only [List.cons_append, List.nil_append]
    rw [decodeFrom, lead_three (by omega) (by omega)]
    dsimp only
    rw [decodeFrom_further _ _ _ (by omega) (by split <;> simp <;> omega)
        (by split <;> simp <;> omega),
      decodeFrom_last _ _ _ (by omega) (by simp) (by simp; omega), spelled]
    rfl
  · have spelled :
        (((point / 262144 % 8 + 0xF0) % 0x08 * 0x40 + (point / 4096 % 64 + 0x80) % 0x40) * 0x40 +
          (point / 64 % 64 + 0x80) % 0x40) * 0x40 + (point % 64 + 0x80) % 0x40 = point := by
      omega
    simp only [List.cons_append, List.nil_append]
    rw [decodeFrom, lead_four (by omega) (by omega)]
    dsimp only
    rw [decodeFrom_further _ _ _ (by omega) (by split <;> simp <;> omega)
        (by split <;> simp <;> omega),
      decodeFrom_further _ _ _ (by omega) (by simp) (by simp; omega),
      decodeFrom_last _ _ _ (by omega) (by simp) (by simp; omega), spelled]
    rfl

section Spelling

variable {value second third fourth : Nat}

theorem encodeChar_two
    (range : 0xC2 ≤ value ∧ value < 0xE0) (tail : 0x80 ≤ second ∧ second ≤ 0xBF) :
    String.utf8EncodeChar (Char.ofNat (value % 0x20 * 0x40 + second % 0x40)) =
      [UInt8.ofNat value, UInt8.ofNat second] := by
  have first : (value % 0x20 * 0x40 + second % 0x40) / 64 % 32 + 0xC0 = value := by omega
  have last : (value % 0x20 * 0x40 + second % 0x40) % 64 + 0x80 = second := by omega
  rw [encodeChar_ofNat (by unfold Nat.isValidChar; omega), if_neg (by omega), if_pos (by omega),
    first, last]

theorem encodeChar_three
    (range : 0xE0 ≤ value ∧ value < 0xF0)
    (low : (if value = 0xE0 then 0xA0 else 0x80) ≤ second)
    (high : second ≤ if value = 0xED then 0x9F else 0xBF)
    (tail : 0x80 ≤ third ∧ third ≤ 0xBF) :
    String.utf8EncodeChar
        (Char.ofNat ((value % 0x10 * 0x40 + second % 0x40) * 0x40 + third % 0x40)) =
      [UInt8.ofNat value, UInt8.ofNat second, UInt8.ofNat third] := by
  have second_low : 0x80 ≤ second ∧ (value = 0xE0 → 0xA0 ≤ second) := by
    split at low <;> omega
  have second_high : second ≤ 0xBF ∧ (value = 0xED → second ≤ 0x9F) := by
    split at high <;> omega
  generalize spelled : (value % 0x10 * 0x40 + second % 0x40) * 0x40 + third % 0x40 = point
  have first : point / 4096 % 16 + 0xE0 = value := by omega
  have middle : point / 64 % 64 + 0x80 = second := by omega
  have last : point % 64 + 0x80 = third := by omega
  rw [encodeChar_ofNat (by unfold Nat.isValidChar; omega), if_neg (by omega), if_neg (by omega),
    if_pos (by omega), first, middle, last]

theorem encodeChar_four
    (range : 0xF0 ≤ value ∧ value < 0xF5)
    (low : (if value = 0xF0 then 0x90 else 0x80) ≤ second)
    (high : second ≤ if value = 0xF4 then 0x8F else 0xBF)
    (tail : 0x80 ≤ third ∧ third ≤ 0xBF) (tail' : 0x80 ≤ fourth ∧ fourth ≤ 0xBF) :
    String.utf8EncodeChar
        (Char.ofNat (((value % 0x08 * 0x40 + second % 0x40) * 0x40 + third % 0x40) * 0x40 +
          fourth % 0x40)) =
      [UInt8.ofNat value, UInt8.ofNat second, UInt8.ofNat third, UInt8.ofNat fourth] := by
  have second_low : 0x80 ≤ second ∧ (value = 0xF0 → 0x90 ≤ second) := by
    split at low <;> omega
  have second_high : second ≤ 0xBF ∧ (value = 0xF4 → second ≤ 0x8F) := by
    split at high <;> omega
  generalize spelled : ((value % 0x08 * 0x40 + second % 0x40) * 0x40 + third % 0x40) * 0x40 +
    fourth % 0x40 = point
  have first : point / 262144 % 8 + 0xF0 = value := by omega
  have next : point / 4096 % 64 + 0x80 = second := by omega
  have middle : point / 64 % 64 + 0x80 = third := by omega
  have last : point % 64 + 0x80 = fourth := by omega
  rw [encodeChar_ofNat (by unfold Nat.isValidChar; omega), if_neg (by omega), if_neg (by omega),
    if_neg (by omega), first, next, middle, last]

end Spelling

/-- Bytes that can be read begin with those that spell a character. -/
theorem exists_encodeChar
    {index : Nat} {before characters : List Char} {byte : UInt8} {bytes : List UInt8}
    (read : decodeFrom index before none (byte :: bytes) = .ok characters) :
    ∃ character rest, byte :: bytes = String.utf8EncodeChar character ++ rest := by
  obtain ⟨value, small, rfl⟩ : ∃ value, value < 256 ∧ UInt8.ofNat value = byte :=
    ⟨byte.toNat, byte.toNat_lt, UInt8.ofNat_toNat⟩
  rw [decodeFrom] at read
  -- one case for every range of first bytes
  rcases Nat.lt_or_ge value 0x80 with one | notOne
  · refine ⟨Char.ofNat value, bytes, ?_⟩
    rw [encodeChar_ofNat (by unfold Nat.isValidChar; omega), if_pos (by omega)]
    rfl
  rcases Nat.lt_or_ge value 0xC2 with never | notNever
  · rw [lead_never small (.inl ⟨notOne, never⟩)] at read
    cases read
  rcases Nat.lt_or_ge value 0xE0 with two | notTwo
  · rw [lead_two notNever two] at read
    rcases exists_continuing read with ⟨second, rest, rfl, -, low₂, high₂⟩
    exact ⟨_, rest, by rw [encodeChar_two ⟨notNever, two⟩ ⟨low₂, high₂⟩]; rfl⟩
  rcases Nat.lt_or_ge value 0xF0 with three | notThree
  · rw [lead_three notTwo three] at read
    rcases exists_continuing read with ⟨second, rest, rfl, small₂, low₂, high₂⟩
    dsimp only at read low₂ high₂
    rw [decodeFrom_further _ _ _ small₂ low₂ high₂] at read
    rcases exists_continuing read with ⟨third, rest, rfl, -, low₃, high₃⟩
    simp only [apply_ite UInt8.toNat, UInt8.reduceToNat] at low₂ high₂
    exact ⟨_, rest,
      by rw [encodeChar_three ⟨notTwo, three⟩ low₂ high₂ ⟨low₃, high₃⟩]; rfl⟩
  rcases Nat.lt_or_ge value 0xF5 with four | beyond
  · rw [lead_four notThree four] at read
    rcases exists_continuing read with ⟨second, rest, rfl, small₂, low₂, high₂⟩
    dsimp only at read low₂ high₂
    rw [decodeFrom_further _ _ _ small₂ low₂ high₂] at read
    rcases exists_continuing read with ⟨third, rest, rfl, small₃, low₃, high₃⟩
    rw [decodeFrom_further _ _ _ small₃ low₃ high₃] at read
    rcases exists_continuing read with ⟨fourth, rest, rfl, -, low₄, high₄⟩
    simp only [apply_ite UInt8.toNat, UInt8.reduceToNat] at low₂ high₂
    exact ⟨_, rest,
      by rw [encodeChar_four ⟨notThree, four⟩ low₂ high₂ ⟨low₃, high₃⟩ ⟨low₄, high₄⟩]; rfl⟩
  · rw [lead_never small (.inr beyond)] at read
    cases read

/-! ## Texts -/

theorem decodeFrom_encode
    (index : Nat) (before characters : List Char) (rest : List UInt8) :
    decodeFrom index before none (encode characters ++ rest) =
      decodeFrom (index + (encode characters).length) (characters.reverse ++ before) none rest := by
  induction characters generalizing index before with
  | nil => rfl
  | cons character characters induction =>
      have split : encode (character :: characters) =
          String.utf8EncodeChar character ++ encode characters := rfl
      rw [split, List.append_assoc, decodeFrom_encodeChar, induction, List.length_append,
        List.reverse_cons, List.append_assoc, Nat.add_assoc]
      rfl

theorem exists_encode_of_decodeFrom
    {index : Nat} {before characters : List Char} {bytes : List UInt8}
    (read : decodeFrom index before none bytes = .ok characters) :
    ∃ further, bytes = encode further ∧ characters = before.reverse ++ further := by
  -- the induction is on the number of bytes: every character takes at least one
  induction size : bytes.length using Nat.strongRecOn generalizing index before bytes with
  | ind count induction =>
      cases bytes with
      | nil =>
          cases read
          exact ⟨[], rfl, by rw [List.append_nil]⟩
      | cons byte bytes =>
          rcases exists_encodeChar read with ⟨character, rest, split⟩
          have shorter : rest.length < count := by
            have sizes := congrArg List.length split
            have positive := character.utf8Size_pos
            rw [List.length_append, String.length_utf8EncodeChar] at sizes
            omega
          rw [split, decodeFrom_encodeChar] at read
          rcases induction rest.length shorter read rfl with ⟨further, spelled, equal⟩
          refine ⟨character :: further, ?_, ?_⟩
          · rw [split, spelled]
            rfl
          · rw [equal, List.reverse_cons, List.append_assoc]
            rfl

/-- Bytes are read as characters exactly if they spell them. -/
theorem decode_eq_ok_iff {bytes : List UInt8} {characters : List Char} :
    decode bytes = .ok characters ↔ bytes = encode characters := by
  constructor
  · intro read
    rcases exists_encode_of_decodeFrom read with ⟨further, spelled, equal⟩
    rw [spelled, equal]
    rfl
  · rintro rfl
    have whole := decodeFrom_encode 0 [] characters []
    rwa [List.append_nil, List.append_nil, decodeFrom, List.reverse_reverse] at whole

/-- Bytes that are cut off are refused, or read as characters that are cut off. -/
theorem decode_cut
    {characters : List Char} {cut rest : List UInt8}
    (whole : encode characters = cut ++ rest) (proper : rest ≠ []) :
    (∃ fault, decode cut = .error fault) ∨
      ∃ front back, characters = front ++ back ∧ back ≠ [] ∧ decode cut = .ok front := by
  cases read : decode cut with
  | error fault => exact .inl ⟨fault, rfl⟩
  | ok front =>
      have spelled : cut = encode front := decode_eq_ok_iff.mp read
      have continued : decodeFrom (0 + cut.length) (front.reverse ++ []) none rest =
          .ok characters := by
        have read : decode (cut ++ rest) = .ok characters := decode_eq_ok_iff.mpr whole.symm
        rwa [spelled, decode, decodeFrom_encode, ← spelled] at read
      rcases exists_encode_of_decodeFrom continued with ⟨back, remaining, equal⟩
      rw [List.append_nil, List.reverse_reverse] at equal
      refine .inr ⟨front, back, equal, ?_, rfl⟩
      rintro rfl
      exact proper remaining

end ChangeTransport.Text.Utf8
