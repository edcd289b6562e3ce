import ChangeTransport.Json.Quoted
import ChangeTransport.Proofs.Json.Writing

/-!
# How texts are quoted

A character that is quoted stands for itself again, whether it is written as it is, by its letter or
by the number of its unit.  So a quoted text is a token that holds the text, and a value that is
written with quoted texts is read as that value.

What is written is told together with whatever follows it, since the parts of a value follow each
other without blanks.
-/

namespace ChangeTransport.Json

open Text

/-! ## Characters -/

/-- A hexadecimal digit is spelled by one byte. -/
theorem utf8EncodeChar_hexDigit (value : Fin 16) :
    String.utf8EncodeChar (hexDigit value.val) = [UInt8.ofNat (hexDigit value.val).toNat] := by
  decide +revert

/-- A control is spelled by the number of its unit. -/
theorem spellsUnit_of_lt {unit : Nat} (control : unit < 0x20) :
    SpellsUnit unit
      (Utf8.encode ['\\', 'u', '0', '0', hexDigit (unit / 16), hexDigit (unit % 16)]) := by
  let third : Fin 16 := ⟨unit / 16, by omega⟩
  let fourth : Fin 16 := ⟨unit % 16, by omega⟩
  have number : (((0 : Fin 16).val * 16 + (0 : Fin 16).val) * 16 + third.val) * 16 + fourth.val =
      unit := by
    simp only [third, fourth, Fin.val_zero]
    omega
  have spelled :
      Utf8.encode ['\\', 'u', '0', '0', hexDigit third.val, hexDigit fourth.val] =
        [0x5C, 0x75, 0x30, 0x30, UInt8.ofNat (hexDigit third.val).toNat,
          UInt8.ofNat (hexDigit fourth.val).toNat] := by
    unfold Utf8.encode
    rw [List.flatMap_cons, List.flatMap_cons, List.flatMap_cons, List.flatMap_cons,
      List.flatMap_cons, List.flatMap_cons, utf8EncodeChar_hexDigit, utf8EncodeChar_hexDigit]
    rfl
  have unit := @SpellsUnit.of 0 0 third fourth _ _ _ _ (.inl rfl) (.inl rfl) (.inl rfl) (.inl rfl)
  rw [number] at unit
  rw [spelled]
  exact unit

/-- A character that is escaped spells the character. -/
theorem spellsCharacter_escape (character : Char) :
    SpellsCharacter character (Utf8.encode (escape character)) := by
  unfold escape
  split
  case h_8 quote backslash _ _ _ _ _ =>
      split
      case isTrue control => exact .unit (spellsUnit_of_lt control)
      case isFalse visible =>
          have spelled : Utf8.encode [character] = String.utf8EncodeChar character :=
            List.append_nil _
          rw [spelled]
          exact .plain (Nat.le_of_not_lt visible) quote backslash
  all_goals exact .letter (by decide)

/-! ## Texts -/

theorem spellsText_escape (characters : List Char) :
    SpellsText characters (Utf8.encode (characters.flatMap escape)) := by
  induction characters with
  | nil => exact .nil
  | cons character characters induction =>
      rw [List.flatMap_cons, Utf8.encode, List.flatMap_append]
      exact .cons (spellsCharacter_escape character) induction

/-- A quoted text is a token that holds the text. -/
theorem spellsToken_quoted (text : String) :
    SpellsToken (.text (some text)) (Utf8.encode (quoted text)) := by
  have spelled : Utf8.encode (quoted text) =
      0x22 :: (Utf8.encode (text.toList.flatMap escape) ++ [0x22]) := by
    unfold quoted Utf8.encode
    rw [List.flatMap_cons, List.flatMap_append]
    rfl
  rw [spelled]
  exact .text (spellsText_escape text.toList)

/-! ## Values -/

/-- Characters that write a value, whatever follows them. -/
structure Writes (outline : Outline) (characters : List Char) : Prop where
  whole : outline.IsWhole
  spelled : ∀ {tokens rest}, SpellsTokens tokens rest →
    SpellsTokens (outline.tokens ++ tokens) (Utf8.encode characters ++ rest)

theorem Writes.spells {outline : Outline} {characters : List Char}
    (writes : Writes outline characters) : Spells outline (Utf8.encode characters) :=
  ⟨writes.whole, by simpa only [List.append_nil] using writes.spelled .none⟩

theorem writes_quoted (text : String) : Writes (.text (some text)) (quoted text) :=
  ⟨trivial, fun others => .next (spellsToken_quoted text) others⟩

end ChangeTransport.Json
