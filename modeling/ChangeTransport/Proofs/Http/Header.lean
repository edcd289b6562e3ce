import ChangeTransport.Http.Message

/-!
# Looking up headers

Texts that differ in the case of their ASCII letters have one text in small letters in common.  The
value of a header is that of the first header whose name is, in small letters, the one looked for.
-/

namespace ChangeTransport

namespace Text

theorem lowerAscii_eq_toLower (character : Char) : lowerAscii character = character.toLower := by
  by_cases capital : 'A' ≤ character ∧ character ≤ 'Z'
  · have high : character.toNat ≤ 90 := capital.2
    have valid : (character.toNat + 32).isValidChar := .inl (by omega)
    have sum : (character.val + ('a'.val - 'A'.val)).toNat = character.toNat + 32 := by
      rw [UInt32.toNat_add]
      exact Nat.mod_eq_of_lt (Nat.lt_of_le_of_lt (Nat.add_le_add_right high 32) (by decide))
    have lowered : character.toLower = ⟨character.val + ('a'.val - 'A'.val), _⟩ := dif_pos capital
    rw [lowerAscii, if_pos capital, lowered, Char.ofNat, dif_pos valid]
    apply Char.ext
    apply UInt32.toNat_inj.mp
    rw [sum]
    rfl
  · have kept : character.toLower = character := dif_neg capital
    rw [lowerAscii, if_neg capital, kept]

theorem toList_toLower (text : String) : text.toLower.toList = text.toList.map Char.toLower :=
  String.toList_map

theorem toLower_eq_iff {text lowered : String} :
    text.toLower = lowered ↔ text.toList.map Char.toLower = lowered.toList := by
  rw [← String.toList_inj, toList_toLower]

theorem sameIgnoringCase_iff {first second : String} :
    sameIgnoringCase first second = true ↔ first.toLower = second.toLower := by
  have mapped : lowerAscii = Char.toLower := funext lowerAscii_eq_toLower
  rw [sameIgnoringCase, sameIgnoringCaseList, beq_iff_eq, mapped, toLower_eq_iff, toList_toLower]

end Text

namespace Http

/-- A header counts if it has the name looked for and no header before it has that name. -/
theorem headerValue?_eq_some_iff {headers : List Header} {name value : String} :
    headerValue? headers name = some value ↔
      ∃ before spelling after, headers = before ++ (spelling, value) :: after ∧
        spelling.toLower = name.toLower ∧ ∀ header ∈ before, header.1.toLower ≠ name.toLower := by
  simp only [headerValue?, Option.map_eq_some_iff, List.find?_eq_some_iff_append,
    Text.sameIgnoringCase_iff, Bool.not_eq_true', ← Bool.not_eq_true, ne_eq]
  constructor
  · rintro ⟨⟨spelling, value⟩, ⟨named, before, after, split, others⟩, rfl⟩
    exact ⟨before, spelling, after, split, named, others⟩
  · rintro ⟨before, spelling, after, split, named, others⟩
    exact ⟨(spelling, value), ⟨named, before, after, split, others⟩, rfl⟩

end Http

end ChangeTransport
