import Mathlib.Data.List.DropRight
import Mathlib.Data.List.TakeDrop
import ChangeTransport.Text.Blank

/-!
# Trimmed texts

A text is trimmed by taking away the blanks in front of it and those behind it, and nothing else.
-/

namespace ChangeTransport.Text

section Strip

variable {drop : Char → Bool} {characters kept : List Char}

/-- What is dropped in front is a part of the list, and it ends where nothing is to be dropped. -/
theorem dropWhile_eq_iff :
    characters.dropWhile drop = kept ↔
      (∃ front, characters = front ++ kept ∧ ∀ character ∈ front, drop character = true) ∧
        ∀ character, kept.head? = some character → drop character = false := by
  constructor
  · rintro rfl
    refine ⟨⟨characters.takeWhile drop, List.takeWhile_append_dropWhile.symm, ?_⟩, ?_⟩
    · intro character among
      exact List.mem_takeWhile_imp among
    · intro character first
      have stops := List.head?_dropWhile_not drop characters
      rw [first] at stops
      simpa using stops
  · rintro ⟨⟨front, rfl, dropped⟩, stops⟩
    rw [List.dropWhile_append_of_pos dropped]
    cases kept with
    | nil => rfl
    | cons first rest => rw [List.dropWhile_cons_of_neg (by simp [stops first rfl])]

/-- What is dropped at both ends is a part of the list, and nothing is to be dropped further. -/
theorem stripWhere_eq_iff :
    stripWhere drop characters = kept ↔
      (∃ front back, characters = front ++ kept ++ back ∧
        ∀ character ∈ front ++ back, drop character = true) ∧
      (∀ character, kept.head? = some character → drop character = false) ∧
      (∀ character, kept.getLast? = some character → drop character = false) := by
  have turned : stripWhere drop characters = kept ↔
      (characters.dropWhile drop).reverse.dropWhile drop = kept.reverse := by
    rw [stripWhere, List.reverse_eq_iff]
  rw [turned, dropWhile_eq_iff, List.head?_reverse]
  constructor
  · rintro ⟨⟨back, split, behind⟩, finish⟩
    have left : characters.dropWhile drop = kept ++ back.reverse := by
      rw [← List.reverse_inj, split, List.reverse_append, List.reverse_reverse]
    rcases dropWhile_eq_iff.mp left with ⟨⟨front, rfl, before⟩, start⟩
    refine ⟨⟨front, back.reverse, (List.append_assoc ..).symm, ?_⟩, ?_, finish⟩
    · intro character among
      rcases List.mem_append.mp among with among | among
      · exact before character among
      · exact behind character (List.mem_reverse.mp among)
    · intro character first
      exact start character (by rw [List.head?_append, first]; rfl)
  · rintro ⟨⟨front, back, rfl, dropped⟩, start, finish⟩
    have before : ∀ character ∈ front, drop character = true :=
      fun character among => dropped character (List.mem_append_left _ among)
    have behind : ∀ character ∈ back, drop character = true :=
      fun character among => dropped character (List.mem_append_right _ among)
    refine ⟨?_, finish⟩
    rw [List.append_assoc, List.dropWhile_append_of_pos before]
    cases kept with
    -- where nothing is kept, all is dropped in front, and nothing is left to be dropped behind
    | nil =>
        have none : back.dropWhile drop = [] := List.dropWhile_eq_nil_iff.mpr behind
        exact ⟨[], by rw [List.nil_append, none]; rfl, by simp⟩
    | cons first rest =>
        rw [List.cons_append, List.dropWhile_cons_of_neg (by simp [start first rfl])]
        refine ⟨back.reverse, by simp, ?_⟩
        intro character among
        exact behind character (List.mem_reverse.mp among)

/-- Nothing is dropped from a character on that is kept. -/
theorem dropWhile_append_cons {mark : Char} (stays : drop mark = false) (front back : List Char) :
    (front ++ mark :: back).dropWhile drop = front.dropWhile drop ++ mark :: back := by
  rw [List.dropWhile_append]
  split
  · rename_i all
    rw [List.isEmpty_iff.mp all, List.dropWhile_cons_of_neg (by simp [stays]), List.nil_append]
  · rfl

/-- A character that is kept divides what is dropped in front from what is dropped behind. -/
theorem stripWhere_append_cons {mark : Char} (stays : drop mark = false) (front back : List Char) :
    stripWhere drop (front ++ mark :: back) =
      front.dropWhile drop ++ mark :: stripEndWhere drop back := by
  rw [stripWhere, dropWhile_append_cons stays, List.reverse_append, List.reverse_cons,
    List.append_assoc, List.singleton_append, dropWhile_append_cons stays, stripEndWhere]
  simp

/-- Behind a character that is dropped, the same is left. -/
theorem stripWhere_cons_of_drop {first : Char} (dropped : drop first = true)
    (rest : List Char) : stripWhere drop (first :: rest) = stripWhere drop rest := by
  rw [stripWhere, List.dropWhile_cons_of_pos dropped, stripWhere]

theorem stripEndWhere_prefix (drop : Char → Bool) (characters : List Char) :
    stripEndWhere drop characters <+: characters := by
  rw [stripEndWhere, ← List.reverse_suffix, List.reverse_reverse]
  exact List.dropWhile_suffix drop

/-- A text is cut where the first character stands that does not belong to its front. -/
theorem span_append {isInside : Char → Bool} {front back : List Char}
    (inside : ∀ character ∈ front, isInside character = true)
    (stops : ∀ character, back.head? = some character → isInside character = false) :
    (front ++ back).span isInside = (front, back) := by
  have none : back.takeWhile isInside = [] ∧ back.dropWhile isInside = back := by
    cases back with
    | nil => exact ⟨rfl, rfl⟩
    | cons first rest =>
        have stop : ¬ isInside first = true := by simp [stops first rfl]
        exact ⟨List.takeWhile_cons_of_neg stop, List.dropWhile_cons_of_neg stop⟩
  rw [List.span_eq_takeWhile_dropWhile, List.takeWhile_append_of_pos inside,
    List.dropWhile_append_of_pos inside, none.1, none.2, List.append_nil]

section Mark

variable {mark : Char} (absent : mark ∉ characters)
include absent

theorem bne_of_not_mem : ∀ character ∈ characters, (character != mark) = true := by
  intro character among
  rw [bne_iff_ne]
  rintro rfl
  exact absent among

theorem span_bne_append (back : List Char) :
    (characters ++ mark :: back).span (fun character => character != mark) =
      (characters, mark :: back) :=
  span_append (bne_of_not_mem absent) (by simp)

theorem span_bne_of_not_mem :
    characters.span (fun character => character != mark) = (characters, []) := by
  rw [List.span_eq_takeWhile_dropWhile,
    List.takeWhile_eq_self_iff.mpr (bne_of_not_mem absent),
    List.dropWhile_eq_nil_iff.mpr (bne_of_not_mem absent)]

end Mark

end Strip

/-- What is left of a text if the blanks at its two ends are taken away. -/
structure IsTrimmed (text trimmed : String) : Prop where
  around : ∃ front back : List Char, text.toList = front ++ trimmed.toList ++ back ∧
    ∀ character ∈ front ++ back, isBlank character = true
  start : ∀ character, trimmed.toList.head? = some character → isBlank character = false
  finish : ∀ character, trimmed.toList.getLast? = some character → isBlank character = false

theorem trimBlanks_eq_iff {text trimmed : String} :
    trimBlanks text = trimmed ↔ IsTrimmed text trimmed := by
  have listed : trimBlanks text = trimmed ↔ stripWhere isBlank text.toList = trimmed.toList := by
    rw [trimBlanks, ← String.toList_inj, String.toList_ofList]
  rw [listed, stripWhere_eq_iff]
  constructor
  · rintro ⟨around, start, finish⟩
    exact ⟨around, start, finish⟩
  · rintro ⟨around, start, finish⟩
    exact ⟨around, start, finish⟩

end ChangeTransport.Text
