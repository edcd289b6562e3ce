import ChangeTransport.Xml.Reference
import ChangeTransport.Xml.Token

/-!
# Escaped texts

An escaped text holds no character with which markup begins or ends, and resolving its references
gives the text back.  Escaping leaves the two ends of a text alone as far as blanks go.
-/

namespace ChangeTransport.Xml

/-- The characters of a text as they are written in markup. -/
def escaped (text : List Char) : List Char := text.flatMap escapeCharacter

@[simp]
theorem escaped_nil : escaped [] = [] := rfl

theorem escaped_cons (character : Char) (rest : List Char) :
    escaped (character :: rest) = escapeCharacter character ++ escaped rest := rfl

theorem escaped_append (front rest : List Char) :
    escaped (front ++ rest) = escaped front ++ escaped rest :=
  List.flatMap_append

/-! ## Resolving what has been escaped -/

/-- What a character is written as is read as that character, whatever stands behind it. -/
theorem resolveFrom_escapeCharacter (character : Char) (rest : List Char) :
    resolveFrom none (escapeCharacter character ++ rest) =
      (resolveFrom none rest >>= fun characters => pure (character :: characters)) := by
  unfold escapeCharacter
  split
  -- the five characters with names of their own
  iterate 5 · simp [resolveFrom, referent?]
  · next ampersand _ => rw [List.singleton_append, resolveFrom, if_neg ampersand]

/-- Resolving gives back what has been escaped. -/
@[simp]
theorem resolve_escaped (text : List Char) : resolve (escaped text) = some text := by
  unfold resolve
  induction text with
  | nil => rfl
  | cons character rest induction =>
      rw [escaped_cons, resolveFrom_escapeCharacter, induction]
      rfl

/-! ## What an escaped text does not hold -/

/-- The marks between which tags and the values of attributes stand. -/
def marks : List Char := ['<', '>', '"', '\'']

theorem not_mem_marks_of_mem_escapeCharacter (character : Char) :
    ∀ written ∈ escapeCharacter character, written ∉ marks := by
  unfold escapeCharacter
  split
  iterate 5 · simp [marks]
  · next less greater apostrophe _ quote =>
      refine List.forall_mem_singleton.mpr ?_
      simp only [marks, List.mem_cons, List.not_mem_nil, or_false, not_or]
      exact ⟨less, greater, quote, apostrophe⟩

theorem not_mem_escaped {mark : Char} (reserved : mark ∈ marks) (text : List Char) :
    mark ∉ escaped text := by
  intro member
  rcases List.mem_flatMap.mp member with ⟨character, -, inside⟩
  exact not_mem_marks_of_mem_escapeCharacter character mark inside reserved

/-- The names of the references as which characters are written. -/
def predefined : List (List Char) :=
  ["lt".toList, "gt".toList, "amp".toList, "apos".toList, "quot".toList]

theorem exists_predefined_of_escapeCharacter {character : Char} {front behind : List Char}
    (split : escapeCharacter character = front ++ '&' :: behind) :
    ∃ name ∈ predefined, behind = name ++ [';'] := by
  -- the ampersand comes first, so nothing stands in front of it
  have alone {name : List Char} (known : name ∈ predefined) (unmarked : '&' ∉ name ++ [';'])
      (written : '&' :: (name ++ [';']) = front ++ '&' :: behind) :
      ∃ name ∈ predefined, behind = name ++ [';'] := by
    cases front with
    | nil => exact ⟨name, known, (List.cons.inj written).2.symm⟩
    | cons first others =>
        rw [List.cons_append, List.cons.injEq] at written
        exact absurd (written.2 ▸ by simp) unmarked
  unfold escapeCharacter at split
  split at split
  · exact alone (by decide : "lt".toList ∈ predefined) (by decide) split
  · exact alone (by decide : "gt".toList ∈ predefined) (by decide) split
  · exact alone (by decide : "apos".toList ∈ predefined) (by decide) split
  · exact alone (by decide : "amp".toList ∈ predefined) (by decide) split
  · exact alone (by decide : "quot".toList ∈ predefined) (by decide) split
  · next ampersand _ =>
      have among : '&' ∈ [character] := split ▸ by simp
      exact absurd (List.mem_singleton.mp among).symm ampersand

/-- Every ampersand in an escaped text begins one of the predefined references. -/
theorem exists_predefined_of_escaped {text front rest : List Char}
    (split : escaped text = front ++ '&' :: rest) :
    ∃ name ∈ predefined, name ++ [';'] <+: rest := by
  induction text generalizing front with
  | nil => simp at split
  | cons character others induction =>
      rw [escaped_cons, List.append_eq_append_iff] at split
      rcases split with ⟨later, -, behind⟩ | ⟨within, here, behind⟩
      · exact induction behind
      · cases within with
        | nil => exact @induction [] behind.symm
        | cons first within =>
            rw [List.cons_append, List.cons.injEq] at behind
            rcases behind with ⟨rfl, rfl⟩
            rcases exists_predefined_of_escapeCharacter here with ⟨name, known, rfl⟩
            exact ⟨name, known, List.prefix_append _ _⟩

/-! ## The two ends of a text -/

/-- Whether a text neither begins nor ends with a blank. -/
def isTrimmed (text : List Char) : Bool :=
  text.head?.all (fun first => !isBlank first) && text.getLast?.all (fun last => !isBlank last)

theorem isTrimmed_iff {text : List Char} :
    isTrimmed text = true ↔
      (∀ first ∈ text.head?, isBlank first = false) ∧
        ∀ last ∈ text.getLast?, isBlank last = false := by
  simp [isTrimmed, Option.all_eq_true]

theorem exists_escapeCharacter_eq_cons (character : Char) :
    ∃ first rest, escapeCharacter character = first :: rest ∧
      isBlank first = isBlank character := by
  unfold escapeCharacter
  split <;> exact ⟨_, _, rfl, rfl⟩

theorem exists_escapeCharacter_eq_concat (character : Char) :
    ∃ front last, escapeCharacter character = front ++ [last] ∧
      isBlank last = isBlank character := by
  unfold escapeCharacter
  split
  · exact ⟨"&lt".toList, ';', rfl, rfl⟩
  · exact ⟨"&gt".toList, ';', rfl, rfl⟩
  · exact ⟨"&apos".toList, ';', rfl, rfl⟩
  · exact ⟨"&amp".toList, ';', rfl, rfl⟩
  · exact ⟨"&quot".toList, ';', rfl, rfl⟩
  · exact ⟨[], character, rfl, rfl⟩

theorem escaped_ne_nil {text : List Char} (holds : text ≠ []) : escaped text ≠ [] := by
  cases text with
  | nil => exact absurd rfl holds
  | cons character rest =>
      rcases exists_escapeCharacter_eq_cons character with ⟨first, others, written, -⟩
      rw [escaped_cons, written]
      exact List.cons_ne_nil _ _

section Trimmed

variable {text : List Char} (trimmed : isTrimmed text = true)

include trimmed

/-- There is nothing to take away in front of a trimmed text that has been escaped. -/
theorem dropWhile_escaped : (escaped text).dropWhile isBlank = escaped text := by
  cases text with
  | nil => rfl
  | cons character rest =>
      rcases exists_escapeCharacter_eq_cons character with ⟨first, others, written, alike⟩
      have plain : isBlank first = false := by
        rw [alike]
        exact (isTrimmed_iff.mp trimmed).1 character rfl
      rw [escaped_cons, written, List.cons_append, List.dropWhile_cons_of_neg (by simp [plain])]

/-- There is nothing to take away behind a trimmed text that has been escaped. -/
theorem dropWhile_reverse_escaped :
    (escaped text).reverse.dropWhile isBlank = (escaped text).reverse := by
  rcases List.eq_nil_or_concat text with rfl | ⟨front, character, rfl⟩
  · rfl
  · rw [List.concat_eq_append] at trimmed ⊢
    rcases exists_escapeCharacter_eq_concat character with ⟨most, last, written, alike⟩
    have plain : isBlank last = false := by
      rw [alike]
      exact (isTrimmed_iff.mp trimmed).2 character (by simp)
    have ends : escaped (front ++ [character]) = escaped front ++ most ++ [last] := by
      rw [escaped_append, escaped_cons, escaped_nil, List.append_nil, written, List.append_assoc]
    rw [ends, List.reverse_append, List.reverse_singleton, List.singleton_append,
      List.dropWhile_cons_of_neg (by simp [plain])]

end Trimmed

end ChangeTransport.Xml
