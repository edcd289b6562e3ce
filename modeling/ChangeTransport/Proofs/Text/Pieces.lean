import ChangeTransport.Text.Lines

/-!
# Pieces of a text

A text that is cut at marks can be put together again from its pieces.  A mark in the text separates
the pieces in front of it from those behind it, and a text without a mark is one piece.
-/

namespace ChangeTransport.Text

variable {isMark : Char → Bool}

theorem piecesWhere_cons_of_mark {mark : Char} (marked : isMark mark = true) (rest : List Char) :
    piecesWhere isMark (mark :: rest) = [] :: piecesWhere isMark rest :=
  if_pos marked

/-- A character that is no mark belongs to the first piece. -/
theorem exists_piecesWhere_cons
    {character : Char} (unmarked : isMark character = false) (rest : List Char) :
    ∃ piece pieces, piecesWhere isMark rest = piece :: pieces ∧
      piecesWhere isMark (character :: rest) = (character :: piece) :: pieces := by
  induction rest generalizing character with
  | nil => exact ⟨[], [], rfl, by simp [piecesWhere, unmarked]⟩
  | cons next rest induction =>
      cases marked : isMark next with
      | true =>
          have cut := piecesWhere_cons_of_mark marked rest
          exact ⟨[], piecesWhere isMark rest, cut, by
            rw [piecesWhere, if_neg (by simp [unmarked]), cut]⟩
      | false =>
          rcases induction marked with ⟨piece, pieces, -, cut⟩
          exact ⟨next :: piece, pieces, cut, by
            rw [piecesWhere, if_neg (by simp [unmarked]), cut]⟩

theorem piecesWhere_ne_nil (characters : List Char) : piecesWhere isMark characters ≠ [] := by
  cases characters with
  | nil => simp [piecesWhere]
  | cons character rest =>
      cases marked : isMark character with
      | true => simp [piecesWhere_cons_of_mark marked]
      | false =>
          rcases exists_piecesWhere_cons marked rest with ⟨piece, pieces, -, cut⟩
          simp [cut]

/-- A piece of a longer text is one of the rest, but the first one may have one more character. -/
theorem mem_piecesWhere_cons {first : Char} {rest piece : List Char}
    (part : piece ∈ piecesWhere isMark (first :: rest)) :
    piece = [] ∨ piece ∈ piecesWhere isMark rest ∨
      isMark first = false ∧ ∃ next ∈ piecesWhere isMark rest, piece = first :: next := by
  cases marked : isMark first with
  | true =>
      rw [piecesWhere_cons_of_mark marked, List.mem_cons] at part
      exact part.imp_right .inl
  | false =>
      rcases exists_piecesWhere_cons marked rest with ⟨next, pieces, others, cut⟩
      rw [cut, List.mem_cons] at part
      rcases part with rfl | part
      · exact .inr (.inr ⟨rfl, next, by simp [others], rfl⟩)
      · exact .inr (.inl (by simp [others, part]))

theorem sublist_of_mem_piecesWhere {characters piece : List Char}
    (part : piece ∈ piecesWhere isMark characters) : piece.Sublist characters := by
  induction characters generalizing piece with
  | nil =>
      rw [piecesWhere, List.mem_singleton] at part
      exact part ▸ List.Sublist.refl _
  | cons first rest induction =>
      rcases mem_piecesWhere_cons part with rfl | later | ⟨-, next, later, rfl⟩
      · exact List.nil_sublist _
      · exact (induction later).cons first
      · exact (induction later).cons_cons first

/-- A piece holds characters of the text only. -/
theorem mem_of_mem_piecesWhere
    {characters piece : List Char} {character : Char}
    (part : piece ∈ piecesWhere isMark characters) (among : character ∈ piece) :
    character ∈ characters :=
  (sublist_of_mem_piecesWhere part).subset among

theorem unmarked_of_mem_piecesWhere
    {characters piece : List Char} {character : Char}
    (part : piece ∈ piecesWhere isMark characters) (among : character ∈ piece) :
    isMark character = false := by
  induction characters generalizing piece with
  | nil =>
      rw [piecesWhere, List.mem_singleton] at part
      subst part
      cases among
  | cons first rest induction =>
      rcases mem_piecesWhere_cons part with rfl | later | ⟨unmarked, next, later, rfl⟩
      · cases among
      · exact induction later among
      · rcases List.mem_cons.mp among with rfl | among
        · exact unmarked
        · exact induction later among

/-- Only the marks in a text count. -/
theorem piecesWhere_congr {isOther : Char → Bool} {characters : List Char}
    (same : ∀ character ∈ characters, isMark character = isOther character) :
    piecesWhere isMark characters = piecesWhere isOther characters := by
  induction characters with
  | nil => rfl
  | cons first rest induction =>
      rw [piecesWhere, piecesWhere, same first (by simp),
        induction fun other among => same other (List.mem_cons_of_mem _ among)]

/-- A text without marks is one piece. -/
theorem piecesWhere_of_unmarked {characters : List Char}
    (unmarked : ∀ character ∈ characters, isMark character = false) :
    piecesWhere isMark characters = [characters] := by
  induction characters with
  | nil => rfl
  | cons character rest induction =>
      rcases exists_piecesWhere_cons (unmarked character (by simp)) rest with
        ⟨piece, pieces, others, cut⟩
      rw [induction fun other among => unmarked other (List.mem_cons_of_mem _ among)] at others
      cases others
      exact cut

/-- A mark separates the pieces in front of it from those behind it. -/
theorem piecesWhere_append {mark : Char} (marked : isMark mark = true) (front back : List Char) :
    piecesWhere isMark (front ++ mark :: back) =
      piecesWhere isMark front ++ piecesWhere isMark back := by
  induction front with
  | nil => exact piecesWhere_cons_of_mark marked back
  | cons character rest induction =>
      cases first : isMark character with
      | true =>
          rw [List.cons_append, piecesWhere_cons_of_mark first, piecesWhere_cons_of_mark first,
            induction, List.cons_append]
      | false =>
          rcases exists_piecesWhere_cons first rest with ⟨piece, pieces, others, cut⟩
          rcases exists_piecesWhere_cons first (rest ++ mark :: back) with
            ⟨piece', pieces', others', cut'⟩
          rw [induction, others, List.cons_append] at others'
          cases others'
          rw [List.cons_append, cut', cut, List.cons_append]

/-- A character that is no mark and stands last belongs to the last piece. -/
theorem exists_piecesWhere_concat
    {character : Char} (unmarked : isMark character = false) (front : List Char) :
    ∃ pieces last, piecesWhere isMark (front ++ [character]) = pieces ++ [last ++ [character]] := by
  induction front with
  | nil => exact ⟨[], [], by simp [piecesWhere, unmarked]⟩
  | cons first rest induction =>
      rcases induction with ⟨pieces, last, cut⟩
      cases marked : isMark first with
      | true =>
          exact ⟨[] :: pieces, last, by
            rw [List.cons_append, piecesWhere_cons_of_mark marked, cut, List.cons_append]⟩
      | false =>
          rcases exists_piecesWhere_cons marked (rest ++ [character]) with
            ⟨piece, others, whole, cut'⟩
          rw [List.cons_append, cut']
          rw [cut] at whole
          cases pieces with
          | nil =>
              cases whole
              exact ⟨[], first :: last, rfl⟩
          | cons next pieces =>
              cases whole
              exact ⟨(first :: piece) :: pieces, last, rfl⟩

/-- The last piece is empty exactly if nothing stands behind the last mark. -/
theorem getLast?_piecesWhere_eq_nil_iff {characters : List Char} :
    (piecesWhere isMark characters).getLast? = some [] ↔
      ∀ character, characters.getLast? = some character → isMark character = true := by
  rcases characters.eq_nil_or_concat with rfl | ⟨front, character, rfl⟩
  · simp [piecesWhere]
  · cases marked : isMark character with
    | true => simp [piecesWhere_append marked, piecesWhere, marked]
    | false =>
        rcases exists_piecesWhere_concat marked front with ⟨pieces, last, cut⟩
        simp [cut, marked]

theorem intercalate_piecesWhere {mark : Char}
    (only : ∀ character, isMark character = true → character = mark) (characters : List Char) :
    [mark].intercalate (piecesWhere isMark characters) = characters := by
  induction characters with
  | nil => rfl
  | cons character rest induction =>
      cases marked : isMark character with
      | true =>
          rw [piecesWhere_cons_of_mark marked, List.intercalate_cons_of_ne_nil
            (piecesWhere_ne_nil rest), induction, only character marked]
          rfl
      | false =>
          rcases exists_piecesWhere_cons marked rest with ⟨piece, pieces, others, cut⟩
          rw [others] at induction
          rw [cut]
          cases pieces with
          | nil =>
              rw [List.intercalate_singleton] at induction ⊢
              rw [induction]
          | cons next pieces =>
              rw [List.intercalate_cons_cons] at induction ⊢
              rw [List.cons_append, List.cons_append, induction]

section At

variable (mark : Char)

theorem piecesAt_append (front back : List Char) :
    piecesAt mark (front ++ mark :: back) = piecesAt mark front ++ piecesAt mark back :=
  piecesWhere_append (by simp) front back

theorem getLast?_piecesAt_eq_nil_iff {characters : List Char} :
    (piecesAt mark characters).getLast? = some [] ↔
      characters = [] ∨ characters.getLast? = some mark := by
  rw [piecesAt, getLast?_piecesWhere_eq_nil_iff]
  cases last : characters.getLast? with
  | none => simpa using last
  | some character =>
      have nonempty : characters ≠ [] := by
        rintro rfl
        cases last
      simp [nonempty]

theorem piecesAt_ne_nil (characters : List Char) : piecesAt mark characters ≠ [] :=
  piecesWhere_ne_nil characters

/-- The pieces of a text with the marks between them are the text. -/
theorem intercalate_piecesAt (characters : List Char) :
    [mark].intercalate (piecesAt mark characters) = characters :=
  intercalate_piecesWhere (fun _ => beq_iff_eq.mp) characters

end At

end ChangeTransport.Text
