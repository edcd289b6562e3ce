import ChangeTransport.Proofs.Xml.Opening
import ChangeTransport.Proofs.Xml.Respelling

/-!
# What stands in front of the first element

In front of its first element a document may hold text, comments, character sections, instructions
and document types, and none of them is a tag whatever it looks like inside.  They are cut into
tokens in which no element is looked for, and the first tag behind them opens the document.
-/

namespace ChangeTransport.Xml

/-! ## Markup without elements -/

/-- Angle brackets in pairs: each `>` closes a `<` in front of it, and none stays open. -/
structure BracketsClosed (characters : List Char) : Prop where
  closed : characters.count '<' = characters.count '>'
  inOrder : ∀ front, front <+: characters → front.count '>' ≤ front.count '<'

/-- A section in which nothing is markup. -/
def sectionMarkup (inside : List Char) : List Char :=
  '<' :: '!' :: ("[CDATA[".toList ++ inside ++ [']', ']', '>'])

/-- A document type, with everything behind `<!` up to its `>`. -/
def documentTypeMarkup (inside : List Char) : List Char := '<' :: '!' :: (inside ++ ['>'])

/-- Markup that holds no element, and its token. -/
inductive SpellsOther : Token → List Char → Prop
  | comment {inside : List Char} (unended : ¬ ['-', '-', '>'] <:+: inside) :
      SpellsOther .aside (commentMarkup inside)
  | section {inside : List Char} (unended : ¬ [']', ']', '>'] <:+: inside) :
      SpellsOther (.section inside) (sectionMarkup inside)
  | instruction {inside : List Char} (named : inside.head? ≠ some '>')
      (unended : ¬ ['?', '>'] <:+: inside) :
      SpellsOther .aside (instructionMarkup inside)
  | documentType {inside : List Char} (named : beginsWithLetters "DOCTYPE".toList inside = true)
      (told : (inside.drop 7).any (fun character => !isBlank character) = true)
      (closed : BracketsClosed inside) :
      SpellsOther .documentType (documentTypeMarkup inside)

/-- What may stand in front of the first element of a document. -/
inductive IsPrologue : List Char → Prop
  | nil : IsPrologue []
  | text {character : Char} {rest : List Char} (plain : character ≠ '<')
      (behind : IsPrologue rest) : IsPrologue (character :: rest)
  | markup {token : Token} {piece rest : List Char} (other : SpellsOther token piece)
      (behind : IsPrologue rest) : IsPrologue (piece ++ rest)

theorem IsPrologue.append {front behind : List Char} (first : IsPrologue front)
    (second : IsPrologue behind) : IsPrologue (front ++ behind) := by
  induction first with
  | nil => exact second
  | text plain _ induction => exact .text plain induction
  | markup other _ induction =>
      rw [List.append_assoc]
      exact .markup other induction

theorem SpellsOther.isPrologue {token : Token} {piece : List Char}
    (other : SpellsOther token piece) : IsPrologue piece := by
  have whole := IsPrologue.markup other .nil
  rwa [List.append_nil] at whole

/-- Markup that holds no element begins like all markup. -/
theorem SpellsOther.exists_inner {token : Token} {piece : List Char}
    (other : SpellsOther token piece) : ∃ inner, piece = '<' :: inner := by
  cases other <;> exact ⟨_, rfl⟩

/-- A token in which no element is looked for. -/
inductive Token.IsPassed : Token → Prop
  | text (raw : List Char) : IsPassed (.text raw)
  | section (characters : List Char) : IsPassed (.section characters)
  | documentType : IsPassed .documentType
  | aside : IsPassed .aside

theorem SpellsOther.isPassed {token : Token} {piece : List Char}
    (other : SpellsOther token piece) : token.IsPassed := by
  cases other <;> constructor

theorem isPassed_of_mem_heldText {pending : List Char} :
    ∀ token ∈ heldText pending, token.IsPassed := by
  intro token member
  cases pending with
  | nil => cases member
  | cons last before =>
      rw [List.mem_singleton.mp member]
      exact .text _

/-! ## How it is cut -/

/-- The letters in front of a section. -/
def sectionLetters : List Char := "[CDATA[".toList

/-- A section that ends behind two brackets has them inside. -/
theorem Declaration.brackets_of_endsAt {front : List Char} {balance : Nat}
    (ends : Declaration.section.endsAt balance (front.reverse ++ sectionLetters.reverse) = true) :
    [']', ']'] <:+ front := by
  have letters : sectionLetters.reverse = ['[', 'A', 'T', 'A', 'D', 'C', '['] := by decide
  rw [letters] at ends
  rw [← List.reverse_prefix]
  cases reversed : front.reverse with
  | nil => simp [endsAt, reversed] at ends
  | cons last before =>
      cases before with
      | nil => simp [endsAt, reversed] at ends
      | cons second before =>
          have both : last = ']' ∧ second = ']' := by simpa [endsAt, reversed] using ends
          exact ⟨before, by simp [both]⟩

theorem Declaration.token?_section (inside : List Char) :
    Declaration.section.token? (sectionLetters ++ (inside ++ [']', ']'])) =
      some (.section inside) := by
  have named : "[CDATA[".toList.isPrefixOf (sectionLetters ++ (inside ++ [']', ']'])) = true := by
    rw [List.isPrefixOf_iff_prefix]
    exact List.prefix_append _ _
  have size : (sectionLetters ++ (inside ++ [']', ']'])).length - 9 = inside.length := by
    have letters : sectionLetters.length = 7 := by decide
    simp only [List.length_append, List.length_cons, List.length_nil, letters]
    omega
  have rest : (sectionLetters ++ (inside ++ [']', ']'])).drop 7 = inside ++ [']', ']'] := rfl
  rw [token?, if_pos named, size, rest, List.take_left']
  rfl

theorem eq_or_eq_of_toUpper_eq {character : Char} (large : character.toUpper = 'D') :
    character = 'D' ∨ character = 'd' := by
  unfold Char.toUpper at large
  split at large
  · next small =>
      right
      have number := congrArg (fun character => character.val.toNat) large
      rcases small with ⟨low, high⟩
      rw [UInt32.le_iff_toNat_le] at low high
      rw [Char.ext_iff, ← UInt32.toNat_inj]
      simp at low high number ⊢
      omega
  · exact .inl large

/-- What begins with the letters of a document type begins with the first of them. -/
theorem exists_cons_of_beginsWithLetters {inside : List Char}
    (named : beginsWithLetters "DOCTYPE".toList inside = true) :
    ∃ first rest, inside = first :: rest ∧ (first = 'D' ∨ first = 'd') := by
  have letters : "DOCTYPE".toList = 'D' :: "OCTYPE".toList := by decide
  rw [letters] at named
  cases inside with
  | nil => cases named
  | cons first rest =>
      rw [beginsWithLetters, Bool.and_eq_true, beq_iff_eq] at named
      exact ⟨first, rest, rfl, eq_or_eq_of_toUpper_eq named.1⟩

namespace Scanner

variable (read : List Token)

theorem isCutInto_section {inside : List Char} (unended : ¬ [']', ']', '>'] <:+: inside) :
    IsCutInto (sectionMarkup inside) [.section inside] := by
  intro read
  have goesOn : ∀ earlier, earlier ++ ['>'] <+: inside →
      Declaration.section.endsAt 0 (earlier.reverse ++ sectionLetters.reverse) = false := by
    intro earlier early
    rw [Bool.eq_false_iff]
    intro ends
    rcases Declaration.brackets_of_endsAt ends with ⟨front, rfl⟩
    exact unended (List.IsInfix.trans ⟨front, [], by simp⟩ early.isInfix)
  have opened : ('<' :: '!' :: sectionLetters).foldl step ⟨read, .text []⟩ =
      ⟨read, .declaration .section 0 sectionLetters.reverse⟩ := rfl
  rcases foldl_step_declaration read (by decide) goesOn with ⟨balance, collected⟩
  have closed : [']', ']', '>'].foldl step
      ⟨read, .declaration .section balance (inside.reverse ++ sectionLetters.reverse)⟩ =
      ⟨.section inside :: read, .text []⟩ := by
    simp [step, declaration, moveTo, emit, Declaration.endsAt, Declaration.token?_section]
  have parts : sectionMarkup inside = ('<' :: '!' :: sectionLetters) ++ inside ++ [']', ']', '>'] :=
    rfl
  rw [parts, List.foldl_append, List.foldl_append, opened, collected, closed]
  rfl

/-- A document type goes on as long as a `<` is open where a `>` stands. -/
theorem foldl_step_documentType {inside : List Char}
    (inOrder : ∀ front, front <+: inside → front.count '>' ≤ front.count '<') :
    inside.foldl step ⟨read, .declaration .documentType 0 []⟩ =
      ⟨read, .declaration .documentType (inside.count '<' - inside.count '>') inside.reverse⟩ := by
  induction inside using List.reverseRecOn with
  | nil => rfl
  | append_singleton front character induction =>
      have here := inOrder front (List.prefix_append front _)
      have next := inOrder (front ++ [character]) List.prefix_rfl
      rw [List.foldl_append, induction fun earlier early =>
        inOrder earlier (early.trans (List.prefix_append front _)), List.foldl_cons, List.foldl_nil]
      rw [List.count_append, List.count_append] at next ⊢
      by_cases closing : character = '>'
      · -- with this `>` closed there are no more of them than of `<`, so one was open in front of it
        subst closing
        have isOpen : front.count '>' + 1 ≤ front.count '<' := by simpa using next
        have balance : front.count '<' - front.count '>' ≠ 0 := by omega
        simp [step, declaration, moveTo, Declaration.endsAt, balance]
        omega
      · by_cases opening : character = '<'
        · subst opening
          simp [step, declaration, moveTo]
          omega
        · have none (mark : Char) (other : character ≠ mark) : [character].count mark = 0 :=
            List.count_eq_zero.mpr (by simpa using other.symm)
          rw [none '<' opening, none '>' closing]
          simp [step, declaration, moveTo, opening, closing]

theorem isCutInto_documentType {inside : List Char}
    (named : beginsWithLetters "DOCTYPE".toList inside = true)
    (told : (inside.drop 7).any (fun character => !isBlank character) = true)
    (closed : BracketsClosed inside) :
    IsCutInto (documentTypeMarkup inside) [.documentType] := by
  intro read
  have opened : ['<', '!'].foldl step ⟨read, .text []⟩ = ⟨read, .declared⟩ := rfl
  have begun : inside.foldl step ⟨read, .declared⟩ =
      inside.foldl step ⟨read, .declaration .documentType 0 []⟩ := by
    rcases exists_cons_of_beginsWithLetters named with ⟨first, rest, rfl, rfl | rfl⟩ <;> rfl
  have token : Declaration.documentType.token? inside = some .documentType := by
    rw [Declaration.token?, named, told]
    rfl
  have ended : ['>'].foldl step ⟨read, .declaration .documentType 0 inside.reverse⟩ =
      ⟨.documentType :: read, .text []⟩ := by
    simp [step, declaration, Declaration.endsAt, token, emit]
  have parts : documentTypeMarkup inside = ['<', '!'] ++ inside ++ ['>'] := rfl
  rw [parts, List.foldl_append, List.foldl_append, opened, begun,
    foldl_step_documentType read closed.inOrder, closed.closed, Nat.sub_self, ended]
  rfl

end Scanner

theorem SpellsOther.isCutInto {token : Token} {piece : List Char}
    (other : SpellsOther token piece) : IsCutInto piece [token] := by
  cases other with
  | comment unended => exact Scanner.isCutInto_comment unended
  | «section» unended => exact Scanner.isCutInto_section unended
  | instruction named unended => exact Scanner.isCutInto_instruction named unended
  | documentType named told closed => exact Scanner.isCutInto_documentType named told closed

/-- A prologue is cut into tokens that are passed over, and a text that goes on behind it. -/
theorem IsPrologue.exists_cut {prologue : List Char} (isPrologue : IsPrologue prologue)
    (read : List Token) (pending : List Char) :
    ∃ passed pending', prologue.foldl Scanner.step ⟨read, .text pending⟩ =
        ⟨passed ++ read, .text pending'⟩ ∧ ∀ token ∈ passed, token.IsPassed := by
  induction isPrologue generalizing read pending with
  | nil => exact ⟨[], pending, rfl, List.forall_mem_nil _⟩
  | @text character rest plain behind induction =>
      have taken : Scanner.step ⟨read, .text pending⟩ character =
          ⟨read, .text (character :: pending)⟩ := by
        simp [Scanner.step, plain, Scanner.moveTo]
      rw [List.foldl_cons, taken]
      exact induction read (character :: pending)
  | @markup token piece rest other behind induction =>
      rcases induction ([token] ++ (heldText pending ++ read)) [] with ⟨later, pending', cut, each⟩
      have cutPiece : piece.foldl Scanner.step ⟨read, .text pending⟩ =
          ⟨[token] ++ (heldText pending ++ read), .text []⟩ := by
        have cutHere := other.isCutInto (heldText pending ++ read)
        rcases other.exists_inner with ⟨inner, rfl⟩
        rw [Scanner.foldl_step_markup, cutHere]
        rfl
      refine ⟨later ++ token :: heldText pending, pending', ?_, ?_⟩
      · rw [List.foldl_append, cutPiece, cut]
        simp
      · intro passed member
        rcases List.mem_append.mp member with late | early
        · exact each passed late
        · rcases List.mem_cons.mp early with rfl | held
          · exact other.isPassed
          · exact isPassed_of_mem_heldText passed held

end ChangeTransport.Xml
