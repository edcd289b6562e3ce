import ChangeTransport.Proofs.Xml.FirstTag

/-!
# How far the tokens of a text have come

Until a tag has been read, the scanner stands in a prologue or in one piece of markup behind it, and
what it has collected is that piece.  So whatever opens a document is its first tag: the markup that
is complete in front of it is a comment, a section, an instruction or a document type.
-/

namespace ChangeTransport.Xml

/-! ## Markup that has begun -/

/-- Characters in which the given quote is open, or none; no `>` stands outside the quotes. -/
inductive OpensTag : Option Char → List Char → Prop
  | outside {inside : List Char} (closed : QuotesClosed inside) : OpensTag none inside
  | within {front quoted : List Char} {mark : Char} (closed : QuotesClosed front)
      (quote : mark = '\'' ∨ mark = '"') (unquoted : mark ∉ quoted) :
      OpensTag (some mark) (front ++ mark :: quoted)

/--
Characters behind `<!` with which a declaration has not ended: in a document type every `>` has
closed a bracket, and in the others none has met the end of their kind.
-/
inductive Declaration.IsOpen : Declaration → Nat → List Char → Prop
  | documentType {balance : Nat} {inside : List Char}
      (nested : inside.count '<' = balance + inside.count '>')
      (inOrder : ∀ front, front <+: inside → front.count '>' ≤ front.count '<') :
      IsOpen .documentType balance inside
  | other {kind : Declaration} {balance : Nat} {inside : List Char} (plain : kind ≠ .documentType)
      (unended : ∀ earlier, earlier ++ ['>'] <+: inside → kind.endsAt 0 earlier.reverse = false) :
      IsOpen kind balance inside

namespace Declaration

variable {kind : Declaration} {balance : Nat} {inside : List Char}

theorem isOpen_nil (kind : Declaration) : kind.IsOpen 0 [] := by
  by_cases nested : kind = .documentType
  · subst nested
    refine .documentType rfl ?_
    intro front early
    rw [List.prefix_nil.mp early]
    exact le_rfl
  · refine .other nested ?_
    intro earlier early
    cases List.append_eq_nil_iff.mp (List.prefix_nil.mp early) with
    | intro _ impossible => cases impossible

/-- A declaration stays open with every character but the `>` that ends it. -/
theorem IsOpen.append_singleton (isOpen : kind.IsOpen balance inside) {character : Char}
    (goesOn : character = '>' → kind.endsAt balance inside.reverse = false) :
    kind.IsOpen
      (if character = '>' then balance - 1
        else if character = '<' then balance + 1 else balance)
      (inside ++ [character]) := by
  cases isOpen with
  | documentType nested inOrder =>
      have next : (inside ++ [character]).count '<' =
          (if character = '>' then balance - 1
            else if character = '<' then balance + 1 else balance) +
            (inside ++ [character]).count '>' := by
        rw [List.count_append, List.count_append, List.count_singleton, List.count_singleton]
        by_cases closing : character = '>'
        · -- a `>` with no open bracket would have been the end, so this one closes a bracket
          have still := goesOn closing
          have unbalanced : balance ≠ 0 := by simpa [endsAt] using still
          subst closing
          simp
          omega
        · by_cases opening : character = '<'
          · subst opening
            simp
            omega
          · simpa [closing, opening] using nested
      refine .documentType next ?_
      intro front early
      rcases List.prefix_concat_iff.mp early with rfl | earlier
      · omega
      · exact inOrder front earlier
  | other plain unended =>
      refine .other plain ?_
      intro earlier early
      rcases List.prefix_concat_iff.mp early with whole | before
      · rcases List.append_inj' whole rfl with ⟨rfl, closing⟩
        rw [← endsAt_of_ne plain balance]
        exact goesOn (List.cons.inj closing).1.symm
      · exact unended earlier before

section Ends

variable {token : Token}

theorem spellsOther_documentType (nested : inside.count '<' = balance + inside.count '>')
    (inOrder : ∀ front, front <+: inside → front.count '>' ≤ front.count '<')
    (ends : documentType.endsAt balance inside.reverse = true)
    (told : documentType.token? inside = some token) :
    SpellsOther token (documentTypeMarkup inside) := by
  have balanced : balance = 0 := by simpa [endsAt] using ends
  rw [balanced, Nat.zero_add] at nested
  unfold token? at told
  dsimp only at told
  split at told
  · next both =>
      cases told
      rw [Bool.and_eq_true] at both
      exact .documentType both.1 both.2 ⟨nested, inOrder⟩
  · cases told

theorem spellsOther_comment
    (unended : ∀ earlier, earlier ++ ['>'] <+: inside → comment.endsAt 0 earlier.reverse = false)
    (ends : comment.endsAt balance inside.reverse = true)
    (told : comment.token? inside = some token) :
    SpellsOther token ('<' :: '!' :: (inside ++ ['>'])) := by
  unfold token? at told
  dsimp only at told
  split at told
  · next named =>
      cases told
      rcases List.isPrefixOf_iff_prefix.mp named with ⟨rest, rfl⟩
      rw [List.reverse_append] at ends
      rcases hyphens_of_endsAt ends with ⟨middle, rfl⟩
      have spelled : SpellsOther .aside (commentMarkup middle) := by
        refine .comment ?_
        rintro ⟨front, behind, rfl⟩
        have here := unended (['-', '-'] ++ (front ++ ['-', '-'])) ⟨behind ++ ['-', '-'], by simp⟩
        simp [endsAt] at here
      simpa [commentMarkup] using spelled
  · cases told

theorem spellsOther_section
    (unended : ∀ earlier, earlier ++ ['>'] <+: inside → section.endsAt 0 earlier.reverse = false)
    (ends : section.endsAt balance inside.reverse = true)
    (told : section.token? inside = some token) :
    SpellsOther token ('<' :: '!' :: (inside ++ ['>'])) := by
  have named : sectionLetters <+: inside := by
    unfold token? at told
    dsimp only at told
    split at told
    · next named => exact List.isPrefixOf_iff_prefix.mp named
    · cases told
  rcases named with ⟨rest, rfl⟩
  rw [List.reverse_append] at ends
  rcases brackets_of_endsAt ends with ⟨middle, rfl⟩
  rw [token?_section] at told
  cases told
  have spelled : SpellsOther (.section middle) (sectionMarkup middle) := by
    refine .section ?_
    rintro ⟨front, behind, rfl⟩
    have here := unended (sectionLetters ++ (front ++ [']', ']'])) ⟨behind ++ [']', ']'], by simp⟩
    rw [List.reverse_append, List.reverse_append] at here
    cases here
  rwa [List.append_assoc, List.append_assoc, ← List.append_assoc]

/-- A declaration that ends with a token is markup without elements. -/
theorem IsOpen.spellsOther (isOpen : kind.IsOpen balance inside)
    (ends : kind.endsAt balance inside.reverse = true) (told : kind.token? inside = some token) :
    SpellsOther token ('<' :: '!' :: (inside ++ ['>'])) := by
  cases isOpen with
  | documentType nested inOrder => exact spellsOther_documentType nested inOrder ends told
  | other plain unended =>
      cases kind with
      | documentType => exact absurd rfl plain
      | comment => exact spellsOther_comment unended ends told
      | «section» => exact spellsOther_section unended ends told

end Ends

end Declaration

/-- An instruction does not end with a `>` unless a `?` stands in front of it. -/
theorem not_infix_append_singleton {inside : List Char} (unended : ¬ ['?', '>'] <:+: inside)
    {character : Char} (goesOn : character = '>' → inside.getLast? ≠ some '?') :
    ¬ ['?', '>'] <:+: inside ++ [character] := by
  rw [List.infix_concat_iff, not_or]
  refine ⟨?_, unended⟩
  rintro ⟨earlier, ends⟩
  have parts : earlier ++ ['?'] ++ ['>'] = inside ++ [character] := by simpa using ends
  rcases List.append_inj' parts rfl with ⟨rfl, closing⟩
  exact goesOn (List.cons.inj closing).1.symm (by simp)

/-! ## Places in front of the first tag -/

/-- Where the scanner stands behind characters in which it has met no tag. -/
inductive Reaches : List Char → Place → Prop
  | text {front : List Char} (isPrologue : IsPrologue front) (pending : List Char) :
      Reaches front (.text pending)
  | opened {front : List Char} (isPrologue : IsPrologue front) : Reaches (front ++ ['<']) .opened
  | tag {front inside : List Char} {quote : Option Char} (isPrologue : IsPrologue front)
      (nonempty : inside ≠ []) (begins : ∀ first ∈ inside.head?, first ∉ ['/', '!', '?'])
      (opens : OpensTag quote inside) :
      Reaches (front ++ '<' :: inside) (.tag false quote inside.reverse)
  | endTag (front : List Char) (quote : Option Char) (inside : List Char) :
      Reaches front (.tag true quote inside)
  | declared {front : List Char} (isPrologue : IsPrologue front) :
      Reaches (front ++ ['<', '!']) .declared
  | declaration {front inside : List Char} {kind : Declaration} {balance : Nat}
      (isPrologue : IsPrologue front) (isOpen : kind.IsOpen balance inside) :
      Reaches (front ++ '<' :: '!' :: inside) (.declaration kind balance inside.reverse)
  | instruction {front inside : List Char} (isPrologue : IsPrologue front)
      (named : inside.head? ≠ some '>') (unended : ¬ ['?', '>'] <:+: inside) :
      Reaches (front ++ '<' :: '?' :: inside) (.instruction inside.reverse)

/-- How far a scan has come: to no tag, to the first tag or beyond it, or to a fault. -/
inductive Course (characters : List Char) : Scanner → Prop
  | before {read : List Token} {place : Place} (nothing : Opening.ofTokens read.reverse = .nothing)
      (reaches : Reaches characters place) : Course characters ⟨read, place⟩
  | begun {tag behind : List Char} (first : FirstTag characters tag behind) (scanner : Scanner) :
      Course characters scanner
  | faulty {scanner : Scanner} (broken : Opening.ofTokens scanner.before.reverse = .broken) :
      Course characters scanner

namespace Course

variable {read : List Token} (nothing : Opening.ofTokens read.reverse = .nothing)

include nothing

/-- A token that is passed over leaves a prologue behind. -/
theorem passed {characters : List Char} {token : Token} (isPassed : token.IsPassed)
    {place : Place} (reaches : Reaches characters place) :
    Course characters ⟨token :: read, place⟩ := by
  refine .before ?_ reaches
  rw [List.reverse_cons, Opening.ofTokens_append_of_nothing nothing]
  cases isPassed <;> rfl

/-- An end tag or broken markup in front of every tag of an element is a fault. -/
theorem refused (characters : List Char) (token : Token)
    (breaks : Opening.ofTokens [token] = .broken) (place : Place) :
    Course characters ⟨token :: read, place⟩ := by
  refine .faulty ?_
  rw [List.reverse_cons, Opening.ofTokens_append_of_nothing nothing, breaks]

/-- One more character of a tag. -/
theorem tag {front inside : List Char} {quote : Option Char} (isPrologue : IsPrologue front)
    (opens : OpensTag quote inside) {character : Char}
    (begins : ∀ first ∈ (inside ++ [character]).head?, first ∉ ['/', '!', '?']) (place : Place) :
    Course (front ++ '<' :: (inside ++ [character]))
      (Scanner.tag ⟨read, place⟩ false quote inside.reverse character) := by
  have next {quote : Option Char} (opens : OpensTag quote (inside ++ [character])) :
      Course (front ++ '<' :: (inside ++ [character]))
        ⟨read, .tag false quote (character :: inside.reverse)⟩ := by
    have reaches := Reaches.tag isPrologue (by simp) begins opens
    rw [List.reverse_append] at reaches
    exact .before nothing reaches
  cases opens with
  | outside closed =>
      by_cases closing : character = '>'
      · subst closing
        have isTag : IsElementTag inside := by
          refine ⟨closed, fun first member => begins first ?_⟩
          cases inside with
          | nil => cases member
          | cons head rest => exact member
        -- outside quotes the tag ends here, with nothing behind it yet
        exact .begun ⟨isTag, front, isPrologue, rfl⟩ _
      · by_cases quote : character = '\'' ∨ character = '"'
        · have within : OpensTag (some character) (inside ++ [character]) :=
            .within closed quote List.not_mem_nil
          simpa [Scanner.tag, closing, quote, Scanner.moveTo] using next within
        · have others := not_or.mp quote
          have outside : OpensTag none (inside ++ [character]) :=
            .outside (closed.append (.outside ⟨closing, others⟩ .nil))
          simpa [Scanner.tag, closing, quote, Scanner.moveTo] using next outside
  | @within front' quoted mark closed quote unquoted =>
      by_cases shut : character = mark
      · subst shut
        have outside : OpensTag none (front' ++ character :: quoted ++ [character]) := by
          have whole := closed.append (.quoted quote unquoted .nil)
          simp only [List.append_assoc, List.cons_append] at whole ⊢
          exact .outside whole
        simpa [Scanner.tag, Scanner.moveTo] using next outside
      · have within : OpensTag (some mark) (front' ++ mark :: quoted ++ [character]) := by
          rw [List.append_assoc, List.cons_append]
          exact .within closed quote (by simpa using ⟨unquoted, Ne.symm shut⟩)
        simpa [Scanner.tag, shut, Scanner.moveTo] using next within

/-- One more character of a declaration. -/
theorem declaration {front inside : List Char} {kind : Declaration} {balance : Nat}
    (isPrologue : IsPrologue front) (isOpen : kind.IsOpen balance inside) (character : Char)
    (place : Place) :
    Course (front ++ '<' :: '!' :: (inside ++ [character]))
      (Scanner.declaration ⟨read, place⟩ kind balance inside.reverse character) := by
  have next (goesOn : character = '>' → kind.endsAt balance inside.reverse = false) :
      Course (front ++ '<' :: '!' :: (inside ++ [character]))
        ⟨read, .declaration kind
          (if character = '>' then balance - 1
            else if character = '<' then balance + 1 else balance)
          (character :: inside.reverse)⟩ := by
    have reaches := Reaches.declaration isPrologue (isOpen.append_singleton goesOn)
    rw [List.reverse_append] at reaches
    exact .before nothing reaches
  by_cases closing : character = '>'
  · subst closing
    cases ends : kind.endsAt balance inside.reverse with
    | false => simpa [Scanner.declaration, ends, Scanner.moveTo] using next fun _ => ends
    | true =>
        -- what ends as its kind demands is passed over, and what does not is a fault
        cases told : kind.token? inside with
        | none =>
            simpa [Scanner.declaration, ends, told, Scanner.stop] using
              refused nothing _ .broken rfl .stopped
        | some token =>
            have spelled := isOpen.spellsOther ends told
            simpa [Scanner.declaration, ends, told, Scanner.emit] using
              passed nothing spelled.isPassed (.text (isPrologue.append spelled.isPrologue) [])
  · simpa [Scanner.declaration, closing, Scanner.moveTo] using
      next fun impossible => absurd impossible closing

/-- One more character of an instruction. -/
theorem instruction {front inside : List Char} (isPrologue : IsPrologue front)
    (named : inside.head? ≠ some '>') (unended : ¬ ['?', '>'] <:+: inside) (character : Char) :
    Course (front ++ '<' :: '?' :: (inside ++ [character]))
      (Scanner.step ⟨read, .instruction inside.reverse⟩ character) := by
  have next (goesOn : character = '>' → inside ≠ [] ∧ inside.getLast? ≠ some '?') :
      Course (front ++ '<' :: '?' :: (inside ++ [character]))
        ⟨read, .instruction (character :: inside.reverse)⟩ := by
    have namedNext : (inside ++ [character]).head? ≠ some '>' := by
      cases inside with
      | nil => exact fun impossible => (goesOn (Option.some.inj impossible)).1 rfl
      | cons first rest => exact named
    have reaches := Reaches.instruction isPrologue namedNext
      (not_infix_append_singleton unended fun closing => (goesOn closing).2)
    rw [List.reverse_append] at reaches
    exact .before nothing reaches
  by_cases closing : character = '>'
  · subst closing
    rcases List.eq_nil_or_concat inside with rfl | ⟨earlier, last, rfl⟩
    · exact refused nothing _ .broken rfl .stopped
    · rw [List.concat_eq_append] at *
      by_cases mark : last = '?'
      · subst mark
        have namedBefore : earlier.head? ≠ some '>' := by
          cases earlier with
          | nil => simp
          | cons first rest => exact named
        have spelled : SpellsOther .aside (instructionMarkup earlier) :=
          .instruction namedBefore fun inner =>
            unended (inner.trans (List.prefix_append earlier _).isInfix)
        have ended := passed nothing spelled.isPassed
          (.text (isPrologue.append spelled.isPrologue) [])
        simpa [Scanner.step, Scanner.emit, instructionMarkup] using ended
      · have going := next fun _ => ⟨by simp, by simpa using mark⟩
        simpa [Scanner.step, mark, Scanner.moveTo] using going
  · have going := next fun impossible => absurd impossible closing
    simpa [Scanner.step, closing, Scanner.moveTo] using going

/-- One more character of an end tag. -/
theorem endTag (characters : List Char) (quote : Option Char) (inside : List Char)
    (character : Char) (place : Place) :
    Course characters (Scanner.tag ⟨read, place⟩ true quote inside character) := by
  have breaks : Opening.ofTokens [Token.ofEndTag inside] = .broken := by
    unfold Token.ofEndTag
    split <;> rfl
  unfold Scanner.tag
  split
  · exact .before nothing (.endTag _ _ _)
  · split
    · exact refused nothing _ _ breaks _
    · split <;> exact .before nothing (.endTag _ _ _)

/-- The character behind `<!`. -/
theorem declared {front : List Char} (isPrologue : IsPrologue front) (character : Char) :
    Course (front ++ ['<', '!', character]) (Scanner.step ⟨read, .declared⟩ character) := by
  have begun (kind : Declaration) (plain : character ≠ '<' ∧ character ≠ '>') :
      Course (front ++ ['<', '!', character]) ⟨read, .declaration kind 0 [character]⟩ := by
    have isOpen := kind.isOpen_nil.append_singleton fun closing => absurd closing plain.2
    rw [if_neg plain.2, if_neg plain.1] at isOpen
    exact .before nothing (.declaration isPrologue isOpen)
  by_cases hyphen : character = '-'
  · subst hyphen
    exact begun .comment (by decide)
  · by_cases bracket : character = '['
    · subst bracket
      exact begun .section (by decide)
    · by_cases letter : character = 'D' ∨ character = 'd'
      · rcases letter with rfl | rfl <;> exact begun .documentType (by decide)
      · simpa [Scanner.step, hyphen, bracket, letter, Scanner.stop] using
          refused nothing (front ++ ['<', '!', character]) .broken rfl .stopped

/--
One more character in front of the first tag.  By the place, it goes on with the markup that has
begun, ends it, or begins another one; only a `>` behind the tag of an element begins a document.
-/
theorem step_of_reaches {characters : List Char} {place : Place}
    (reaches : Reaches characters place) (character : Char) :
    Course (characters ++ [character]) (Scanner.step ⟨read, place⟩ character) := by
  cases reaches with
  | text isPrologue pending =>
      by_cases opening : character = '<'
      · subst opening
        have opened : Scanner.step ⟨read, .text pending⟩ '<' =
            ⟨heldText pending ++ read, .opened⟩ := by
          cases pending <;> rfl
        rw [opened]
        refine .before ?_ (.opened isPrologue)
        rw [List.reverse_append, Opening.ofTokens_append_of_nothing nothing]
        refine Opening.ofTokens_of_isPassed fun token member => ?_
        exact isPassed_of_mem_heldText token (List.mem_reverse.mp member)
      · have further := isPrologue.append (.text opening .nil)
        simpa [Scanner.step, opening, Scanner.moveTo] using
          Course.before nothing (.text further (character :: pending))
  | @opened front isPrologue =>
      by_cases other : character ∈ ['/', '!', '?']
      · have known : character = '/' ∨ character = '!' ∨ character = '?' := by simpa using other
        rcases known with rfl | rfl | rfl
        · exact .before nothing (.endTag _ none [])
        · rw [List.append_assoc]
          exact .before nothing (.declared isPrologue)
        · rw [List.append_assoc]
          have begun : Reaches (front ++ ['<', '?']) (.instruction ([] : List Char).reverse) :=
            .instruction isPrologue (by simp) (by simp)
          exact .before nothing begun
      · rw [Scanner.step_opened read other, List.append_assoc]
        exact Course.tag nothing isPrologue (.outside .nil) (by simpa using other) _
  | @tag front inside quote isPrologue nonempty begins opens =>
      rw [List.append_assoc, List.cons_append]
      refine Course.tag nothing isPrologue opens ?_ _
      cases inside with
      | nil => exact absurd rfl nonempty
      | cons first rest => exact begins
  | endTag front quote inside => exact endTag nothing _ quote inside character _
  | declared isPrologue =>
      rw [List.append_assoc]
      exact declared nothing isPrologue character
  | declaration isPrologue isOpen =>
      rw [List.append_assoc]
      exact declaration nothing isPrologue isOpen character _
  | instruction isPrologue named unended =>
      rw [List.append_assoc]
      exact instruction nothing isPrologue named unended character

end Course

/-- What one more character changes. -/
theorem Course.step {characters : List Char} {scanner : Scanner}
    (course : Course characters scanner) (character : Char) :
    Course (characters ++ [character]) (scanner.step character) := by
  cases course with
  | before nothing reaches => exact step_of_reaches nothing reaches character
  | begun first => exact .begun (first.append [character]) _
  | faulty broken =>
      refine .faulty ?_
      rcases scanner.step_before character with same | ⟨token, more, -⟩
      · rw [same, broken]
      · have opens : Opening.ofTokens scanner.before.reverse ≠ .nothing := by
          rw [broken]
          exact Opening.noConfusion
        rw [more, List.reverse_cons, Opening.ofTokens_append opens, broken]

end ChangeTransport.Xml
