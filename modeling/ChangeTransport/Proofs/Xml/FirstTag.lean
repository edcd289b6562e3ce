import ChangeTransport.Proofs.Xml.Opening
import ChangeTransport.Proofs.Xml.Prologue

/-!
# The first tag of a document

The first tag of a document stands behind a prologue.  Both readers of a document come to it: the
one that looks for the name of the root element, and the one that builds that element.  What stands
in front of the tag has no bearing on either.
-/

namespace ChangeTransport.Xml

/-! ## Tags of elements -/

/-- A tag without the slash at its end, if there is one. -/
def withoutSlash (tag : List Char) : List Char :=
  match tag.reverse with
  | '/' :: before => before.reverse
  | _ => tag

/-- A text whose first tag of an element, behind a prologue, is the given one. -/
def FirstTag (characters tag behind : List Char) : Prop :=
  IsElementTag tag ∧
    ∃ prologue, IsPrologue prologue ∧ characters = prologue ++ '<' :: (tag ++ '>' :: behind)

theorem FirstTag.append {characters tag behind : List Char}
    (first : FirstTag characters tag behind) (later : List Char) :
    FirstTag (characters ++ later) tag (behind ++ later) := by
  rcases first with ⟨isTag, prologue, isPrologue, rfl⟩
  exact ⟨isTag, prologue, isPrologue, by simp⟩

theorem Opening.ofTokens_ofTag (tag : List Char) (rest : List Token) :
    Opening.ofTokens (Token.ofTag tag.reverse :: rest) = .element (withoutSlash tag) := by
  rcases List.eq_nil_or_concat tag with rfl | ⟨front, last, rfl⟩
  · rfl
  · rw [List.concat_eq_append]
    by_cases slash : last = '/'
    · subst slash
      simp [Token.ofTag, withoutSlash, ofTokens]
    · simp [Token.ofTag, withoutSlash, ofTokens, slash]

/-! ## What is complete with the first tag -/

theorem IsPrologue.withoutMark {prologue : List Char} (isPrologue : IsPrologue prologue) :
    IsPrologue (Xml.withoutMark prologue) := by
  cases isPrologue with
  | nil => exact .nil
  | @text character rest plain behind =>
      unfold Xml.withoutMark
      split
      · next split =>
          cases split
          exact behind
      · exact .text plain behind
  | @markup token piece rest other behind =>
      rcases other.exists_inner with ⟨inner, rfl⟩
      exact .markup other behind

theorem IsPrologue.exists_scan {prologue : List Char} (isPrologue : IsPrologue prologue) :
    ∃ passed pending, scan prologue = ⟨passed, .text pending⟩ ∧
      ∀ token ∈ passed, token.IsPassed := by
  rcases isPrologue.withoutMark.exists_cut [] [] with ⟨passed, pending, cut, each⟩
  rw [List.append_nil] at cut
  exact ⟨passed, pending, cut, each⟩

/-- The tokens of a text that begins with a tag. -/
theorem completeTokens_of_isElementTag {tag : List Char} (isTag : IsElementTag tag)
    (behind : List Char) :
    completeTokens ('<' :: (tag ++ '>' :: behind)) =
      .ofTag tag.reverse :: tokensBehind behind := by
  have parts : '<' :: (tag ++ '>' :: behind) = '<' :: (tag ++ ['>']) ++ behind := by simp
  have here : scan [] = ⟨[], .text []⟩ := rfl
  have cut := completeTokens_of_markup here (tag ++ '>' :: behind)
  rw [List.nil_append] at cut
  rw [cut, parts, tokensBehind_of_isCutInto isTag.isCutInto]
  rfl

/-- In front of the tokens from the first tag on stand such that are passed over. -/
theorem FirstTag.exists_completeTokens {characters tag behind : List Char}
    (first : FirstTag characters tag behind) :
    ∃ passed, (∀ token ∈ passed, token.IsPassed) ∧
      completeTokens characters =
        passed ++ completeTokens ('<' :: (tag ++ '>' :: behind)) := by
  rcases first with ⟨isTag, prologue, isPrologue, rfl⟩
  rcases isPrologue.exists_scan with ⟨passed, pending, here, each⟩
  refine ⟨(heldText pending ++ passed).reverse, ?_, ?_⟩
  · intro token member
    rcases List.mem_append.mp (List.mem_reverse.mp member) with held | early
    · exact isPassed_of_mem_heldText token held
    · exact each token early
  · have parts : '<' :: (tag ++ '>' :: behind) = '<' :: (tag ++ ['>']) ++ behind := by simp
    rw [completeTokens_of_markup here, completeTokens_of_isElementTag isTag, parts,
      tokensBehind_of_isCutInto isTag.isCutInto]
    rfl

/-! ## The two readers -/

namespace Opening

theorem ofTokens_of_isPassed {passed : List Token}
    (each : ∀ token ∈ passed, token.IsPassed) : ofTokens passed = .nothing := by
  induction passed with
  | nil => rfl
  | cons token others induction =>
      rcases List.forall_mem_cons.mp each with ⟨here, later⟩
      cases here <;> exact induction later

/-- Tokens with which nothing opens have no bearing on what stands behind them. -/
theorem ofTokens_append_of_nothing {front : List Token} (nothing : ofTokens front = .nothing)
    (rest : List Token) : ofTokens (front ++ rest) = ofTokens rest := by
  induction front with
  | nil => rfl
  | cons token others induction =>
      cases token with
      | startTag tag => cases nothing
      | emptyTag tag => cases nothing
      | endTag name => cases nothing
      | broken => cases nothing
      | _ => exact induction nothing

/-- With what a document opens does not depend on what stands behind that. -/
theorem ofTokens_append {front : List Token} (opens : ofTokens front ≠ .nothing)
    (rest : List Token) : ofTokens (front ++ rest) = ofTokens front := by
  induction front with
  | nil => exact absurd rfl opens
  | cons token others induction =>
      cases token with
      | startTag tag => rfl
      | emptyTag tag => rfl
      | endTag name => rfl
      | broken => rfl
      | _ => exact induction opens

end Opening

/-- The first tag of a text is the one whose name is looked at. -/
theorem FirstTag.opening {characters tag behind : List Char}
    (first : FirstTag characters tag behind) :
    Opening.ofTokens (tokens characters) = .element (withoutSlash tag) := by
  rcases first.exists_completeTokens with ⟨passed, each, complete⟩
  rcases (scan characters).finish_eq with ⟨rest, finished, -⟩
  have opens : Opening.ofTokens (completeTokens characters) = .element (withoutSlash tag) := by
    rw [complete, Opening.ofTokens_append_of_nothing (Opening.ofTokens_of_isPassed each),
      completeTokens_of_isElementTag first.1, Opening.ofTokens_ofTag]
  have nonempty : Opening.ofTokens (completeTokens characters) ≠ .nothing := by
    rw [opens]
    exact Opening.noConfusion
  have whole : tokens characters = completeTokens characters ++ rest := by
    rw [tokens_eq_finish_scan, finished]
    rfl
  rw [whole, Opening.ofTokens_append nonempty, opens]

namespace Builder

/-- Tokens in which no element is looked for do not begin one. -/
theorem foldl_step_of_isPassed {passed : List Token} (each : ∀ token ∈ passed, token.IsPassed) :
    passed.foldl step .before = .before ∨ passed.foldl step .before = .stopped := by
  induction passed with
  | nil => exact .inl rfl
  | cons token others induction =>
      rcases List.forall_mem_cons.mp each with ⟨here, later⟩
      have taken : step .before token = .before ∨ step .before token = .stopped := by
        cases here with
        | text raw =>
            rw [step]
            split
            · exact .inl rfl
            · exact .inr rfl
        | «section» characters => exact .inr rfl
        | documentType => exact .inl rfl
        | aside => exact .inl rfl
      rw [List.foldl_cons]
      rcases taken with still | stops
      · rw [still]
        exact induction later
      · rw [stops]
        exact .inr (foldl_stopped others)

end Builder

/-- The root element of a text is the one that begins with its first tag. -/
theorem FirstTag.ofTokens? {characters tag behind : List Char}
    (first : FirstTag characters tag behind) {root : Element}
    (whole : Element.ofTokens? (tokens characters) = some root) :
    Element.ofTokens? (tokens ('<' :: (tag ++ '>' :: behind))) = some root := by
  rcases first.exists_completeTokens with ⟨passed, each, complete⟩
  rw [Element.ofTokens?_tokens, Element.ofTokens?_eq_some_iff, complete,
    List.foldl_append] at whole
  rw [Element.ofTokens?_tokens, Element.ofTokens?_eq_some_iff]
  rcases Builder.foldl_step_of_isPassed each with still | stops
  · rwa [still] at whole
  · rw [stops, Builder.foldl_stopped] at whole
    cases whole

end ChangeTransport.Xml
