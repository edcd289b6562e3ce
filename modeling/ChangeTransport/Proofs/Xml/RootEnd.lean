import Mathlib.Data.List.Induction
import ChangeTransport.Proofs.Text.Utf8
import ChangeTransport.Proofs.Xml.Record

/-!
# Where the root element ends

A tag is complete with its `>`, and what is complete stays so whatever stands behind it.  So there is
one place at which the root element of a document becomes whole: the `>` of its end tag, or of its
only tag.  Nothing in front of that place is a whole document.
-/

namespace ChangeTransport.Xml

/-! ## Complete tokens -/

/-- A token that is no tag and no aside: a text, or what has no end. -/
def Token.Loose (token : Token) : Prop :=
  token = .broken ∨ ∃ raw, token = .text raw

namespace Scanner

variable (scanner : Scanner) (character : Char)

theorem tag_before (isEnd : Bool) (quote : Option Char) (read : List Char) :
    (scanner.tag isEnd quote read character).before = scanner.before ∨
      ∃ token, (scanner.tag isEnd quote read character).before = token :: scanner.before ∧
        (character = '>' ∨ token.Loose) := by
  unfold tag
  split
  · exact .inl rfl
  · split
    · next closing => exact .inr ⟨_, rfl, .inl closing⟩
    · split <;> exact .inl rfl

theorem declaration_before (kind : Declaration) (balance : Nat) (read : List Char) :
    (scanner.declaration kind balance read character).before = scanner.before ∨
      ∃ token, (scanner.declaration kind balance read character).before =
        token :: scanner.before ∧ (character = '>' ∨ token.Loose) := by
  unfold declaration
  split
  · next closing =>
      split
      · split <;> exact .inr ⟨_, rfl, .inl closing⟩
      · exact .inl rfl
  · exact .inl rfl

/-- A character completes at most one token, and no tag unless it is `>`. -/
theorem step_before :
    (scanner.step character).before = scanner.before ∨
      ∃ token, (scanner.step character).before = token :: scanner.before ∧
        (character = '>' ∨ token.Loose) := by
  unfold step
  split
  · split
    · split
      · exact .inl rfl
      · exact .inr ⟨_, rfl, .inr (.inr ⟨_, rfl⟩)⟩
    · exact .inl rfl
  · split
    · exact .inl rfl
    · split
      · exact .inl rfl
      · split
        · exact .inl rfl
        · exact scanner.tag_before character false none []
  · exact scanner.tag_before character _ _ _
  · split
    · exact .inl rfl
    · split
      · exact .inl rfl
      · split
        · exact .inl rfl
        · exact .inr ⟨.broken, rfl, .inr (.inl rfl)⟩
  · exact scanner.declaration_before character _ _ _
  · split
    · next closing =>
        split
        · exact .inr ⟨.broken, rfl, .inl closing⟩
        · exact .inr ⟨.aside, rfl, .inl closing⟩
        · exact .inl rfl
    · exact .inl rfl
  · exact .inl rfl

/-- Complete tokens stay complete. -/
theorem foldl_step_before (characters : List Char) :
    ∃ later, (characters.foldl step scanner).before = later ++ scanner.before := by
  induction characters generalizing scanner with
  | nil => exact ⟨[], rfl⟩
  | cons character characters induction =>
      rcases induction (scanner.step character) with ⟨later, course⟩
      rw [List.foldl_cons, course]
      rcases scanner.step_before character with same | ⟨token, more, -⟩
      · exact ⟨later, by rw [same]⟩
      · exact ⟨later ++ [token], by rw [more, List.append_assoc, List.singleton_append]⟩

/-- The end of a document completes at most one token, and no tag. -/
theorem finish_eq :
    ∃ rest, scanner.finish = scanner.before.reverse ++ rest ∧ ∀ token ∈ rest, token.Loose := by
  unfold finish
  split
  · exact ⟨[], by rw [List.append_nil], by simp⟩
  · next read _ _ =>
      refine ⟨[.text read.reverse], List.reverse_cons, ?_⟩
      intro token member
      exact .inr ⟨_, List.mem_singleton.mp member⟩
  · exact ⟨[], by rw [List.append_nil], by simp⟩
  · refine ⟨[.broken], List.reverse_cons, ?_⟩
    intro token member
    exact .inl (List.mem_singleton.mp member)

end Scanner

/-- The characters of a document behind a byte order mark. -/
def withoutMark : List Char → List Char
  | '\uFEFF' :: rest => rest
  | characters => characters

/-- The scanner behind the characters of a document. -/
def scan (characters : List Char) : Scanner :=
  (withoutMark characters).foldl Scanner.step .start

/-- The tokens that are complete with the characters of a document. -/
def completeTokens (characters : List Char) : List Token :=
  (scan characters).before.reverse

theorem tokens_eq_finish_scan (characters : List Char) :
    tokens characters = (scan characters).finish := by
  cases characters with
  | nil => rfl
  | cons first rest =>
      by_cases mark : first = '\uFEFF'
      · subst mark
        rfl
      · simp [tokens, scan, withoutMark, mark]

theorem scan_append
    {front : List Char} (nonempty : front ≠ []) (behind : List Char) :
    scan (front ++ behind) = behind.foldl Scanner.step (scan front) := by
  cases front with
  | nil => exact absurd rfl nonempty
  | cons first front =>
      unfold scan
      rw [← List.foldl_append]
      congr 1
      by_cases mark : first = '\uFEFF'
      · subst mark
        rfl
      · simp [withoutMark, mark]

/-- What is complete is complete in front of whatever stands behind it. -/
theorem completeTokens_append (front behind : List Char) :
    ∃ later, completeTokens (front ++ behind) = completeTokens front ++ later := by
  by_cases nonempty : front = []
  · subst nonempty
    exact ⟨completeTokens behind, rfl⟩
  · rcases (scan front).foldl_step_before behind with ⟨later, course⟩
    refine ⟨later.reverse, ?_⟩
    unfold completeTokens
    rw [scan_append nonempty, course, List.reverse_append]

/-- One more character completes at most one more token, and no tag unless it is `>`. -/
theorem completeTokens_concat (front : List Char) (character : Char) :
    completeTokens (front ++ [character]) = completeTokens front ∨
      ∃ token, completeTokens (front ++ [character]) = completeTokens front ++ [token] ∧
        (character = '>' ∨ token.Loose) := by
  by_cases nonempty : front = []
  · subst nonempty
    left
    by_cases mark : character = '\uFEFF'
    · subst mark
      rfl
    · by_cases opens : character = '<' <;>
        simp [completeTokens, scan, withoutMark, mark, Scanner.step, Scanner.start,
          Scanner.moveTo, opens]
  · unfold completeTokens
    rw [scan_append nonempty, List.foldl_cons, List.foldl_nil]
    rcases (scan front).step_before character with same | ⟨token, more, known⟩
    · exact .inl (by rw [same])
    · exact .inr ⟨token, by rw [more, List.reverse_cons], known⟩

/-! ## Whole elements -/

theorem Element.ofTokens?_eq_some_iff {tokens : List Token} {root : Element} :
    Element.ofTokens? tokens = some root ↔ tokens.foldl Builder.step .before = .whole root := by
  unfold ofTokens?
  split
  · next whole => simp [whole]
  · next others =>
      constructor
      · intro impossible
        cases impossible
      · intro whole
        exact absurd whole (others root)

theorem Builder.foldl_whole (root : Element) (tokens : List Token) :
    tokens.foldl Builder.step (.whole root) = .whole root := by
  induction tokens with
  | nil => rfl
  | cons token tokens induction => exact induction

theorem Builder.foldl_stopped (tokens : List Token) :
    tokens.foldl Builder.step .stopped = .stopped := by
  induction tokens with
  | nil => rfl
  | cons token tokens induction => exact induction

/-- An element becomes whole with its end tag, or with its only tag. -/
theorem Builder.token_of_step_eq_whole
    {builder : Builder} {token : Token} {root : Element}
    (whole : builder.step token = .whole root) :
    builder = .whole root ∨ token = .endTag (tagName root.tag) ∨ token = .emptyTag root.tag := by
  unfold step at whole
  split at whole
  · split at whole <;> cases whole
  · cases whole
  · cases whole
    exact .inr (.inr rfl)
  · cases whole
  · cases whole
  · cases whole
  · cases whole
  · cases whole
  · cases whole
  · cases whole
  · next frame outer name =>
      split at whole
      · next same =>
          cases outer with
          | nil =>
              cases whole
              exact .inr (.inl (by rw [same]; rfl))
          | cons around outer => cases whole
      · cases whole
  · cases whole
  · cases whole
  · cases whole
  · cases whole
    exact .inl rfl
  · cases whole

/-- A loose token makes nothing whole. -/
theorem Builder.eq_whole_of_loose
    {builder : Builder} {token : Token} {root : Element}
    (loose : token.Loose) (whole : builder.step token = .whole root) : builder = .whole root := by
  rcases token_of_step_eq_whole whole with before | rfl | rfl
  · exact before
  · rcases loose with impossible | ⟨raw, impossible⟩ <;> cases impossible
  · rcases loose with impossible | ⟨raw, impossible⟩ <;> cases impossible

namespace Element

variable {root : Element}

theorem ofTokens?_append_of_eq_some
    {tokens : List Token} (whole : ofTokens? tokens = some root) (later : List Token) :
    ofTokens? (tokens ++ later) = some root := by
  rw [ofTokens?_eq_some_iff] at whole ⊢
  rw [List.foldl_append, whole, Builder.foldl_whole]

theorem ofTokens?_of_append_loose
    {tokens loose : List Token} (each : ∀ token ∈ loose, token.Loose)
    (whole : ofTokens? (tokens ++ loose) = some root) : ofTokens? tokens = some root := by
  induction loose using List.reverseRecOn with
  | nil => rwa [List.append_nil] at whole
  | append_singleton loose last induction =>
      have lastLoose : last.Loose := each last (by simp)
      apply induction
      · intro token member
        exact each token (by simp [member])
      · rw [ofTokens?_eq_some_iff] at whole ⊢
        rw [← List.append_assoc, List.foldl_append, List.foldl_cons, List.foldl_nil] at whole
        exact Builder.eq_whole_of_loose lastLoose whole

/-- The end of a document makes nothing whole that its complete tokens do not. -/
theorem ofTokens?_tokens (characters : List Char) :
    ofTokens? (tokens characters) = ofTokens? (completeTokens characters) := by
  rcases (scan characters).finish_eq with ⟨rest, finished, loose⟩
  rw [tokens_eq_finish_scan, finished]
  change ofTokens? (completeTokens characters ++ rest) = _
  cases whole : ofTokens? (completeTokens characters) with
  | some root => exact ofTokens?_append_of_eq_some whole rest
  | none =>
      cases extended : ofTokens? (completeTokens characters ++ rest) with
      | none => rfl
      | some root =>
          rw [ofTokens?_of_append_loose loose extended] at whole
          cases whole

end Element

/-! ## The end of the root element -/

/--
A document that ends with its root element: with the last `>` one more tag is complete, the end tag
of the element or its only tag, and the element is whole with that tag and not without it.
-/
def EndsRoot (document : List Char) (root : Element) : Prop :=
  ∃ front last, document = front ++ ['>'] ∧
    completeTokens document = completeTokens front ++ [last] ∧
    (last = .endTag (tagName root.tag) ∨ last = .emptyTag root.tag) ∧
    Element.ofTokens? (completeTokens front) = none ∧
    Element.ofTokens? (completeTokens document) = some root

/-- Every document with a whole root element begins with one that ends with this element. -/
theorem exists_endsRoot
    {characters : List Char} {root : Element}
    (whole : Element.ofTokens? (completeTokens characters) = some root) :
    ∃ document behind, characters = document ++ behind ∧ EndsRoot document root := by
  induction characters using List.reverseRecOn with
  | nil => cases whole
  | append_singleton front character induction =>
      cases early : Element.ofTokens? (completeTokens front) with
      | some other =>
          -- the element is whole already, and nothing behind it makes another one of it
          rcases completeTokens_append front [character] with ⟨later, tokens⟩
          have same : other = root := by
            have extended := Element.ofTokens?_append_of_eq_some early later
            rw [← tokens, whole] at extended
            exact (Option.some.inj extended).symm
          rcases induction (same ▸ early) with ⟨document, behind, split, ends⟩
          exact ⟨document, behind ++ [character], by rw [split, List.append_assoc], ends⟩
      | none =>
          refine ⟨front ++ [character], [], by rw [List.append_nil], ?_⟩
          rcases completeTokens_concat front character with same | ⟨last, tokens, known⟩
          · rw [same, early] at whole
            cases whole
          · have step := Element.ofTokens?_eq_some_iff.mp whole
            rw [tokens, List.foldl_append, List.foldl_cons, List.foldl_nil] at step
            have unfinished : ∀ other, (completeTokens front).foldl Builder.step .before ≠
                .whole other := by
              intro other impossible
              rw [Element.ofTokens?_eq_some_iff.mpr impossible] at early
              cases early
            have closing : character = '>' := by
              rcases known with closing | loose
              · exact closing
              · exact absurd (Builder.eq_whole_of_loose loose step) (unfinished root)
            subst closing
            refine ⟨front, last, rfl, tokens, ?_, early, whole⟩
            rcases Builder.token_of_step_eq_whole step with impossible | tag
            · exact absurd impossible (unfinished root)
            · exact tag

/-- Nothing in front of the end of the root element is a whole document. -/
theorem EndsRoot.ofTokens?_cut
    {document : List Char} {root : Element} (ends : EndsRoot document root)
    {front behind : List Char} (split : document = front ++ behind) (proper : behind ≠ []) :
    Element.ofTokens? (tokens front) = none := by
  rcases ends with ⟨most, last, rfl, -, -, early, -⟩
  rcases List.eq_nil_or_concat behind with none | ⟨between, character, rfl⟩
  · exact absurd none proper
  · have most_eq : most = front ++ between := by
      rw [List.concat_eq_append, ← List.append_assoc] at split
      exact (List.append_inj' split rfl).1
    rw [Element.ofTokens?_tokens]
    cases whole : Element.ofTokens? (completeTokens front) with
    | none => rfl
    | some other =>
        rcases completeTokens_append front between with ⟨later, tokens⟩
        rw [most_eq, tokens, Element.ofTokens?_append_of_eq_some whole later] at early
        cases early

/-! ## Documents that are cut off -/

open Text (Utf8.encode Utf8.decode_eq_ok_iff Utf8.decode_cut)

/-- A body is refused if no root element of it is whole. -/
theorem exists_fault_of_ofTokens?_eq_none {α : Type}
    (decoder : Decoder α) (wanted : String) {body : List UInt8} {characters : List Char}
    (text : Text.Utf8.decode body = .ok characters)
    (none : Element.ofTokens? (tokens characters) = none) :
    ∃ fault, decodeDocument decoder wanted body = .error fault := by
  unfold decodeDocument bodyCharacters
  rw [text]
  dsimp only
  rw [ok_bind]
  cases checkRoot wanted characters with
  | error fault => exact ⟨fault, rfl⟩
  | ok checked => exact ⟨.malformed, by rw [ok_bind, decodeCharacters, none]⟩

/--
A body that can be decoded begins with a document that ends with its root element, and whatever is
cut off in front of that end is refused.
-/
theorem exists_endsRoot_of_decodeDocument {α : Type}
    {decoder : Decoder α} {wanted : String} {body : List UInt8} {value : α}
    (decoded : decodeDocument decoder wanted body = .ok value) :
    ∃ document behind root,
      body = Utf8.encode (document ++ behind) ∧ documentRoot? body = some root ∧
      EndsRoot document root ∧
      ∀ cut rest, Utf8.encode document = cut ++ rest → rest ≠ [] →
        ∃ fault, decodeDocument decoder wanted cut = .error fault := by
  rcases exists_documentRoot_of_decodeDocument decoded with ⟨root, found, -⟩
  have whole := found
  unfold documentRoot? bodyCharacters at whole
  cases text : Text.Utf8.decode body with
  | error place => simp [text] at whole
  | ok characters =>
      simp only [text] at whole
      rw [Element.ofTokens?_tokens] at whole
      rcases exists_endsRoot whole with ⟨document, behind, rfl, ends⟩
      refine ⟨document, behind, root, Utf8.decode_eq_ok_iff.mp text, found, ends, ?_⟩
      intro cut rest split proper
      rcases Utf8.decode_cut split proper with
        ⟨place, refused⟩ | ⟨front, back, parts, remaining, read⟩
      · refine ⟨.notText place, ?_⟩
        unfold decodeDocument bodyCharacters
        rw [refused]
        rfl
      · exact exists_fault_of_ofTokens?_eq_none decoder wanted read
          (ends.ofTokens?_cut parts remaining)

end ChangeTransport.Xml
