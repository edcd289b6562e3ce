import Mathlib.Data.List.Chain
import ChangeTransport.Proofs.Json.Numeral
import ChangeTransport.Proofs.Json.Scanning
import ChangeTransport.Proofs.Text.Utf8

/-!
# How tokens are spelled

A character between quotes may stand for itself, behind a backslash as a letter, or by the number of
its unit or of its two units.  Whatever way is chosen, the text that is read is the one that is
spelled.

Tokens follow each other with blanks between them or none.  Only two numbers cannot do without.
-/

namespace ChangeTransport.Json

open Text

/-! ## Characters between quotes -/

/-- The letters that stand for characters, behind a backslash. -/
def letters : List (Char × UInt8) :=
  [('"', 0x22), ('\\', 0x5C), ('/', 0x2F), ('\x08', 0x62), ('\x0c', 0x66), ('\n', 0x6E),
    ('\r', 0x72), ('\t', 0x74)]

/-- A hexadecimal digit, of either case. -/
def SpellsHex (value : Fin 16) (byte : UInt8) : Prop :=
  byte = UInt8.ofNat (hexDigit value.val).toNat ∨ byte = UInt8.ofNat (largeHexDigit value.val).toNat

/-- The number of a unit, by four hexadecimal digits behind a backslash and the letter `u`. -/
inductive SpellsUnit : Nat → List UInt8 → Prop where
  | of {first second third fourth : Fin 16} {a b c d : UInt8}
      (one : SpellsHex first a) (two : SpellsHex second b) (three : SpellsHex third c)
      (four : SpellsHex fourth d) :
      SpellsUnit (((first.val * 16 + second.val) * 16 + third.val) * 16 + fourth.val)
        [0x5C, 0x75, a, b, c, d]

/-- The ways in which a character may stand between quotes. -/
inductive SpellsCharacter : Char → List UInt8 → Prop where
  | plain {character : Char} (visible : 0x20 ≤ character.toNat) (quote : character ≠ '"')
      (backslash : character ≠ '\\') :
      SpellsCharacter character (String.utf8EncodeChar character)
  | letter {character : Char} {letter : UInt8} (known : (character, letter) ∈ letters) :
      SpellsCharacter character [0x5C, letter]
  | unit {character : Char} {bytes : List UInt8} (spelled : SpellsUnit character.toNat bytes) :
      SpellsCharacter character bytes
  | pair {character : Char} {leading trailing : Nat} {front back : List UInt8}
      (first : 0xD800 ≤ leading ∧ leading ≤ 0xDBFF) (second : 0xDC00 ≤ trailing ∧ trailing ≤ 0xDFFF)
      (value : character.toNat =
        (leading - 0xD800) * 0x400 + (trailing - 0xDC00) + 0x10000)
      (spelled : SpellsUnit leading front) (spelled' : SpellsUnit trailing back) :
      SpellsCharacter character (front ++ back)

/-- The ways in which characters may stand between quotes. -/
inductive SpellsText : List Char → List UInt8 → Prop where
  | nil : SpellsText [] []
  | cons {character : Char} {characters : List Char} {front rest : List UInt8}
      (first : SpellsCharacter character front) (others : SpellsText characters rest) :
      SpellsText (character :: characters) (front ++ rest)

/-- A text that needs no escape spells itself. -/
theorem spellsText_encode {characters : List Char}
    (visible : ∀ character ∈ characters,
      0x20 ≤ character.toNat ∧ character ≠ '"' ∧ character ≠ '\\') :
    SpellsText characters (Utf8.encode characters) := by
  induction characters with
  | nil => exact .nil
  | cons character characters induction =>
      rcases visible character List.mem_cons_self with ⟨printable, quote, backslash⟩
      exact .cons (.plain printable quote backslash)
        (induction fun other member => visible other (List.mem_cons_of_mem _ member))

theorem hexValue?_of_spellsHex {value : Fin 16} {byte : UInt8} (spelled : SpellsHex value byte) :
    hexValue? byte = some value.val := by
  rcases spelled with rfl | rfl <;> decide +revert

theorem SpellsUnit.hexUnit? {unit : Nat} {bytes : List UInt8} (spelled : SpellsUnit unit bytes) :
    ∃ a b c d, bytes = [0x5C, 0x75, a, b, c, d] ∧ hexUnit? a b c d = some unit ∧
      ∀ byte ∈ [a, b, c, d], (hexValue? byte).isSome := by
  cases spelled with
  | of one two three four =>
      have one := hexValue?_of_spellsHex one
      have two := hexValue?_of_spellsHex two
      have three := hexValue?_of_spellsHex three
      have four := hexValue?_of_spellsHex four
      refine ⟨_, _, _, _, rfl, ?_, by simp [one, two, three, four]⟩
      simp [Json.hexUnit?, one, two, three, four]

/-! ## What is read -/

theorem readContents_plain {byte : UInt8} (plain : byte ≠ 0x5C) (before rest : List UInt8) :
    readContents before (byte :: rest) = readContents (byte :: before) rest := by
  rw [readContents]
  all_goals simp [plain]

theorem readContents_all_plain {bytes : List UInt8} (plain : ∀ byte ∈ bytes, byte ≠ 0x5C)
    (before rest : List UInt8) :
    readContents before (bytes ++ rest) = readContents (bytes.reverse ++ before) rest := by
  induction bytes generalizing before with
  | nil => rfl
  | cons byte bytes induction =>
      rw [List.cons_append, readContents_plain (plain byte List.mem_cons_self),
        induction fun other member => plain other (List.mem_cons_of_mem _ member),
        List.reverse_cons, List.append_assoc, List.singleton_append]

/-- A character that needs no escape is spelled by bytes that need none. -/
theorem visible_of_mem_utf8EncodeChar {character : Char} (visible : 0x20 ≤ character.toNat)
    (quote : character ≠ '"') (backslash : character ≠ '\\') :
    ∀ byte ∈ String.utf8EncodeChar character, ¬ byte < 0x20 ∧ byte ≠ 0x22 ∧ byte ≠ 0x5C := by
  obtain ⟨point, valid, rfl⟩ : ∃ point, Nat.isValidChar point ∧ Char.ofNat point = character :=
    ⟨character.toNat, character.valid, Char.ofNat_toNat character⟩
  have same : (Char.ofNat point).toNat = point := by
    rw [Char.ofNat, dif_pos valid]
    rfl
  have noQuote : point ≠ 0x22 := by
    rintro rfl
    exact quote rfl
  have noBackslash : point ≠ 0x5C := by
    rintro rfl
    exact backslash rfl
  have bound : point < 0x110000 := by
    unfold Nat.isValidChar at valid
    omega
  rw [same] at visible
  -- told by the number that a byte has
  have told {value : Nat} (small : value < 256) (visible : 0x20 ≤ value)
      (quote : value ≠ 0x22) (backslash : value ≠ 0x5C) :
      ¬ UInt8.ofNat value < 0x20 ∧ UInt8.ofNat value ≠ 0x22 ∧ UInt8.ofNat value ≠ 0x5C := by
    simp only [UInt8.lt_iff_toNat_lt, ne_eq, ← UInt8.toNat_inj, UInt8.toNat_ofNat_of_lt' small,
      UInt8.reduceToNat]
    omega
  rw [Utf8.encodeChar_ofNat valid]
  intro byte member
  split at member
  · rw [List.mem_singleton] at member
    subst member
    exact told (by omega) visible noQuote noBackslash
  split at member
  · simp only [List.mem_cons, List.not_mem_nil, or_false] at member
    rcases member with rfl | rfl <;>
      exact told (by omega) (by omega) (by omega) (by omega)
  split at member <;> simp only [List.mem_cons, List.not_mem_nil, or_false] at member
  · rcases member with rfl | rfl | rfl <;>
      exact told (by omega) (by omega) (by omega) (by omega)
  · rcases member with rfl | rfl | rfl | rfl <;>
      exact told (by omega) (by omega) (by omega) (by omega)

/-- A letter behind a backslash stands for the one byte of its character. -/
theorem escapedByte?_of_mem_letters :
    ∀ pair ∈ letters, pair.2 ≠ 0x75 ∧
      ∃ byte, escapedByte? pair.2 = some byte ∧ String.utf8EncodeChar pair.1 = [byte] := by
  intro pair member
  fin_cases member <;> exact ⟨by decide, _, rfl, by decide⟩

theorem isLeadingUnit_of_range {unit : Nat} (range : 0xD800 ≤ unit ∧ unit ≤ 0xDBFF) :
    isTrailingUnit unit = false ∧ isLeadingUnit unit = true := by
  simp only [isTrailingUnit, isLeadingUnit, Bool.and_eq_false_iff, Bool.and_eq_true,
    decide_eq_false_iff_not, decide_eq_true_eq]
  omega

theorem isTrailingUnit_of_range {unit : Nat} (range : 0xDC00 ≤ unit ∧ unit ≤ 0xDFFF) :
    isTrailingUnit unit = true := by
  simpa only [isTrailingUnit, Bool.and_eq_true, decide_eq_true_eq] using range

theorem readContents_character {character : Char} {front : List UInt8}
    (spelled : SpellsCharacter character front) (before rest : List UInt8) :
    readContents before (front ++ rest) =
      readContents (pushCharacter before character) rest := by
  cases spelled with
  | plain visible quote backslash =>
      apply readContents_all_plain
      intro byte member
      exact (visible_of_mem_utf8EncodeChar visible quote backslash byte member).2.2
  | letter known =>
      rcases escapedByte?_of_mem_letters _ known with ⟨other, byte, stands, spells⟩
      dsimp only at other stands spells
      rw [pushCharacter, spells, List.cons_append, List.singleton_append, readContents, stands]
      all_goals simp [other]
  | unit spelled =>
      rcases spelled.hexUnit? with ⟨a, b, c, d, rfl, unit, -⟩
      have scalar := character.valid
      have single : isTrailingUnit character.toNat = false ∧
          isLeadingUnit character.toNat = false := by
        simp only [isTrailingUnit, isLeadingUnit, Bool.and_eq_false_iff, decide_eq_false_iff_not]
        unfold UInt32.isValidChar Nat.isValidChar at scalar
        change character.toNat < _ ∨ _ < character.toNat ∧ _ at scalar
        omega
      simp only [List.cons_append, List.nil_append]
      rw [readContents, unit]
      simp [single, Char.ofNat_toNat]
  | pair first second value spelled spelled' =>
      rcases spelled.hexUnit? with ⟨a, b, c, d, rfl, leading, -⟩
      rcases spelled'.hexUnit? with ⟨a', b', c', d', rfl, trailing, -⟩
      simp only [List.cons_append, List.nil_append]
      have opens : isTrailingUnit _ = false ∧ isLeadingUnit _ = true :=
        isLeadingUnit_of_range first
      have closes : isTrailingUnit _ = true := isTrailingUnit_of_range second
      rw [readContents, leading]
      simp [opens, trailing, closes, pairCharacter, ← value, Char.ofNat_toNat]

theorem readContents_text {characters : List Char} {inside : List UInt8}
    (spelled : SpellsText characters inside) (before : List UInt8) :
    readContents before inside = .bytes ((Utf8.encode characters).reverse ++ before) := by
  induction spelled generalizing before with
  | nil => rfl
  | @cons character characters front rest first others induction =>
      have split : Utf8.encode (character :: characters) =
          String.utf8EncodeChar character ++ Utf8.encode characters := rfl
      rw [readContents_character first, induction, split, List.reverse_append, List.append_assoc]
      rfl

/-- What stands between quotes is read as the text that it spells. -/
theorem readQuoted?_of_spellsText {text : String} {inside : List UInt8}
    (spelled : SpellsText text.toList inside) : readQuoted? inside = some text := by
  have read : Utf8.toText (Utf8.encode text.toList) = .ok text := by
    rw [Utf8.toText, Utf8.decode_eq_ok_iff.mpr rfl, Except.map, String.ofList_toList]
  rw [readQuoted?, readContents_text spelled, List.append_nil]
  dsimp only
  rw [List.reverse_reverse, read]

/-! ## What is scanned -/

namespace Scanner

variable (before : List Token)

theorem foldl_step_visible {bytes : List UInt8}
    (visible : ∀ byte ∈ bytes, ¬ byte < 0x20 ∧ byte ≠ 0x22 ∧ byte ≠ 0x5C) (inside : List UInt8) :
    bytes.foldl step ⟨before, .text .plain inside⟩ =
      ⟨before, .text .plain (bytes.reverse ++ inside)⟩ := by
  induction bytes generalizing inside with
  | nil => rfl
  | cons byte bytes induction =>
      rcases visible byte List.mem_cons_self with ⟨control, quote, backslash⟩
      have taken : step ⟨before, .text .plain inside⟩ byte =
          ⟨before, .text .plain (byte :: inside)⟩ := by
        simp [step, text, quote, backslash, control, moveTo]
      rw [List.foldl_cons, taken, List.reverse_cons, List.append_assoc,
        induction fun other member => visible other (List.mem_cons_of_mem _ member)]
      rfl

theorem foldl_step_unit {unit : Nat} {bytes : List UInt8} (spelled : SpellsUnit unit bytes)
    (inside : List UInt8) :
    bytes.foldl step ⟨before, .text .plain inside⟩ =
      ⟨before, .text .plain (bytes.reverse ++ inside)⟩ := by
  rcases spelled.hexUnit? with ⟨a, b, c, d, rfl, -, digits⟩
  have all : [d, c, b, a].all (fun digit => (hexValue? digit).isSome) = true := by
    simpa [List.all_eq_true, and_comm, and_assoc, and_left_comm] using digits
  simp [step, text, moveTo, all]

/-- A character that is spelled stands inside the text. -/
theorem foldl_step_character {character : Char} {front : List UInt8}
    (spelled : SpellsCharacter character front) (inside : List UInt8) :
    front.foldl step ⟨before, .text .plain inside⟩ =
      ⟨before, .text .plain (front.reverse ++ inside)⟩ := by
  cases spelled with
  | plain visible quote backslash =>
      exact foldl_step_visible before (visible_of_mem_utf8EncodeChar visible quote backslash) inside
  | letter known =>
      rcases escapedByte?_of_mem_letters _ known with ⟨other, byte, stands, -⟩
      dsimp only at other stands
      simp [step, text, moveTo, other, stands]
  | unit spelled => exact foldl_step_unit before spelled inside
  | pair first second value spelled spelled' =>
      rw [List.foldl_append, foldl_step_unit before spelled, foldl_step_unit before spelled',
        List.reverse_append, List.append_assoc]

theorem foldl_step_text {characters : List Char} {spelled : List UInt8}
    (spells : SpellsText characters spelled) (inside : List UInt8) :
    spelled.foldl step ⟨before, .text .plain inside⟩ =
      ⟨before, .text .plain (spelled.reverse ++ inside)⟩ := by
  induction spells generalizing inside with
  | nil => rfl
  | cons first others induction =>
      rw [List.foldl_append, foldl_step_character before first, induction, List.reverse_append,
        List.append_assoc]

end Scanner

/-! ## Tokens -/

/-- The ways in which a token may be spelled. -/
inductive SpellsToken : Token → List UInt8 → Prop where
  | openArray : SpellsToken .openArray [0x5B]
  | closeArray : SpellsToken .closeArray [0x5D]
  | openObject : SpellsToken .openObject [0x7B]
  | closeObject : SpellsToken .closeObject [0x7D]
  | colon : SpellsToken .colon [0x3A]
  | comma : SpellsToken .comma [0x2C]
  | null : SpellsToken .null (Utf8.ofText "null")
  | true : SpellsToken (.boolean Bool.true) (Utf8.ofText "true")
  | false : SpellsToken (.boolean Bool.false) (Utf8.ofText "false")
  | number (numeral : Numeral) : SpellsToken (.number numeral.meaning) numeral.bytes
  | text {value : String} {inside : List UInt8} (spelled : SpellsText value.toList inside) :
      SpellsToken (.text (some value)) (0x22 :: (inside ++ [0x22]))

/-- Blanks, of which there need be none. -/
def IsGapped (bytes : List UInt8) : Prop := ∀ byte ∈ bytes, isGap byte = true

/-- Tokens that follow each other, with blanks before each of them and behind the last one. -/
inductive SpellsTokens : List Token → List UInt8 → Prop where
  | nil {gap : List UInt8} (blank : IsGapped gap) : SpellsTokens [] gap
  | cons {token : Token} {tokens : List Token} {gap spelled rest : List UInt8}
      (blank : IsGapped gap) (first : SpellsToken token spelled)
      (others : SpellsTokens tokens rest) :
      SpellsTokens (token :: tokens) (gap ++ (spelled ++ rest))

/-- The end of a text without blanks. -/
theorem SpellsTokens.none : SpellsTokens [] [] := .nil nofun

theorem SpellsTokens.of_eq {tokens : List Token} {bytes text : List UInt8}
    (spells : SpellsTokens tokens bytes) (same : bytes = text) : SpellsTokens tokens text :=
  same ▸ spells

/-- A token with no blanks before it. -/
theorem SpellsTokens.next {token : Token} {tokens : List Token} {spelled rest : List UInt8}
    (first : SpellsToken token spelled) (others : SpellsTokens tokens rest) :
    SpellsTokens (token :: tokens) (spelled ++ rest) :=
  @SpellsTokens.cons token tokens [] spelled rest nofun first others

namespace Scanner

variable (before : List Token)

/-- A token that is no number is complete as soon as it has been spelled. -/
theorem foldl_step_token {token : Token} {spelled : List UInt8}
    (spells : SpellsToken token spelled) (other : ∀ value, token ≠ .number value) :
    spelled.foldl step ⟨before, .between⟩ = ⟨token :: before, .between⟩ := by
  cases spells with
  | number numeral => exact absurd rfl (other _)
  | @text value inside spelled =>
      have opened : step ⟨before, .between⟩ 0x22 = ⟨before, .text .plain []⟩ := rfl
      rw [List.foldl_cons, opened, List.foldl_append, foldl_step_text before spelled,
        List.foldl_cons, List.foldl_nil, List.append_nil]
      simp [step, Scanner.text, emit, readQuoted?_of_spellsText spelled]
  | null => rfl
  | true => rfl
  | false => rfl
  | _ => rfl

theorem foldl_step_gap {gap : List UInt8} (blank : IsGapped gap) :
    gap.foldl step ⟨before, .between⟩ = ⟨before, .between⟩ := by
  induction gap with
  | nil => rfl
  | cons byte gap induction =>
      have stays : step ⟨before, .between⟩ byte = ⟨before, .between⟩ := by
        simp [step, begin, blank byte List.mem_cons_self, moveTo]
      rw [List.foldl_cons, stays,
        induction fun other member => blank other (List.mem_cons_of_mem _ member)]

end Scanner

/-! ## Texts -/

/-- Whether a token is a number. -/
def Token.IsNumber (token : Token) : Prop := ∃ value, token = .number value

/-- Tokens among which no two numbers stand side by side. -/
def AreApart (tokens : List Token) : Prop :=
  tokens.IsChain fun first second => ¬ (first.IsNumber ∧ second.IsNumber)

theorem not_isFigure_of_isGap {byte : UInt8} (gap : isGap byte = true) :
    ¬ Scanner.IsFigure byte := by
  simp only [isGap, Bool.or_eq_true, beq_iff_eq] at gap
  unfold Scanner.IsFigure
  rcases gap with ((rfl | rfl) | rfl) | rfl <;> decide

/-- A token that is no number begins with a byte that does not belong to one. -/
theorem SpellsToken.not_isFigure {token : Token} {spelled : List UInt8}
    (spells : SpellsToken token spelled) (other : ¬ token.IsNumber) :
    ∃ byte rest, spelled = byte :: rest ∧ ¬ Scanner.IsFigure byte := by
  unfold Scanner.IsFigure
  cases spells with
  | number numeral => exact absurd ⟨_, rfl⟩ other
  | _ => exact ⟨_, _, rfl, by decide⟩

/-- Behind a number, nothing stands that could belong to it. -/
theorem SpellsTokens.not_isFigure {tokens : List Token} {bytes : List UInt8}
    (spells : SpellsTokens tokens bytes) (other : ∀ token ∈ tokens.head?, ¬ token.IsNumber) :
    bytes = [] ∧ tokens = [] ∨ ∃ byte rest, bytes = byte :: rest ∧ ¬ Scanner.IsFigure byte := by
  cases spells with
  | nil blank =>
      rcases bytes with _ | ⟨byte, gap⟩
      · exact .inl ⟨rfl, rfl⟩
      · exact .inr ⟨byte, gap, rfl, not_isFigure_of_isGap (blank byte List.mem_cons_self)⟩
  | @cons token tokens gap spelled rest blank first others =>
      right
      rcases gap with _ | ⟨byte, gap⟩
      · rcases first.not_isFigure (other token rfl) with ⟨byte, more, rfl, figure⟩
        exact ⟨byte, _, rfl, figure⟩
      · exact ⟨byte, _, rfl, not_isFigure_of_isGap (blank byte List.mem_cons_self)⟩

/-- A number that the scanner holds back is complete where the next token begins. -/
theorem Scanner.finish_foldl_of_mayEnd {tokens : List Token} {bytes : List UInt8}
    (spells : SpellsTokens tokens bytes) (other : ∀ token ∈ tokens.head?, ¬ token.IsNumber)
    (before : List Token) {part : NumberPart} (ends : part.MayEnd) (digits : Digits) :
    (bytes.foldl step ⟨before, .number part digits⟩).finish =
      (bytes.foldl step ⟨.number digits.number? :: before, .between⟩).finish := by
  rcases spells.not_isFigure other with ⟨rfl, -⟩ | ⟨byte, rest, rfl, figure⟩
  · rw [List.foldl_nil, List.foldl_nil, finish_of_mayEnd before ends]
    exact (List.reverse_cons ..).symm
  · rw [List.foldl_cons, step_of_mayEnd before ends digits figure, List.foldl_cons]

/-- The tokens of a text are those that it spells. -/
theorem Scanner.finish_of_spellsTokens {tokens : List Token} {bytes : List UInt8}
    (spells : SpellsTokens tokens bytes) (apart : AreApart tokens) (before : List Token) :
    (bytes.foldl step ⟨before, .between⟩).finish = before.reverse ++ tokens := by
  induction spells generalizing before with
  | nil blank =>
      rw [foldl_step_gap before blank, List.append_nil]
      rfl
  | @cons token tokens gap spelled rest blank first others induction =>
      rcases List.isChain_cons.mp apart with ⟨next, apart⟩
      have later := induction apart (token :: before)
      rw [List.reverse_cons, List.append_assoc, List.singleton_append] at later
      rw [List.foldl_append, foldl_step_gap before blank, List.foldl_append, ← later]
      by_cases isNumber : token.IsNumber
      · have others_begin : ∀ token ∈ tokens.head?, ¬ token.IsNumber :=
          fun other member same => next other member ⟨isNumber, same⟩
        rcases isNumber with ⟨value, rfl⟩
        cases first with
        | number numeral =>
            rcases exists_part_of_numeral before numeral with ⟨part, ends, scanned⟩
            rw [scanned, finish_foldl_of_mayEnd others others_begin before ends,
              numeral.number?_kept]
      · rw [foldl_step_token before first fun value same => isNumber ⟨value, same⟩]

theorem tokens_of_spellsTokens {tokens : List Token} {bytes : List UInt8}
    (spells : SpellsTokens tokens bytes) (apart : AreApart tokens) :
    Json.tokens bytes = tokens :=
  Scanner.finish_of_spellsTokens spells apart []

end ChangeTransport.Json
