import Mathlib.Data.List.Forall2
import ChangeTransport.Url.Host
import ChangeTransport.Proofs.Http.Header
import ChangeTransport.Proofs.Text.Composition
import ChangeTransport.Proofs.Text.Pieces
import ChangeTransport.Proofs.Text.Utf8

/-!
# Hosts that are written in ASCII

A domain name of ASCII without percent signs is changed by nothing but the folding of its capital
letters.  The host of a common scheme that is written in this way is therefore the name in small
letters, or an address of 32 bits, or none at all.
-/

namespace ChangeTransport

namespace Text

/-- What holds of every code point of ASCII holds of every character of ASCII. -/
@[elab_as_elim]
theorem ascii_forall {motive : Char → Prop} (all : ∀ point < 0x80, motive (Char.ofNat point))
    {character : Char} (ascii : character.toNat < 0x80) : motive character := by
  have known := all character.toNat ascii
  rwa [Char.ofNat_toNat] at known

theorem lowerAscii_of_ascii {character : Char} (ascii : character.toNat < 0x80) :
    (lowerAscii character).toNat < 0x80 ∧
      lowerAscii (lowerAscii character) = lowerAscii character :=
  ascii_forall (by decide +kernel) ascii

end Text

namespace Url

/-! ## Percent signs -/

/-- Characters that are not barred are not escaped. -/
theorem escapeWhere_of_unbarred {barred : Char → Bool} {characters : List Char}
    (unbarred : ∀ character ∈ characters, barred character = false) :
    escapeWhere barred characters = characters := by
  induction characters with
  | nil => rfl
  | cons first rest induction =>
      have kept : escapeCharacter barred first = [first] := by
        rw [escapeCharacter, unbarred first (by simp), if_neg Bool.false_ne_true]
      rw [escapeWhere, List.flatMap_cons, kept, ← escapeWhere,
        induction fun other among => unbarred other (List.mem_cons_of_mem _ among)]
      rfl

theorem unescapeBytes_of_plain {bytes : List UInt8} (plain : ∀ byte ∈ bytes, byte ≠ 0x25) :
    unescapeBytes bytes = bytes := by
  induction bytes with
  | nil => rfl
  | cons byte rest induction =>
      have other : byte ≠ 0x25 := plain byte (by simp)
      rw [unescapeBytes, induction fun next among => plain next (List.mem_cons_of_mem _ among)]
      rintro first second further rfl
      exact absurd rfl other

/-- A text of ASCII without percent signs stands for itself. -/
theorem unescape_of_ascii {characters : List Char}
    (ascii : ∀ character ∈ characters, character.toNat < 0x80)
    (plain : '%' ∉ characters) :
    unescape characters = Text.Utf8.encode characters := by
  apply unescapeBytes_of_plain
  intro byte among
  rcases List.mem_flatMap.mp among with ⟨character, member, spelled⟩
  have small : character.toNat < 0x80 := ascii character member
  have narrow : character.val ≤ 127 := UInt32.le_iff_toNat_le.mpr (Nat.le_of_lt_succ small)
  rw [String.utf8EncodeChar_eq_singleton (Char.utf8Size_eq_one_iff.mpr narrow),
    List.mem_singleton] at spelled
  rintro rfl
  have percent : character = '%' := by
    apply Char.ext
    apply UInt32.toNat_inj.mp
    have same := congrArg UInt8.toNat spelled
    rw [UInt32.toNat_toUInt8] at same
    change 37 = character.toNat % 256 at same
    change character.toNat = 37
    omega
  exact plain (percent ▸ member)

/-! ## Domain names -/

/-- Items that are read one by one are read as many values, each of them as its own. -/
theorem forall₂_of_mapM_eq_some {α β : Type} {read? : α → Option β} {items : List α}
    {values : List β} (read : items.mapM read? = some values) :
    List.Forall₂ (fun item value => read? item = some value) items values := by
  induction items generalizing values with
  | nil =>
      cases read
      exact .nil
  | cons item rest induction =>
      simp only [List.mapM_cons, Option.bind_eq_bind, Option.bind_eq_some_iff] at read
      rcases read with ⟨value, first, further, others, made⟩
      cases made
      exact .cons first (induction others)

namespace Domain

/-- What is read item by item and can be written again is written as the items. -/
theorem map_eq_of_mapM_eq_some {α β : Type} {read? : α → Option β} {write : β → α}
    {items : List α} {values : List β} (read : items.mapM read? = some values)
    (again : ∀ item ∈ items, ∀ value, read? item = some value → write value = item) :
    values.map write = items := by
  have each := forall₂_of_mapM_eq_some read
  clear read
  induction each with
  | nil => rfl
  | @cons item value rest values first others induction =>
      rw [List.map_cons, again item List.mem_cons_self value first,
        induction fun next among => again next (List.mem_cons_of_mem _ among)]

section Ascii

variable {characters : List Char} (ascii : ∀ character ∈ characters, character.toNat < 0x80)
include ascii

theorem all_isAscii : characters.all Punycode.isAscii = true := by
  rw [List.all_eq_true]
  intro character among
  exact decide_eq_true (ascii character among)

theorem lowered_ascii :
    ∀ character ∈ characters.map Text.lowerAscii, character.toNat < 0x80 := by
  intro character among
  rcases List.mem_map.mp among with ⟨written, member, rfl⟩
  exact (Text.lowerAscii_of_ascii (ascii written member)).1

/-- Folding changes nothing but capital letters. -/
theorem folded?_of_ascii :
    folded? characters =
      if (characters.map Text.lowerAscii).any isBarredAscii then none
      else some (characters.map Text.lowerAscii) := by
  have images : characters.mapM fold? = some (characters.map ([Text.lowerAscii ·])) := by
    induction characters with
    | nil => rfl
    | cons first rest induction =>
        have image : fold? first = some [Text.lowerAscii first] := if_pos (ascii first (by simp))
        rw [List.mapM_cons, image,
          induction fun other among => ascii other (List.mem_cons_of_mem _ among)]
        rfl
  have flat : (characters.map ([Text.lowerAscii ·])).flatten = characters.map Text.lowerAscii := by
    rw [← List.flatMap_def, ← List.map_eq_flatMap]
  rw [folded?, images, Option.bind_eq_bind, Option.bind_some, flat,
    Text.Composition.composed_of_ascii (lowered_ascii ascii)]
  dsimp only
  cases (characters.map Text.lowerAscii).any isBarredAscii <;> rfl

/-- A label of ASCII is its own form in ASCII, also if it is a code. -/
theorem Label.ascii_of_ofFolded? {label : Label} (made : Label.ofFolded? characters = some label) :
    label.ascii = characters := by
  have plain := all_isAscii ascii
  rw [Label.ofFolded?, plain, if_pos rfl, if_pos rfl] at made
  by_cases marked : mark.isPrefixOf characters
  · rw [if_pos marked] at made
    rcases List.isPrefixOf_iff_prefix.mp marked with ⟨code, rfl⟩
    rw [List.drop_left] at made
    rcases Option.bind_eq_some_iff.mp made with ⟨-, -, made⟩
    rcases Option.bind_eq_some_iff.mp made with ⟨shown, -, made⟩
    rcases Option.bind_eq_some_iff.mp made with ⟨-, -, made⟩
    cases made
    rfl
  · rw [if_neg marked] at made
    cases made
    rfl

/-- A name of ASCII has no other form than itself in small letters. -/
theorem eq_lowered_of_ofCharacters? {domain : List Char}
    (made : ofCharacters? characters = some domain) :
    domain = characters.map Text.lowerAscii := by
  rw [ofCharacters?, folded?_of_ascii ascii] at made
  by_cases barred : (characters.map Text.lowerAscii).any isBarredAscii
  · rw [if_pos barred] at made
    cases made
  · rw [if_neg barred, Option.bind_eq_bind, Option.bind_some] at made
    rcases Option.bind_eq_some_iff.mp made with ⟨labels, read, made⟩
    rcases Option.bind_eq_some_iff.mp made with ⟨-, -, made⟩
    have small := lowered_ascii ascii
    have kept : labels.map Label.ascii =
        Text.piecesAt '.' (characters.map Text.lowerAscii) := by
      apply map_eq_of_mapM_eq_some read
      intro piece part label made
      refine Label.ascii_of_ofFolded? ?_ made
      intro character among
      exact small character (Text.mem_of_mem_piecesWhere part among)
    cases made
    rw [kept, Text.intercalate_piecesAt]

end Ascii

end Domain

/-! ## Addresses of 32 bits -/

/-- The value of parts is that of no more than their places, and fits into these. -/
theorem bounds_of_addressValue? {places : Nat} {parts : List Nat} {value : Nat}
    (known : addressValue? places parts = some value) :
    parts.length ≤ places ∧ value < Nat.pow 256 places := by
  fun_induction addressValue? places parts generalizing value with
  | case1 => cases known
  | case2 => cases known
  | case3 places last fits =>
      cases known
      exact ⟨Nat.succ_le_succ (Nat.zero_le places), fits⟩
  | case4 => cases known
  | case5 places part rest _ small induction =>
      rcases Option.map_eq_some_iff.mp known with ⟨behind, read, rfl⟩
      rcases induction read with ⟨few, fits⟩
      refine ⟨Nat.succ_le_succ few, ?_⟩
      calc part * Nat.pow 256 places + behind
        _ < part * Nat.pow 256 places + Nat.pow 256 places := Nat.add_lt_add_left fits _
        _ = (part + 1) * Nat.pow 256 places := (Nat.succ_mul _ _).symm
        _ ≤ 256 * Nat.pow 256 places := Nat.mul_le_mul_right _ small
        _ = Nat.pow 256 (places + 1) := Nat.mul_comm _ _
  | case6 => cases known

/-- A name that spells an address has at most four parts, and the address has 32 bits. -/
theorem bounds_of_shortAddress? {name : List Char} {address : Nat}
    (spelled : shortAddress? name = some address) :
    (addressParts name).length ≤ 4 ∧ address < 0x100000000 := by
  rcases Option.bind_eq_some_iff.mp spelled with ⟨numbers, read, known⟩
  have length := (forall₂_of_mapM_eq_some read).length_eq
  rw [length]
  exact bounds_of_addressValue? known

/-- A fifth part is one too many, also if it adds nothing. -/
example : shortAddress? "1.2.3.4.0".toList = none ∧
    shortAddress? "1.2.3.4.".toList = some 0x01020304 := by
  decide

/-! ## Hosts -/

namespace Host

theorem isDigit_of_mem_shortAddressText {address : Nat} {character : Char}
    (among : character ∈ shortAddressText address) :
    character.isDigit = true ∨ character = '.' := by
  have digits : ∀ number : Nat,
      character ∈ (toString number).toList → character.isDigit = true := by
    intro number written
    rw [Nat.toString_eq_repr, Nat.toList_repr] at written
    exact Nat.isDigit_of_mem_toDigits (by decide) (by decide) written
  have point : character ∈ ".".toList → character = '.' := List.mem_singleton.mp
  simp only [shortAddressText, String.toList_append, List.mem_append] at among
  rcases among with (((((first | dot) | second) | dot) | third) | dot) | fourth
  · exact .inl (digits _ first)
  · exact .inr (point dot)
  · exact .inl (digits _ second)
  · exact .inr (point dot)
  · exact .inl (digits _ third)
  · exact .inr (point dot)
  · exact .inl (digits _ fourth)

section Ascii

variable {characters : List Char}
  (ascii : ∀ character ∈ characters, character.toNat < 0x80)
  (plain : '%' ∉ characters) (bare : characters.head? ≠ some '[')
include ascii plain bare

theorem ofCommon_of_ascii :
    ofCommon characters =
      (Domain.ofCharacters? characters).elim (.error .badName) ofDomain := by
  have decoded : Text.Utf8.decode (Text.Utf8.encode characters) = .ok characters :=
    Text.Utf8.decode_eq_ok_iff.mpr rfl
  have read : Domain.ofBytes? (unescape characters) = Domain.ofCharacters? characters := by
    simp only [Domain.ofBytes?, unescape_of_ascii ascii plain, decoded]
  unfold ofCommon
  split
  · exact absurd rfl bare
  · rw [read]
    cases Domain.ofCharacters? characters <;> rfl

/-- The host of a common scheme in ASCII is the name in small letters, or a number. -/
theorem eq_of_ofCommon {host : Host} (made : ofCommon characters = .ok host) :
    host = .name (characters.map Text.lowerAscii) ∨ ∃ address, host = .short address := by
  rw [ofCommon_of_ascii ascii plain bare] at made
  cases folded : Domain.ofCharacters? characters with
  | none => simp [folded] at made
  | some domain =>
      rw [folded, Domain.eq_lowered_of_ofCharacters? ascii folded] at made
      dsimp only [Option.elim, ofDomain] at made
      split at made
      · cases made
      · split at made
        · split at made
          · cases made
            exact .inr ⟨_, rfl⟩
          · cases made
        · cases made
          exact .inl rfl

end Ascii

end Host

end Url

end ChangeTransport
