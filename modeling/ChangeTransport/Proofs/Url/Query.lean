import Mathlib.Data.List.Infix
import ChangeTransport.Proofs.Text.Pieces
import ChangeTransport.Proofs.Url.Host

/-!
# What a server reads

A server takes the part of an address behind the host apart: the path ends at the first question
mark, and the query at the first number sign behind it; the path is cut at slashes and the query at
ampersands, each parameter at its first equals sign; and only then are the percent signs read.

A piece that has been cut out of a text is read as that text only if it is the whole of it and holds
no percent sign with two digits behind it.
-/

namespace ChangeTransport

namespace Text.Utf8

theorem encode_injective {first second : List Char} (same : encode first = encode second) :
    first = second := by
  have read : decode (encode first) = .ok second := decode_eq_ok_iff.mpr same
  rw [decode_eq_ok_iff.mpr rfl] at read
  exact Except.ok.inj read

theorem encode_sublist {part whole : List Char} (sublist : part.Sublist whole) :
    (encode part).Sublist (encode whole) := by
  induction sublist with
  | slnil => exact List.Sublist.slnil
  | cons character _ induction => exact induction.trans (List.sublist_append_right _ _)
  | cons_cons character _ induction => exact (List.Sublist.refl _).append induction

end Text.Utf8

namespace Url

open Text.Utf8

/-! ## Percent signs -/

/-- An escape is a percent sign with two digits behind it. -/
def HasEscape (bytes : List UInt8) : Prop :=
  ∃ large small, [0x25, large, small] <:+: bytes ∧
    (Text.hexValue? large).isSome ∧ (Text.hexValue? small).isSome

theorem hasEscape_cons {byte : UInt8} {rest : List UInt8} :
    HasEscape (byte :: rest) ↔
      (byte = 0x25 ∧ ∃ large small behind, rest = large :: small :: behind ∧
        (Text.hexValue? large).isSome ∧ (Text.hexValue? small).isSome) ∨ HasEscape rest := by
  simp only [HasEscape, List.infix_cons_iff, List.cons_prefix_cons]
  constructor
  · rintro ⟨large, small, ⟨rfl, behind, split⟩ | later, digits⟩
    · exact .inl ⟨rfl, large, small, behind, split.symm, digits⟩
    · exact .inr ⟨large, small, later, digits⟩
  · rintro (⟨rfl, large, small, behind, rfl, digits⟩ | ⟨large, small, later, digits⟩)
    · exact ⟨large, small, .inl ⟨rfl, behind, rfl⟩, digits⟩
    · exact ⟨large, small, .inr later, digits⟩

theorem length_unescapeBytes_le (bytes : List UInt8) :
    (unescapeBytes bytes).length ≤ bytes.length := by
  fun_induction unescapeBytes bytes with
  | case1 first second rest large small _ _ induction =>
      simp only [List.length_cons]
      omega
  | case2 first second rest _ induction => simpa using induction
  | case3 byte rest _ induction => simpa using induction
  | case4 => exact Nat.le_refl 0

/-- Bytes stand for themselves exactly if no percent sign is to be read among them. -/
theorem unescapeBytes_eq_self_iff {bytes : List UInt8} :
    unescapeBytes bytes = bytes ↔ ¬ HasEscape bytes := by
  fun_induction unescapeBytes bytes with
  | case1 first second rest large small knownSmall knownLarge induction =>
      -- three bytes are read as one, so the whole gets shorter
      have escape : HasEscape (0x25 :: first :: second :: rest) :=
        hasEscape_cons.mpr (.inl ⟨rfl, first, second, rest, rfl, Option.isSome_of_eq_some knownLarge,
          Option.isSome_of_eq_some knownSmall⟩)
      have shorter := length_unescapeBytes_le rest
      refine iff_of_false ?_ (not_not_intro escape)
      intro same
      have lengths := congrArg List.length same
      simp only [List.length_cons] at lengths
      omega
  | case2 first second rest unknown induction =>
      have none : ¬ ∃ large small behind, first :: second :: rest = large :: small :: behind ∧
          (Text.hexValue? large).isSome ∧ (Text.hexValue? small).isSome := by
        rintro ⟨_, _, _, ⟨⟩, large, small⟩
        rcases Option.isSome_iff_exists.mp large with ⟨large, known⟩
        rcases Option.isSome_iff_exists.mp small with ⟨small, known'⟩
        exact unknown large small known known'
      rw [List.cons.injEq, induction, hasEscape_cons.trans (or_iff_right (none ·.2))]
      exact and_iff_right rfl
  | case3 byte rest other induction =>
      have none : ¬ (byte = 0x25 ∧ ∃ large small behind, rest = large :: small :: behind ∧
          (Text.hexValue? large).isSome ∧ (Text.hexValue? small).isSome) := by
        rintro ⟨rfl, large, small, behind, rfl, -⟩
        exact other large small behind rfl rfl
      rw [List.cons.injEq, induction, hasEscape_cons.trans (or_iff_right none)]
      exact and_iff_right rfl
  | case4 => simp [HasEscape]

instance (bytes : List UInt8) : Decidable (HasEscape bytes) :=
  decidable_of_iff (unescapeBytes bytes ≠ bytes) (by
    rw [Ne, unescapeBytes_eq_self_iff, Classical.not_not])

/-- What has been cut out of a text is read as the text only if it is the text. -/
theorem unescape_eq_encode_iff {part whole : List Char} (sublist : part.Sublist whole) :
    unescape part = encode whole ↔ part = whole ∧ ¬ HasEscape (encode whole) := by
  constructor
  · intro read
    have shorter := length_unescapeBytes_le (encode part)
    rw [← unescape, read] at shorter
    have same := encode_injective ((encode_sublist sublist).eq_of_length_le shorter)
    subst same
    exact ⟨rfl, unescapeBytes_eq_self_iff.mp read⟩
  · rintro ⟨rfl, plain⟩
    exact unescapeBytes_eq_self_iff.mpr plain

/-! ## Paths and queries -/

/-- What a server reads behind the host of an address. -/
structure Target where
  segments : List (List UInt8)
  /-- Names and values. -/
  parameters : List (List UInt8 × List UInt8)
  deriving Repr, DecidableEq

/-- A parameter: the first equals sign separates the name from the value. -/
def readParameter (written : List Char) : List UInt8 × List UInt8 :=
  (unescape (written.takeWhile (· != '=')), unescape ((written.dropWhile (· != '=')).drop 1))

/-- The parameters behind a question mark. -/
def readQuery (written : List Char) : List (List UInt8 × List UInt8) :=
  (Text.piecesAt '&' (written.takeWhile (· != '#'))).map readParameter

/-- The segments in front of a question mark. -/
def readPath (written : List Char) : List (List UInt8) :=
  (Text.piecesAt '/' written).map unescape

/-- What a server reads. -/
def Target.read (written : List Char) : Target where
  segments := readPath (written.takeWhile (· != '?'))
  parameters :=
    match written.dropWhile (· != '?') with
    | _ :: query => readQuery query
    | [] => []

/-- Behind a path stands its query. -/
theorem Target.read_append {path : List Char} (unended : '?' ∉ path) (query : List Char) :
    Target.read (path ++ '?' :: query) = ⟨readPath path, readQuery query⟩ := by
  have inPath : ∀ character ∈ path, (character != '?') = true := by
    intro character among
    rw [bne_iff_ne]
    rintro rfl
    exact unended among
  rw [read, List.takeWhile_append_of_pos inPath, List.dropWhile_append_of_pos inPath,
    List.takeWhile_cons_of_neg (by simp), List.dropWhile_cons_of_neg (by simp), List.append_nil]

/-- A text that is read as it is written: no character in it is barred, and no escape. -/
structure IsVerbatim (barred : List Char) (text : List Char) : Prop where
  unbarred : ∀ mark ∈ barred, mark ∉ text
  plain : ¬ HasEscape (encode text)

instance (barred text : List Char) : Decidable (IsVerbatim barred text) :=
  haveI : Decidable (∀ mark ∈ barred, mark ∉ text) := List.decidableBAll _ barred
  decidable_of_iff ((∀ mark ∈ barred, mark ∉ text) ∧ ¬ HasEscape (encode text))
    ⟨fun both => ⟨both.1, both.2⟩, fun verbatim => ⟨verbatim.unbarred, verbatim.plain⟩⟩

theorem IsVerbatim.unescape_eq {barred text : List Char} (verbatim : IsVerbatim barred text) :
    unescape text = encode text :=
  unescapeBytes_eq_self_iff.mpr verbatim.plain

/-- The characters that end a segment. -/
def pathMarks : List Char := ['/', '?']

/-- The characters that end a parameter. -/
def queryMarks : List Char := ['&', '#']

/-! ## Segments -/

theorem readPath_append (front back : List Char) :
    readPath (front ++ '/' :: back) = readPath front ++ readPath back := by
  rw [readPath, Text.piecesAt_append, List.map_append]
  rfl

theorem readPath_of_isVerbatim {segment : List Char} (verbatim : IsVerbatim pathMarks segment) :
    readPath segment = [encode segment] := by
  have unmarked : ∀ character ∈ segment, (character == '/') = false := by
    intro character among
    rw [beq_eq_false_iff_ne]
    rintro rfl
    exact verbatim.unbarred '/' (by simp [pathMarks]) among
  rw [readPath, Text.piecesAt, Text.piecesWhere_of_unmarked unmarked, List.map_singleton,
    verbatim.unescape_eq]

/-- A part of a text is not read as the whole of it if the text is cut or holds percent signs. -/
theorem isVerbatim_of_mem_readPath {path whole : List Char} (unended : '?' ∉ path)
    (sublist : path.Sublist whole) (among : encode whole ∈ readPath path) :
    IsVerbatim pathMarks whole := by
  rw [readPath, List.mem_map] at among
  rcases among with ⟨piece, part, read⟩
  have smaller := Text.sublist_of_mem_piecesWhere part
  rcases (unescape_eq_encode_iff (smaller.trans sublist)).mp read with ⟨rfl, plain⟩
  refine ⟨?_, plain⟩
  intro mark barred inside
  simp only [pathMarks, List.mem_cons, List.not_mem_nil, or_false] at barred
  rcases barred with rfl | rfl
  · simpa using Text.unmarked_of_mem_piecesWhere part inside
  · exact unended (smaller.subset inside)

/-! ## Parameters -/

/-- A name of a parameter that is read as it is written. -/
structure IsParameterName (name : List Char) : Prop where
  verbatim : IsVerbatim ('=' :: queryMarks) name

theorem takeWhile_of_unbarred {parameter : List Char}
    (unbarred : ∀ mark ∈ queryMarks, mark ∉ parameter) (rest : List Char) :
    (parameter ++ rest).takeWhile (· != '#') = parameter ++ rest.takeWhile (· != '#') := by
  refine List.takeWhile_append_of_pos fun character among => ?_
  rw [bne_iff_ne]
  rintro rfl
  exact unbarred '#' (by simp [queryMarks]) among

theorem readQuery_of_unbarred {parameter : List Char}
    (unbarred : ∀ mark ∈ queryMarks, mark ∉ parameter) :
    readQuery parameter = [readParameter parameter] := by
  have whole := takeWhile_of_unbarred unbarred []
  have unmarked : ∀ character ∈ parameter, (character == '&') = false := by
    intro character among
    rw [beq_eq_false_iff_ne]
    rintro rfl
    exact unbarred '&' (by simp [queryMarks]) among
  rw [List.append_nil, List.takeWhile_nil, List.append_nil] at whole
  rw [readQuery, whole, Text.piecesAt, Text.piecesWhere_of_unmarked unmarked, List.map_singleton]

theorem readQuery_append {parameter : List Char}
    (unbarred : ∀ mark ∈ queryMarks, mark ∉ parameter) (rest : List Char) :
    readQuery (parameter ++ '&' :: rest) = readParameter parameter :: readQuery rest := by
  have alone := readQuery_of_unbarred unbarred
  have front := takeWhile_of_unbarred unbarred []
  rw [List.append_nil, List.takeWhile_nil, List.append_nil] at front
  rw [readQuery, front] at alone
  rw [readQuery, takeWhile_of_unbarred unbarred, List.takeWhile_cons_of_pos (by simp),
    Text.piecesAt_append, List.map_append, alone]
  rfl

/-- A parameter ends at the first character that ends one. -/
theorem exists_readQuery_eq_cons {parameter : List Char}
    (unbarred : ∀ mark ∈ queryMarks, mark ∉ parameter) {mark : Char} (marked : mark ∈ queryMarks)
    (rest : List Char) :
    ∃ others, readQuery (parameter ++ mark :: rest) = readParameter parameter :: others := by
  simp only [queryMarks, List.mem_cons, List.not_mem_nil, or_false] at marked
  rcases marked with rfl | rfl
  · exact ⟨readQuery rest, readQuery_append unbarred rest⟩
  · have alone := readQuery_of_unbarred unbarred
    have front := takeWhile_of_unbarred unbarred []
    rw [List.append_nil, List.takeWhile_nil, List.append_nil] at front
    rw [readQuery, front] at alone
    refine ⟨[], ?_⟩
    rw [readQuery, takeWhile_of_unbarred unbarred, List.takeWhile_cons_of_neg (by simp),
      List.append_nil, alone]

section Parameter

variable {name : List Char} (named : IsParameterName name)

include named

theorem readParameter_of_name (value : List Char) :
    readParameter (name ++ '=' :: value) = (encode name, unescape value) := by
  have before : ∀ character ∈ name, (character != '=') = true := by
    intro character among
    rw [bne_iff_ne]
    rintro rfl
    exact named.verbatim.unbarred '=' (by simp) among
  have front : (name ++ '=' :: value).takeWhile (· != '=') = name := by
    rw [List.takeWhile_append_of_pos before, List.takeWhile_cons_of_neg (by simp),
      List.append_nil]
  have back : (name ++ '=' :: value).dropWhile (· != '=') = '=' :: value := by
    rw [List.dropWhile_append_of_pos before, List.dropWhile_cons_of_neg (by simp)]
  rw [readParameter, front, back, named.verbatim.unescape_eq]
  rfl

theorem unbarred_of_name {value : List Char} (unbarred : ∀ mark ∈ queryMarks, mark ∉ value) :
    ∀ mark ∈ queryMarks, mark ∉ name ++ '=' :: value := by
  intro mark marked among
  rcases List.mem_append.mp among with inName | inRest
  · exact named.verbatim.unbarred mark (List.mem_cons_of_mem _ marked) inName
  · rcases List.mem_cons.mp inRest with rfl | inValue
    · simp [queryMarks] at marked
    · exact unbarred mark marked inValue

/-- A value in which its parameter ends is not read as the whole of it. -/
theorem unbarred_of_readQuery {value rest : List Char} {others : List (List UInt8 × List UInt8)}
    (read : readQuery (name ++ '=' :: (value ++ rest)) = (encode name, encode value) :: others) :
    ∀ mark ∈ queryMarks, mark ∉ value := by
  cases found : value.find? (queryMarks.contains ·) with
  | none =>
      intro mark marked among
      exact List.find?_eq_none.mp found mark among (by simpa using marked)
  | some mark =>
      rcases List.find?_eq_some_iff_append.mp found with ⟨marked, front, behind, rfl, unmarked⟩
      rw [List.contains_iff_mem] at marked
      have unbarred : ∀ other ∈ queryMarks, other ∉ front := by
        intro other barred among
        simpa [barred] using unmarked other among
      rcases exists_readQuery_eq_cons (unbarred_of_name named unbarred) marked (behind ++ rest) with
        ⟨others', first⟩
      rw [readParameter_of_name named] at first
      simp only [List.append_assoc, List.cons_append] at first read
      rw [read, List.cons.injEq, Prod.mk.injEq] at first
      have cut : unescape front = encode (front ++ mark :: behind) := first.1.2.symm
      rw [unescape_eq_encode_iff (List.sublist_append_left _ _)] at cut
      simp at cut

/-- The first of several parameters is read as it is written exactly if its value is. -/
theorem readQuery_cons_iff {value rest : List Char} {others : List (List UInt8 × List UInt8)} :
    readQuery (name ++ '=' :: (value ++ '&' :: rest)) = (encode name, encode value) :: others ↔
      IsVerbatim queryMarks value ∧ readQuery rest = others := by
  have split (unbarred : ∀ mark ∈ queryMarks, mark ∉ value) :
      readQuery (name ++ '=' :: (value ++ '&' :: rest)) =
        (encode name, unescape value) :: readQuery rest := by
    have cut := readQuery_append (unbarred_of_name named unbarred) rest
    rwa [List.append_assoc, List.cons_append, readParameter_of_name named] at cut
  constructor
  · intro read
    have unbarred := unbarred_of_readQuery named read
    rw [split unbarred, List.cons.injEq, Prod.mk.injEq] at read
    exact ⟨⟨unbarred, unescapeBytes_eq_self_iff.mp read.1.2⟩, read.2⟩
  · rintro ⟨verbatim, rfl⟩
    rw [split verbatim.unbarred, verbatim.unescape_eq]

/-- The last parameter is read as it is written exactly if its value is. -/
theorem readQuery_singleton_iff {value : List Char} :
    readQuery (name ++ '=' :: value) = [(encode name, encode value)] ↔
      IsVerbatim queryMarks value := by
  have alone (unbarred : ∀ mark ∈ queryMarks, mark ∉ value) :
      readQuery (name ++ '=' :: value) = [(encode name, unescape value)] := by
    rw [readQuery_of_unbarred (unbarred_of_name named unbarred), readParameter_of_name named]
  constructor
  · intro read
    have unbarred : ∀ mark ∈ queryMarks, mark ∉ value :=
      @unbarred_of_readQuery name named value [] _ (by rwa [List.append_nil])
    rw [alone unbarred, List.cons.injEq, Prod.mk.injEq] at read
    exact ⟨unbarred, unescapeBytes_eq_self_iff.mp read.1.2⟩
  · intro verbatim
    rw [alone verbatim.unbarred, verbatim.unescape_eq]

/-- Two parameters are read as they are written exactly if their values are. -/
theorem readQuery_pair_iff {other : List Char} (otherNamed : IsParameterName other)
    {value last : List Char} :
    readQuery (name ++ '=' :: (value ++ '&' :: (other ++ '=' :: last))) =
        [(encode name, encode value), (encode other, encode last)] ↔
      IsVerbatim queryMarks value ∧ IsVerbatim queryMarks last := by
  rw [readQuery_cons_iff named, readQuery_singleton_iff otherNamed]

end Parameter

end Url

end ChangeTransport
