import ChangeTransport.Url.Basic
import ChangeTransport.Proofs.Checks
import ChangeTransport.Proofs.Text.Blank
import ChangeTransport.Proofs.Url.Host

/-!
# Reading the authority of an address

An address `scheme://user@host:port/path` is cut at the signs between its parts.  The user may hold
every sign that does not end the authority, since the last `@` counts; the host may hold none.
-/

namespace ChangeTransport.Url

/-! ## Characters of names -/

theorem ascii_of_isOfScheme {character : Char} (named : isOfScheme character = true) :
    character.toNat < 0x80 := by
  simp only [isOfScheme, isLetter, Text.isDigit, Bool.or_eq_true, Bool.and_eq_true,
    decide_eq_true_eq, beq_iff_eq] at named
  rcases named with (((((⟨-, last⟩ | ⟨-, last⟩) | ⟨-, last⟩) | rfl) | rfl) | rfl)
  · exact Nat.lt_of_le_of_lt last (by decide)
  · exact Nat.lt_of_le_of_lt last (by decide)
  · exact Nat.lt_of_le_of_lt last (by decide)
  all_goals decide

/-- A character that is a sign nowhere in an address, and is left as it is everywhere. -/
structure IsPlain (character : Char) : Prop where
  ascii : character.toNat < 0x80
  visible : Text.isBlank character = false ∧ isOuterBlank character = false ∧
    isBreak character = false
  unescaped : character ≠ '%' ∧ isControl character = false
  unbarred : Host.isBarred character = false
  inside : ∀ kind, Kind.endsAuthority kind character = false

theorem isPlain_of_isOfScheme {character : Char} (named : isOfScheme character = true) :
    IsPlain character := by
  have ascii := ascii_of_isOfScheme named
  constructor
  · exact ascii
  · revert named
    exact Text.ascii_forall (by decide +kernel) ascii
  · revert named
    exact Text.ascii_forall (by decide +kernel) ascii
  · revert named
    exact Text.ascii_forall (by decide +kernel) ascii
  · rintro (_ | _ | _) <;> revert named <;> exact Text.ascii_forall (by decide +kernel) ascii

/-! ## Parts of an authority -/

/-- A user in front of a host, with the sign behind it. -/
def userPart : Option (List Char) → List Char
  | some user => user ++ ['@']
  | none => []

theorem userPart_some_append (user rest : List Char) :
    userPart (some user) ++ rest = user ++ '@' :: rest := by
  rw [userPart, List.append_assoc, List.singleton_append]

/-- A port behind a host, with the sign in front of it. -/
def portPart : Option (List Char) → List Char
  | some digits => ':' :: digits
  | none => []

/-- The last `@` ends the user. -/
theorem cutUser_append {rest : List Char} (unsigned : '@' ∉ rest) (user : Option (List Char)) :
    cutUser (userPart user ++ rest) = (user, rest) := by
  have absent : '@' ∉ rest.reverse := fun among => unsigned (List.mem_reverse.mp among)
  cases user with
  | none =>
      simp only [cutUser, userPart, List.nil_append, Text.span_bne_of_not_mem absent]
  | some user =>
      have turned : (userPart (some user) ++ rest).reverse =
          rest.reverse ++ '@' :: user.reverse := by
        rw [userPart_some_append]
        simp
      simp only [cutUser, turned, Text.span_bne_append absent, List.reverse_reverse]

/-- A host without signs ends where the port begins. -/
theorem cutPort_append {host : List Char}
    (plain : ∀ character ∈ host, IsPlain character) (port : Option (List Char)) :
    cutPort false (host ++ portPart port) = (host, portPart port) := by
  induction host with
  | nil => cases port <;> rfl
  | cons first rest induction =>
      have others := induction fun other among => plain other (List.mem_cons_of_mem _ among)
      have unbarred := (plain first (by simp)).unbarred
      have colon : first ≠ ':' := by
        rintro rfl
        cases unbarred
      have left : first ≠ '[' := by
        rintro rfl
        cases unbarred
      have right : first ≠ ']' := by
        rintro rfl
        cases unbarred
      simp [cutPort, colon, left, right, others]

/-- The parts of an authority are read one by one. -/
theorem readAuthority_append
    {scheme host path : List Char} {user port : Option (List Char)}
    (nonempty : host ≠ []) (plain : ∀ character ∈ host, IsPlain character)
    (unsigned : '@' ∉ portPart port) :
    readAuthority scheme (userPart user ++ (host ++ portPart port)) path =
      (do
        let named := (user.map User.read).getD .nobody
        let host ← readHost (Kind.ofScheme scheme) host (portPart port)
        let (port, behind) ← readPort (defaultPort? scheme) (portPart port)
        if host.isNone ∧ !named.text.isEmpty then throw .emptyHost
        pure (⟨named, host, port⟩, behind)) := by
  have alone : '@' ∉ host ++ portPart port := by
    rw [List.mem_append]
    rintro (among | among)
    · cases (plain '@' among).unbarred
    · exact unsigned among
  have filled : (host ++ portPart port).isEmpty = false := by
    simp [nonempty]
  simp only [readAuthority, cutUser_append alone, cutPort_append plain, filled]
  simp

section Host

variable {host : List Char} (nonempty : host ≠ [])
  (plain : ∀ character ∈ host, IsPlain character)
include plain

theorem head?_ne_bracket : host.head? ≠ some '[' := by
  intro first
  cases (plain '[' (List.mem_of_mem_head? first)).unbarred

include nonempty

/-- Behind a scheme that is not common, a host without signs is taken as it is. -/
theorem ofOther?_of_plain : Host.ofOther? host = .ok (some (.name host)) := by
  have unbarred : host.any Host.isBarred = false := by
    rw [List.any_eq_false]
    intro character among
    simp [(plain character among).unbarred]
  have kept : escapeWhere isControl host = host :=
    escapeWhere_of_unbarred fun character among => (plain character among).unescaped.2
  rw [Host.ofOther?, unbarred, kept, if_neg Bool.false_ne_true]
  · exact nonempty
  · rintro rest rfl
    exact head?_ne_bracket plain rfl

/-- A host without signs is read as a name of the same letters, or as a number. -/
theorem exists_of_readHost {kind : Kind} {port : List Char} {found : Option Host}
    (made : readHost kind host port = .ok found) :
    ∃ spelled, found = some spelled ∧
      (spelled = .name host ∨ spelled = .name (host.map Text.lowerAscii) ∨
        ∃ address, spelled = .short address) := by
  have common : (if host.isEmpty then .error .emptyHost else (Host.ofCommon host).map some) =
      .ok found → ∃ spelled, found = some spelled ∧
        (spelled = .name host ∨ spelled = .name (host.map Text.lowerAscii) ∨
          ∃ address, spelled = .short address) := by
    intro made
    rw [List.isEmpty_eq_false_iff.mpr nonempty, if_neg Bool.false_ne_true] at made
    rcases map_eq_ok_iff.mp made with ⟨spelled, named, rfl⟩
    have ascii : ∀ character ∈ host, character.toNat < 0x80 :=
      fun character among => (plain character among).ascii
    have unescaped : '%' ∉ host := fun among => (plain '%' among).unescaped.1 rfl
    exact ⟨spelled, rfl,
      .inr (Host.eq_of_ofCommon ascii unescaped (head?_ne_bracket plain) named)⟩
  cases kind with
  | common => exact common made
  | file => exact common made
  | other =>
      rw [readHost, ofOther?_of_plain nonempty plain, ok_bind] at made
      cases made
      exact ⟨_, rfl, .inl rfl⟩

end Host

/-! ## The text of an address -/

/-- What counts of the characters behind one that counts. -/
def cleanEnd (characters : List Char) : List Char :=
  (Text.stripEndWhere isOuterBlank characters).filter (fun character => !isBreak character)

theorem clean_append {front : List Char} {mark : Char}
    (start : ∀ character, front.head? = some character → isOuterBlank character = false)
    (unbroken : ∀ character ∈ front, isBreak character = false)
    (stays : isOuterBlank mark = false) (rest : List Char) :
    clean (String.ofList (front ++ mark :: rest)) = front ++ mark :: cleanEnd rest := by
  have whole : front.dropWhile isOuterBlank = front :=
    Text.dropWhile_eq_iff.mpr ⟨⟨[], rfl, by simp⟩, start⟩
  have kept : front.filter (fun character => !isBreak character) = front := by
    rw [List.filter_eq_self]
    intro character among
    simp [unbroken character among]
  have unbrokenMark : isBreak mark = false := by
    by_contra broken
    simp only [isBreak, Bool.not_eq_false, Bool.or_eq_true, beq_iff_eq] at broken
    rcases broken with (rfl | rfl) | rfl <;> cases stays
  rw [clean, String.toList_ofList, Text.stripWhere_append_cons stays, whole, List.filter_append,
    kept, List.filter_cons_of_pos (by simp [unbrokenMark]), cleanEnd]

/-- What stands in front of the first colon is a scheme if it can be one. -/
theorem scheme?_append {front : List Char} (noColon : ':' ∉ front) (rest : List Char) :
    scheme? (front ++ ':' :: rest) =
      if front.all isOfScheme = true ∧ front.head?.any isLetter = true then
        some (front.map Text.lowerAscii, rest)
      else none := by
  cases named : front.all isOfScheme with
  | true =>
      have cut : (front ++ ':' :: rest).span isOfScheme = (front, ':' :: rest) :=
        Text.span_append (List.all_eq_true.mp named) (by rintro character ⟨⟩; decide)
      rw [scheme?, cut]
      cases front with
      | nil => rfl
      | cons first others => simp
  | false =>
      obtain ⟨stop, others, kept⟩ : ∃ stop others, front.dropWhile isOfScheme = stop :: others := by
        apply List.exists_cons_of_ne_nil
        intro none
        rw [List.dropWhile_eq_nil_iff, ← List.all_eq_true, named] at none
        cases none
      have among : stop ∈ front :=
        (List.dropWhile_suffix isOfScheme).subset (by rw [kept]; exact List.mem_cons_self)
      have behind : (front ++ ':' :: rest).dropWhile isOfScheme =
          stop :: (others ++ ':' :: rest) := by
        rw [List.dropWhile_append, kept, List.isEmpty_cons, if_neg Bool.false_ne_true,
          List.cons_append]
      rw [if_neg (by simp), scheme?, List.span_eq_takeWhile_dropWhile, behind]
      split
      · rename_i equal
        cases (Prod.mk.inj equal).2
        exact absurd among noColon
      · rfl

/-- A scheme in small letters that is not the one of files. -/
structure IsScheme (scheme : List Char) : Prop where
  named : scheme.all isOfScheme = true
  first : scheme.head?.any isLetter = true
  small : scheme.map Text.lowerAscii = scheme
  kind : Kind.ofScheme scheme ≠ .file

theorem IsScheme.isPlain {scheme : List Char} (named : IsScheme scheme) :
    ∀ character ∈ scheme, IsPlain character := by
  intro character among
  exact isPlain_of_isOfScheme (List.all_eq_true.mp named.named character among)

theorem isScheme_of_mem {scheme : List Char}
    (known : scheme ∈ ["https", "http", "ssh", "git"].map String.toList) :
    IsScheme scheme := by
  simp only [List.map_cons, List.map_nil, List.mem_cons, List.not_mem_nil, or_false] at known
  rcases known with rfl | rfl | rfl | rfl <;>
    exact ⟨by decide, by decide, by decide, by decide⟩

/-- Without slashes behind the scheme there is no host. -/
theorem host?_of_readBehindScheme_nil {scheme : List Char} {url : Url}
    (read : readBehindScheme scheme [] = .ok url) : url.host? = none := by
  unfold readBehindScheme at read
  cases kind : Kind.ofScheme scheme with
  | common =>
      have none : readBehindSlashes scheme [] = .error .emptyHost := by
        simp [readBehindSlashes, readAuthority, cutUser, cutPort, readHost, kind]
      rw [kind] at read
      dsimp only [List.dropWhile_nil] at read
      rw [none] at read
      cases read
  | file =>
      rw [kind] at read
      cases read
      simp [ofFile, host?]
  | other =>
      rw [kind] at read
      cases read
      rfl

section Front

variable {front : List Char}
  (start : ∀ character, front.head? = some character → isOuterBlank character = false)
  (unbroken : ∀ character ∈ front, isBreak character = false) (noColon : ':' ∉ front)
include start unbroken noColon

/-- A text whose first colon stands behind no scheme is no address. -/
theorem parse_of_not_scheme
    (other : ¬ (front.all isOfScheme = true ∧ front.head?.any isLetter = true))
    (rest : List Char) :
    parse (String.ofList (front ++ ':' :: rest)) = .error .relative := by
  rw [parse, clean_append start unbroken (by decide), scheme?_append noColon, if_neg other]

/-- With nothing behind its first colon, an address has no host. -/
theorem host?_of_parse_concat {url : Url}
    (parsed : parse (String.ofList (front ++ [':'])) = .ok url) : url.host? = none := by
  rw [parse, clean_append start unbroken (by decide), scheme?_append noColon] at parsed
  by_cases named : front.all isOfScheme = true ∧ front.head?.any isLetter = true
  · rw [if_pos named] at parsed
    exact host?_of_readBehindScheme_nil parsed
  · rw [if_neg named] at parsed
    cases parsed

end Front

section Written

variable {scheme front : List Char}
  (inside : ∀ character ∈ front, Kind.endsAuthority (Kind.ofScheme scheme) character = false)
include inside

/-- The authority begins behind the two slashes behind the scheme. -/
theorem parse_written
    (named : IsScheme scheme) (nonempty : front ≠ [])
    (unbroken : ∀ character ∈ front, isBreak character = false) (rest : List Char) :
    parse (String.ofList (scheme ++ ':' :: '/' :: '/' :: (front ++ '/' :: rest))) =
      readBehindSlashes scheme (front ++ '/' :: cleanEnd rest) := by
  have cleaned : clean (String.ofList ((scheme ++ ':' :: '/' :: '/' :: front) ++ '/' :: rest)) =
      (scheme ++ ':' :: '/' :: '/' :: front) ++ '/' :: cleanEnd rest := by
    apply clean_append _ _ (by decide)
    · cases scheme with
      | nil => cases named.first
      | cons first others =>
          rintro character ⟨⟩
          exact (named.isPlain first (by simp)).visible.2.1
    · intro character among
      simp only [List.mem_append, List.mem_cons] at among
      rcases among with among | rfl | rfl | rfl | among
      · exact (named.isPlain character among).visible.2.2
      · decide
      · decide
      · decide
      · exact unbroken character among
  have noColon : ':' ∉ scheme := by
    intro among
    cases List.all_eq_true.mp named.named ':' among
  simp only [List.append_assoc, List.cons_append] at cleaned
  rw [parse, cleaned, scheme?_append noColon, if_pos ⟨named.named, named.first⟩, named.small]
  rcases List.exists_cons_of_ne_nil nonempty with ⟨first, others, rfl⟩
  dsimp only [readBehindScheme]
  cases kind : Kind.ofScheme scheme with
  | common =>
      have stop := inside first (by simp)
      simp only [kind, Kind.endsAuthority, Bool.or_eq_false_iff] at stop
      have slash : Kind.isSlash .common '/' = true := by decide
      dsimp only
      rw [List.dropWhile_cons_of_pos slash, List.dropWhile_cons_of_pos slash, List.cons_append,
        List.dropWhile_cons_of_neg (by simp [stop.1.1])]
  | file => exact absurd kind named.kind
  | other => rfl

/-- What an address holds beside its scheme and its authority. -/
def withTail (scheme : List Char) (authority : Authority) (characters : List Char) : Url :=
  let kind := Kind.ofScheme scheme
  let tail := Tail.read kind characters
  let path :=
    if kind = .other ∧ tail.before.isEmpty then []
    else normalSegments kind.isSlash (withoutSlash kind tail.before)
  ⟨scheme, some authority, .segments path, tail.query, tail.fragment⟩

/-- The authority ends at the slash in front of the path. -/
theorem readBehindSlashes_append (rest : List Char) :
    readBehindSlashes scheme (front ++ '/' :: rest) =
      (readAuthority scheme front ('/' :: rest)).map fun (authority, behind) =>
        withTail scheme authority (behind ++ '/' :: rest) := by
  have cut : (front ++ '/' :: rest).span
      (fun character => !Kind.endsAuthority (Kind.ofScheme scheme) character) =
        (front, '/' :: rest) :=
    Text.span_append (by simpa using inside) (by simp [Kind.endsAuthority, Kind.isSlash])
  rw [readBehindSlashes]
  simp only [cut]
  cases readAuthority scheme front ('/' :: rest) with
  | error fault => rfl
  | ok found => rfl

end Written

/-- A printable character of ASCII that does not end an authority. -/
def isOfUser (character : Char) : Bool :=
  0x20 ≤ character.toNat && character.toNat < 0x7F && !Kind.endsAuthority .common character

theorem endsAuthority_of_isOfUser {character : Char} (named : isOfUser character = true)
    (kind : Kind) : Kind.endsAuthority kind character = false := by
  simp only [isOfUser, Bool.and_eq_true, Bool.not_eq_true'] at named
  have common := named.2
  simp only [Kind.endsAuthority, Kind.isSlash, Bool.or_eq_false_iff] at common ⊢
  rcases common with ⟨⟨⟨slash, backslash⟩, query⟩, fragment⟩
  refine ⟨⟨⟨slash, ?_⟩, query⟩, fragment⟩
  have other : (character == '\\') = false := by simpa using backslash
  simp [other]

theorem isBreak_of_isOfUser {character : Char} (named : isOfUser character = true) :
    isBreak character = false := by
  by_contra broken
  simp only [isBreak, Bool.not_eq_false, Bool.or_eq_true, beq_iff_eq] at broken
  rcases broken with (rfl | rfl) | rfl <;> cases named

/-- A printable character that is no blank counts at the ends of a text. -/
theorem isOuterBlank_of_isOfUser {character : Char} (named : isOfUser character = true)
    (visible : Text.isBlank character = false) : isOuterBlank character = false := by
  have ascii : character.toNat < 0x80 := by
    simp only [isOfUser, Bool.and_eq_true, decide_eq_true_eq] at named
    omega
  revert named visible
  exact Text.ascii_forall (by decide +kernel) ascii

section Authority

variable {scheme host rest : List Char} {user port : Option (List Char)}
  (plain : ∀ character ∈ host, IsPlain character)
  (userNamed : ∀ name ∈ user, ∀ character ∈ name, isOfUser character = true)
  (portNamed : ∀ digits ∈ port, ∀ character ∈ digits, Text.isDigit character = true)
include plain userNamed portNamed

theorem inside_of_mem_authority {character : Char}
    (among : character ∈ userPart user ++ (host ++ portPart port)) :
    (∀ kind, Kind.endsAuthority kind character = false) ∧ isBreak character = false := by
  have sign : character = '@' ∨ character = ':' →
      (∀ kind, Kind.endsAuthority kind character = false) ∧ isBreak character = false := by
    rintro (rfl | rfl) <;> exact ⟨by rintro (_ | _ | _) <;> rfl, rfl⟩
  simp only [List.mem_append] at among
  rcases among with among | among | among
  · cases user with
    | none => cases among
    | some name =>
        rcases List.mem_append.mp among with among | among
        · have found := userNamed name rfl character among
          exact ⟨endsAuthority_of_isOfUser found, isBreak_of_isOfUser found⟩
        · exact sign (.inl (List.mem_singleton.mp among))
  · exact ⟨(plain character among).inside, (plain character among).visible.2.2⟩
  · cases port with
    | none => cases among
    | some digits =>
        rcases List.mem_cons.mp among with colon | among
        · exact sign (.inr colon)
        · have digit := portNamed digits rfl character among
          have found : IsPlain character := isPlain_of_isOfScheme (by simp [isOfScheme, digit])
          exact ⟨found.inside, found.visible.2.2⟩

variable (named : IsScheme scheme) (nonempty : host ≠ [])
include named nonempty

/-- An address is read as its host and its port are. -/
theorem parse_authority :
    parse (String.ofList (scheme ++ ':' :: '/' :: '/' ::
        (userPart user ++ (host ++ portPart port) ++ '/' :: rest))) =
      readHost (Kind.ofScheme scheme) host (portPart port) >>= fun host =>
        (readPort (defaultPort? scheme) (portPart port)).map fun (port, behind) =>
          withTail scheme ⟨(user.map User.read).getD .nobody, host, port⟩
            (behind ++ '/' :: cleanEnd rest) := by
  have known := fun character =>
    @inside_of_mem_authority host user port plain userNamed portNamed character
  have unsigned : '@' ∉ portPart port := by
    cases port with
    | none => simp [portPart]
    | some digits =>
        intro among
        rcases List.mem_cons.mp among with impossible | among
        · cases impossible
        · cases portNamed digits rfl '@' among
  rw [parse_written (fun character among => (known character among).1 _) named (by simp [nonempty])
      (fun character among => (known character among).2),
    readBehindSlashes_append (fun character among => (known character among).1 _),
    readAuthority_append nonempty plain unsigned]
  cases made : readHost (Kind.ofScheme scheme) host (portPart port) with
  | error fault => rfl
  | ok found =>
      rcases exists_of_readHost nonempty plain made with ⟨spelled, rfl, -⟩
      cases readPort (defaultPort? scheme) (portPart port) with
      | error fault => rfl
      | ok read => rfl

/-- The host that is read is a name of the letters that are written, or a number. -/
theorem exists_host_of_parse {url : Url}
    (parsed : parse (String.ofList (scheme ++ ':' :: '/' :: '/' ::
      (userPart user ++ (host ++ portPart port) ++ '/' :: rest))) = .ok url) :
    ∃ spelled, url.host? = some spelled ∧
      (spelled = .name host ∨ spelled = .name (host.map Text.lowerAscii) ∨
        ∃ address, spelled = .short address) := by
  rw [parse_authority plain userNamed portNamed named nonempty] at parsed
  rcases exists_of_bind_eq_ok parsed with ⟨found, made, parsed⟩
  rcases exists_of_readHost nonempty plain made with ⟨spelled, rfl, kept⟩
  rcases map_eq_ok_iff.mp parsed with ⟨⟨read, behind⟩, -, rfl⟩
  exact ⟨spelled, rfl, kept⟩

end Authority

end ChangeTransport.Url
