import ChangeTransport.Proofs.Hosting.Remote
import ChangeTransport.Proofs.Hosting.Written
import ChangeTransport.Proofs.Url.Path

/-!
# Three ways of writing a remote

The remote of a repository on a provider can be written as an address of `https`, as an address of
`ssh`, or short.  All three name the same repository, or none of them names one.
-/

namespace ChangeTransport.HostedRepository

open Url

/-! ## The domain of the provider -/

section Domain

variable {domain : List Char} (same : domain.map Char.toLower = "github.com".toList)
include same

theorem lowered_domain : domain.map Text.lowerAscii = "github.com".toList := by
  rw [funext Text.lowerAscii_eq_toLower, same]

theorem isPlain_domain : ∀ character ∈ domain, IsPlain character := by
  intro character among
  have lowered : isOfScheme (Text.lowerAscii character) = true := by
    have listed : Text.lowerAscii character ∈ "github.com".toList := by
      rw [← lowered_domain same]
      exact List.mem_map_of_mem among
    exact List.all_eq_true.mp (by decide : "github.com".toList.all isOfScheme = true) _ listed
  apply isPlain_of_isOfScheme
  unfold Text.lowerAscii at lowered
  split at lowered
  · rename_i capital
    simp [isOfScheme, isLetter, capital]
  · exact lowered

theorem ofCommon_domain : Host.ofCommon domain = .ok (.name "github.com".toList) := by
  have ascii : ∀ character ∈ domain, character.toNat < 0x80 :=
    fun character among => (isPlain_domain same character among).ascii
  have unescaped : '%' ∉ domain := fun among => (isPlain_domain same '%' among).unescaped.1 rfl
  have read : Domain.ofCharacters? domain = some "github.com".toList := by
    rw [Domain.ofCharacters?, Domain.folded?_of_ascii ascii, lowered_domain same]
    decide +kernel
  rw [Host.ofCommon_of_ascii ascii unescaped (head?_ne_bracket (isPlain_domain same)), read]
  rfl

/-- Both kinds of scheme find the domain in what is written. -/
theorem exists_readHost_domain {kind : Kind} (notFile : kind ≠ .file) :
    ∃ name, readHost kind domain [] = .ok (some (.name name)) ∧
      HostingProvider.ofHost? (String.ofList name) = some .gitHub := by
  have nonempty : domain ≠ [] := by
    rintro rfl
    cases same
  cases kind with
  | common =>
      refine ⟨"github.com".toList, ?_, by decide⟩
      simp only [readHost, List.isEmpty_eq_false_iff.mpr nonempty, ofCommon_domain same]
      rfl
  | file => exact absurd rfl notFile
  | other =>
      refine ⟨domain, ?_, ?_⟩
      · rw [readHost, ofOther?_of_plain nonempty (isPlain_domain same)]
        rfl
      · have small : (String.ofList domain).toLower = "github.com" := by
          rw [Text.toLower_eq_iff, String.toList_ofList, same]
        rw [HostingProvider.ofHost?_eq, if_pos small]

end Domain

/-! ## The path -/

/-- A letter or a digit of ASCII, a hyphen, a full stop, a low line, a tilde or a slash. -/
def isOfPath (character : Char) : Bool :=
  isLetter character || Text.isDigit character ||
    ['-', '.', '_', '~', '/'].contains character

/-- The path of the repository that a written path names; empty if it names none. -/
def namedPath (path : List Char) : List Char :=
  pathOf (segmentsText (normalSegments (Kind.isSlash .other) path))

/-- A character of a path that is a sign nowhere else, and is left as it is. -/
structure IsPlainInPath (character : Char) : Prop where
  visible : Text.isBlank character = false ∧ isOuterBlank character = false ∧
    isBreak character = false
  noSign : character ∉ ['#', '?', ':', '\\', '%']
  unbarred : isBarredInPath character = false

theorem isPlainInPath_of_isOfPath {character : Char} (named : isOfPath character = true) :
    IsPlainInPath character := by
  have ascii : character.toNat < 0x80 := by
    simp only [isOfPath, Bool.or_eq_true] at named
    rcases named with (letter | digit) | sign
    · exact ascii_of_isOfScheme (by simp [isOfScheme, letter])
    · exact ascii_of_isOfScheme (by simp [isOfScheme, digit])
    · have all : ['-', '.', '_', '~', '/'].all (fun sign => sign.toNat < 0x80) = true := by
        decide
      exact of_decide_eq_true
        (List.all_eq_true.mp all character (List.contains_iff_mem.mp sign))
  constructor <;> revert named <;> exact Text.ascii_forall (by decide +kernel) ascii

/-- One slash in front of a path does not change what it names. -/
theorem namedPath_cons (path : List Char) : namedPath ('/' :: path) = namedPath path := by
  have slash : Kind.isSlash .other '/' = true := by decide
  rcases normalSegments_cons slash path with same | more
  · rw [namedPath, same, namedPath]
  · have front : segmentsText ([] :: normalSegments (Kind.isSlash .other) path) =
        '/' :: segmentsText (normalSegments (Kind.isSlash .other) path) := rfl
    rw [namedPath, more, front, pathOf, Text.stripWhere_cons_of_drop (by decide), ← pathOf,
      namedPath]

theorem namedPath_dropWhile {path : List Char} (single : ¬ "//".toList <+: path) :
    namedPath (path.dropWhile (fun character => character == '/')) = namedPath path := by
  cases path with
  | nil => rfl
  | cons first rest =>
      by_cases slash : first = '/'
      · rw [slash] at single ⊢
        have stop : rest.dropWhile (fun character => character == '/') = rest := by
          refine Text.dropWhile_eq_iff.mpr ⟨⟨[], rfl, by simp⟩, ?_⟩
          intro character next
          rw [beq_eq_false_iff_ne]
          rintro rfl
          cases rest with
          | nil => cases next
          | cons second further =>
              cases next
              exact single ⟨further, rfl⟩
        rw [List.dropWhile_cons_of_pos (by decide), stop, namedPath_cons]
      · rw [List.dropWhile_cons_of_neg (by simpa using slash)]

section Path

variable {path : List Char} (plain : ∀ character ∈ path, isOfPath character = true)
include plain

theorem cleanEnd_of_plain : cleanEnd path = path := by
  have whole : Text.stripEndWhere isOuterBlank path = path := by
    rw [Text.stripEndWhere, List.reverse_eq_iff, Text.dropWhile_eq_iff]
    refine ⟨⟨[], rfl, by simp⟩, ?_⟩
    intro character last
    have among := List.mem_reverse.mp (List.mem_of_mem_head? last)
    exact (isPlainInPath_of_isOfPath (plain character among)).visible.2.1
  rw [cleanEnd, whole, List.filter_eq_self]
  intro character among
  simp [(isPlainInPath_of_isOfPath (plain character among)).visible.2.2]

/-- A plain path is read as its segments, whatever the scheme. -/
theorem withTail_of_plain (scheme : List Char) (authority : Authority) :
    withTail scheme authority ('/' :: path) =
      ⟨scheme, some authority,
        .segments (normalSegments (Kind.isSlash .other) path), none, none⟩ := by
  have signless : ∀ sign ∈ ['#', '?'], sign ∉ '/' :: path := by
    intro sign listed among
    rcases List.mem_cons.mp among with rfl | among
    · revert listed
      decide
    · exact (isPlainInPath_of_isOfPath (plain sign among)).noSign
        (List.mem_append_left [':', '\\', '%'] listed)
  have cut : ∀ kind, Tail.read kind ('/' :: path) = ⟨'/' :: path, none, none⟩ := by
    intro kind
    simp only [Tail.read, Text.span_bne_of_not_mem (signless '#' (by simp)),
      Text.span_bne_of_not_mem (signless '?' (by simp))]
  have slashes : ∀ kind, Text.piecesWhere (Kind.isSlash kind) path =
      Text.piecesWhere (Kind.isSlash .other) path := by
    intro kind
    apply Text.piecesWhere_congr
    intro character among
    have other : character ≠ '\\' := by
      rintro rfl
      exact (isPlainInPath_of_isOfPath (plain _ among)).noSign (by simp)
    simp [Kind.isSlash, other]
  have path : ∀ kind, normalSegments (Kind.isSlash kind) (withoutSlash kind ('/' :: path)) =
      normalSegments (Kind.isSlash .other) path := by
    intro kind
    have slash : Kind.isSlash kind '/' = true := rfl
    rw [withoutSlash, if_pos slash, normalSegments, slashes, normalSegments]
  simp [withTail, cut, path]

/-- An address at the domain names what its path names. -/
theorem exists_url_of_address
    {scheme domain : List Char} {user : Option (List Char)}
    (named : IsScheme scheme)
    (userNamed : ∀ name ∈ user, ∀ character ∈ name, isOfUser character = true)
    (same : domain.map Char.toLower = "github.com".toList) :
    ∃ url, Url.parse (String.ofList (scheme ++ ':' :: '/' :: '/' ::
        (userPart user ++ domain ++ '/' :: path))) = .ok url ∧
      providerOf? url = some .gitHub ∧ pathOf url.pathText = namedPath path := by
  have nonempty : domain ≠ [] := by
    rintro rfl
    cases same
  rcases exists_readHost_domain same named.kind with ⟨name, read, provider⟩
  have parsed := @parse_authority scheme domain path user none (isPlain_domain same) userNamed
    (by simp) named nonempty
  rw [portPart, List.append_nil, read, ok_bind, readPort, cleanEnd_of_plain plain] at parsed
  refine ⟨withTail scheme ⟨(user.map User.read).getD .nobody, some (.name name), none⟩
    ('/' :: path), parsed, ?_, ?_⟩
  · rw [withTail_of_plain plain]
    exact provider
  · rw [withTail_of_plain plain]
    rfl

end Path

/-! ## Spellings -/

/-- The three ways of writing a remote with a path at the domain of the provider. -/
inductive IsSpelling (path : List Char) : List Char → Prop
  | secure {domain : List Char} (same : domain.map Char.toLower = "github.com".toList) :
      IsSpelling path ("https://".toList ++ (domain ++ '/' :: path))
  | shell {user domain : List Char} (nonempty : user ≠ [])
      (named : ∀ character ∈ user, (isLetter character || Text.isDigit character) = true)
      (same : domain.map Char.toLower = "github.com".toList) :
      IsSpelling path ("ssh://".toList ++ (user ++ '@' :: domain ++ '/' :: path))
  | short {user domain : List Char} (nonempty : user ≠ [])
      (named : ∀ character ∈ user, (isLetter character || Text.isDigit character) = true)
      (same : domain.map Char.toLower = "github.com".toList) :
      IsSpelling path (user ++ '@' :: domain ++ ':' :: path)

theorem isPlain_user {user : List Char}
    (named : ∀ character ∈ user, (isLetter character || Text.isDigit character) = true) :
    ∀ character ∈ user, IsPlain character ∧ isOfUser character = true := by
  intro character among
  have known := named character among
  have ofScheme : isOfScheme character = true := by
    rw [isOfScheme, known]
    rfl
  refine ⟨isPlain_of_isOfScheme ofScheme, ?_⟩
  revert known
  exact Text.ascii_forall (by decide +kernel) (ascii_of_isOfScheme ofScheme)

/-- An address of `ssh` names what its path names, whoever the user is. -/
theorem exists_url_of_user {rest user domain : List Char}
    (plainRest : ∀ character ∈ rest, isOfPath character = true)
    (named : ∀ character ∈ user, (isLetter character || Text.isDigit character) = true)
    (same : domain.map Char.toLower = "github.com".toList) :
    ∃ url, Url.parse (String.ofList ("ssh".toList ++ ':' :: '/' :: '/' ::
        (user ++ '@' :: domain ++ '/' :: rest))) = .ok url ∧
      providerOf? url = some .gitHub ∧ pathOf url.pathText = namedPath rest := by
  rw [← userPart_some_append]
  apply exists_url_of_address plainRest (isScheme_of_mem (by decide)) _ same
  rintro name ⟨⟩ character among
  exact (isPlain_user named character among).2

section Spelled

variable {path listed : List Char} (filled : path ≠ [])
  (plain : ∀ character ∈ path, isOfPath character = true)
include filled plain

/-- No blank stands at the ends of what is written. -/
theorem IsSpelling.ends (spelled : IsSpelling path listed) :
    (∀ character, listed.head? = some character → Text.isBlank character = false) ∧
      ∀ character, listed.getLast? = some character → Text.isBlank character = false := by
  have last : ∀ (front : List Char) (mark character : Char),
      (front ++ mark :: path).getLast? = some character → Text.isBlank character = false := by
    intro front mark character last
    rw [List.getLast?_append_of_ne_nil _ (List.cons_ne_nil mark path),
      List.getLast?_cons_of_ne_nil filled] at last
    exact (isPlainInPath_of_isOfPath (plain character (List.mem_of_getLast? last))).visible.1
  have first : ∀ user : List Char, user ≠ [] →
      (∀ character ∈ user, (isLetter character || Text.isDigit character) = true) →
      ∀ rest character, (user ++ rest).head? = some character →
        Text.isBlank character = false := by
    intro user nonempty named rest character first
    rw [List.head?_append_of_ne_nil _ nonempty] at first
    exact (isPlain_user named character (List.mem_of_mem_head? first)).1.visible.1
  cases spelled with
  | secure same =>
      refine ⟨by rintro character ⟨⟩; decide, ?_⟩
      rw [← List.append_assoc]
      exact last _ '/'
  | shell nonempty named same =>
      refine ⟨by rintro character ⟨⟩; decide, ?_⟩
      rw [← List.append_assoc]
      exact last _ '/'
  | short nonempty named same =>
      refine ⟨?_, last _ ':'⟩
      rw [List.append_assoc]
      exact first _ nonempty named _

/-- What is written is read as an address at the domain with the same repository. -/
theorem IsSpelling.exists_url (single : ¬ "//".toList <+: path)
    (spelled : IsSpelling path listed) :
    ∃ url, parseRemote listed = .ok url ∧ providerOf? url = some .gitHub ∧
      pathOf url.pathText = namedPath path := by
  cases spelled with
  | @secure domain same =>
      have split : "https://".toList = "https".toList ++ "://".toList := by decide
      rw [split, parseRemote_scheme]
      exact @exists_url_of_address path plain "https".toList domain none
        (isScheme_of_mem (by decide)) (by simp) same
  | @shell user domain nonempty named same =>
      have split : "ssh://".toList = "ssh".toList ++ "://".toList := by decide
      rw [split, parseRemote_scheme]
      exact exists_url_of_user plain named same
  | @short user domain nonempty named same =>
      have noSign : ∀ sign ∈ [':', '/'], sign ∉ user ++ '@' :: domain := by
        intro sign listed among
        have unbarred : sign = '@' ∨ Host.isBarred sign = false := by
          rw [List.mem_append, List.mem_cons] at among
          rcases among with among | equal | among
          · exact .inr (isPlain_user named sign among).1.unbarred
          · exact .inl equal
          · exact .inr (isPlain_domain same sign among).unbarred
        rcases List.mem_pair.mp listed with rfl | rfl <;> revert unbarred <;> decide
      have unmarked : ¬ hasSchemeMark (user ++ '@' :: domain ++ ':' :: path) = true := by
        rw [hasSchemeMark_append (noSign ':' (by simp)), hasSchemeMark_iff]
        rintro (begins | marked)
        · exact single begins
        · have colon : ':' ∈ path := marked.subset (by decide)
          exact (isPlainInPath_of_isOfPath (plain ':' colon)).noSign (by simp)
      rw [parseRemote_append (by simp) (noSign ':' (by simp)) (noSign '/' (by simp)) filled
        unmarked, ← namedPath_dropWhile single]
      refine exists_url_of_user ?_ named same
      intro character among
      exact plain character ((List.dropWhile_suffix _).subset among)

end Spelled

/-- The remotes that spell a path at the domain of the provider, with blanks around them or none. -/
def Spells (remote : String) (path : List Char) : Prop :=
  ∃ front listed back, remote.toList = front ++ listed ++ back ∧
    (∀ character ∈ front ++ back, Text.isBlank character = true) ∧ IsSpelling path listed

/-- What a spelling is read as depends on the path only. -/
theorem Spells.ofRemote_eq {remote : String} {path : List Char}
    (spelled : Spells remote path) (filled : path ≠ [])
    (plain : ∀ character ∈ path, isOfPath character = true) (single : ¬ "//".toList <+: path) :
    ofRemote remote =
      if (namedPath path).isEmpty then
        .error (.configuration
          ("remote url " ++ Text.trimBlanks remote ++ " does not name a repository"))
      else .ok (some ⟨.gitHub, String.ofList (namedPath path)⟩) := by
  rcases spelled with ⟨front, listed, back, split, blank, spelled⟩
  have trimmed : (Text.trimBlanks remote).toList = listed := by
    rw [Text.trimBlanks, String.toList_ofList, Text.stripWhere_eq_iff]
    exact ⟨⟨front, back, split, blank⟩, spelled.ends filled plain⟩
  rcases spelled.exists_url filled plain single with ⟨url, parsed, provider, path⟩
  rw [ofRemote_of_parseRemote (by rw [trimmed]; exact parsed), ofUrl, provider]
  simp only [path]

/-! ## Owner and name -/

/-- A segment that is neither empty nor made of dots: the owner or the name of a repository. -/
structure IsPart (segment : List Char) : Prop where
  filled : segment ≠ []
  noSlash : '/' ∉ segment
  notDots : segment ≠ ['.'] ∧ segment ≠ ['.', '.']

theorem IsPart.piecesWhere {segment : List Char} (part : IsPart segment) :
    Text.piecesWhere (Kind.isSlash .other) segment = [segment] := by
  apply Text.piecesWhere_of_unmarked
  intro character among
  have other : character ≠ '/' := by
    rintro rfl
    exact part.noSlash among
  simp [Kind.isSlash, other]

theorem IsPart.isKept {segment : List Char} (part : IsPart segment)
    (plain : ∀ character ∈ segment, isOfPath character = true) : IsKept segment := by
  refine ⟨part.notDots, fun character among => ?_⟩
  have known := isPlainInPath_of_isOfPath (plain character among)
  refine ⟨?_, known.unbarred⟩
  rintro rfl
  exact known.noSign (by simp)

section Pair

variable {owner name : List Char} (ownerPart : IsPart owner) (namePart : IsPart name)
  (plain : ∀ character ∈ owner ++ '/' :: name, isOfPath character = true)
include ownerPart namePart plain

/-- A path of an owner and a name is kept as it is written. -/
theorem stripWhere_segmentsText_pair :
    Text.stripWhere (fun character => character == '/')
        (segmentsText (normalSegments (Kind.isSlash .other) (owner ++ '/' :: name))) =
      owner ++ '/' :: name := by
  have slash : Kind.isSlash .other '/' = true := by decide
  have pieces : Text.piecesWhere (Kind.isSlash .other) (owner ++ '/' :: name) = [owner, name] := by
    rw [Text.piecesWhere_append slash, ownerPart.piecesWhere, namePart.piecesWhere]
    rfl
  have kept : ∀ segment ∈ [owner, name], IsKept segment := by
    intro segment listed
    rcases List.mem_pair.mp listed with rfl | rfl
    · exact ownerPart.isKept fun character among => plain character (by simp [among])
    · exact namePart.isKept fun character among => plain character (by simp [among])
  have text : segmentsText [owner, name] = '/' :: (owner ++ '/' :: name) := by
    simp [segmentsText]
  rw [normalSegments_of_kept (by rwa [pieces]), pieces, text,
    Text.stripWhere_cons_of_drop (by decide), Text.stripWhere_eq_iff]
  refine ⟨⟨[], [], by simp, by simp⟩, ?_, ?_⟩
  · intro character first
    rw [List.head?_append_of_ne_nil _ ownerPart.filled] at first
    rw [beq_eq_false_iff_ne]
    rintro rfl
    exact ownerPart.noSlash (List.mem_of_mem_head? first)
  · intro character last
    rw [List.getLast?_append_of_ne_nil _ (List.cons_ne_nil '/' name),
      List.getLast?_cons_of_ne_nil namePart.filled] at last
    rw [beq_eq_false_iff_ne]
    rintro rfl
    exact namePart.noSlash (List.mem_of_getLast? last)

/-- An owner and a name are named without one ending `.git`. -/
theorem namedPath_pair :
    namedPath (owner ++ '/' :: name) ≠ [] ∧
      ((¬ ".git".toList <:+ name ∧ namedPath (owner ++ '/' :: name) = owner ++ '/' :: name) ∨
        namedPath (owner ++ '/' :: name) ++ ".git".toList = owner ++ '/' :: name) := by
  have written := stripWhere_segmentsText_pair ownerPart namePart plain
  by_cases ending : ".git".toList <:+ name
  · rcases ending with ⟨stem, rfl⟩
    have cut : namedPath (owner ++ '/' :: (stem ++ ".git".toList)) = owner ++ '/' :: stem :=
      pathOf_of_ending (by rw [written, List.append_assoc, List.cons_append])
    rw [cut]
    exact ⟨by simp, .inr (by rw [List.append_assoc, List.cons_append])⟩
  · have bare : ¬ ".git".toList <:+ owner ++ '/' :: name := by
      intro last
      have behind : '/' :: name <:+ owner ++ '/' :: name := List.suffix_append _ _
      rcases List.suffix_or_suffix_of_suffix last behind with shorter | longer
      · rcases List.suffix_cons_iff.mp shorter with equal | shorter
        · cases equal
        · exact ending shorter
      · have slash : '/' ∈ ".git".toList := longer.subset List.mem_cons_self
        revert slash
        decide
    have whole : namedPath (owner ++ '/' :: name) = owner ++ '/' :: name := by
      rw [namedPath, pathOf_of_no_ending (by rwa [written]), written]
    rw [whole]
    exact ⟨by simp, .inl ⟨ending, rfl⟩⟩

end Pair

/--
The three ways of writing a remote name the same repository, or none of them names one.  A path of
an owner and a name is the path of the repository, without one ending `.git`.
-/
theorem spellings_of_remote_agree
    {path : String}
    (nonempty : path ≠ "")
    (plain : ∀ character ∈ path.toList, isOfPath character = true)
    (single : ¬ "//".toList <+: path.toList) :
    ((∃ hosted, ∀ remote, Spells remote path.toList → ofRemote remote = .ok (some hosted)) ∨
      ∀ remote, Spells remote path.toList →
        ofRemote remote = .error (.configuration
          ("remote url " ++ Text.trimBlanks remote ++ " does not name a repository"))) ∧
    ∀ owner name, path.toList = owner ++ '/' :: name → IsPart owner → IsPart name →
      ∃ hosted, (∀ remote, Spells remote path.toList → ofRemote remote = .ok (some hosted)) ∧
        hosted.provider = .gitHub ∧
        ((¬ ".git".toList <:+ name ∧ hosted.path = path) ∨ hosted.path ++ ".git" = path) := by
  have filled : path.toList ≠ [] := by simpa using nonempty
  have found (named : namedPath path.toList ≠ []) (remote : String)
      (spelled : Spells remote path.toList) :
      ofRemote remote = .ok (some ⟨.gitHub, String.ofList (namedPath path.toList)⟩) := by
    rw [spelled.ofRemote_eq filled plain single, List.isEmpty_eq_false_iff.mpr named,
      if_neg Bool.false_ne_true]
  constructor
  · by_cases named : namedPath path.toList = []
    · refine .inr fun remote spelled => ?_
      rw [spelled.ofRemote_eq filled plain single, List.isEmpty_iff.mpr named, if_pos rfl]
    · exact .inl ⟨_, found named⟩
  · intro owner name split ownerPart namePart
    have known := namedPath_pair ownerPart namePart (by rwa [← split])
    rw [← split] at known
    refine ⟨_, found known.1, rfl, ?_⟩
    rcases known.2 with ⟨bare, equal⟩ | equal
    · exact .inl ⟨bare, by rw [equal, String.ofList_toList]⟩
    · refine .inr (String.toList_inj.mp ?_)
      rw [String.toList_append, String.toList_ofList, equal]

/-- A short remote with blanks around it names what the address of `https` names. -/
theorem spellings_of_demo_agree :
    ∃ hosted,
      ofRemote "https://GitHub.com/octo/demo.git" = .ok (some hosted) ∧
      ofRemote "ssh://git@github.com/octo/demo.git" = .ok (some hosted) ∧
      ofRemote " git@GITHUB.com:octo/demo.git\n" = .ok (some hosted) ∧
      (hosted.path = "octo/demo.git" ∨ hosted.path ++ ".git" = "octo/demo.git") := by
  have owner : IsPart "octo".toList := ⟨by decide, by decide, by decide⟩
  have name : IsPart "demo.git".toList := ⟨by decide, by decide, by decide⟩
  have path : ∀ character ∈ "octo/demo.git".toList, isOfPath character = true :=
    List.all_eq_true.mp (by decide)
  have user : ∀ character ∈ "git".toList, (isLetter character || Text.isDigit character) = true :=
    List.all_eq_true.mp (by decide)
  have blank : ∀ character ∈ [' '] ++ ['\n'], Text.isBlank character = true :=
    List.all_eq_true.mp (by decide)
  rcases (@spellings_of_remote_agree "octo/demo.git" (by decide) path (by decide)).2 _ _
    (by decide) owner name with ⟨hosted, read, -, named⟩
  refine ⟨hosted, read _ ?_, read _ ?_, read _ ?_, named.imp_left And.right⟩
  · exact ⟨[], _, [], by decide, by simp,
      @IsSpelling.secure _ "GitHub.com".toList (by decide)⟩
  · exact ⟨[], _, [], by decide, by simp,
      @IsSpelling.shell _ "git".toList "github.com".toList (by decide) user (by decide)⟩
  · exact ⟨[' '], _, ['\n'], by decide, blank,
      @IsSpelling.short _ "git".toList "GITHUB.com".toList (by decide) user (by decide)⟩

end ChangeTransport.HostedRepository
