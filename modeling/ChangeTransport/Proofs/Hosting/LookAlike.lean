import ChangeTransport.Proofs.Hosting.Remote
import ChangeTransport.Proofs.Hosting.Written
import ChangeTransport.Proofs.Rollback.Resolution

/-!
# Hosts that look like that of a provider

A remote is taken for one of a provider only if the host that is written in it is the domain of the
provider.  What is written around the host does not count: neither the user nor the port nor the
path, whatever they hold.  A resolution with any other remote asks no provider.
-/

namespace ChangeTransport

namespace Text

theorem toLower_ofList_lowered {characters : List Char}
    (ascii : ∀ character ∈ characters, character.toNat < 0x80) :
    (String.ofList (characters.map lowerAscii)).toLower = (String.ofList characters).toLower := by
  rw [toLower_eq_iff, toList_toLower, String.toList_ofList, String.toList_ofList, List.map_map]
  apply List.map_congr_left
  intro character among
  rw [Function.comp_apply, ← lowerAscii_eq_toLower, ← lowerAscii_eq_toLower]
  exact (lowerAscii_of_ascii (ascii character among)).2

end Text

namespace HostingProvider

/-- An address of 32 bits is not the domain of a provider. -/
theorem ofHost?_shortAddressText (address : Nat) :
    ofHost? (String.ofList (Url.shortAddressText address)) = none := by
  rw [ofHost?_eq, if_neg]
  intro same
  rw [Text.toLower_eq_iff, String.toList_ofList] at same
  have letter : 'g' ∈ (Url.shortAddressText address).map Char.toLower := by
    rw [same]
    decide
  rcases List.mem_map.mp letter with ⟨character, among, lowered⟩
  rcases Url.Host.isDigit_of_mem_shortAddressText among with digit | rfl
  · simp only [Char.isDigit, Bool.and_eq_true, decide_eq_true_eq] at digit
    have high : character.toNat ≤ 57 := digit.2
    have small : ¬ ('A' ≤ character ∧ character ≤ 'Z') := by
      rintro ⟨low, -⟩
      have low : 65 ≤ character.toNat := low
      omega
    rw [← Text.lowerAscii_eq_toLower, Text.lowerAscii, if_neg small] at lowered
    rw [lowered] at high
    exact absurd high (by decide)
  · cases lowered

end HostingProvider

namespace HostedRepository

/-- A letter or a digit of ASCII, a full stop or a hyphen. -/
def isOfHost (character : Char) : Bool :=
  Url.isLetter character || Text.isDigit character || character == '.' || character == '-'

/--
The remotes on a host that are written as an address, or short.  What is written short is not itself
an address: with `//` behind the colon, a user stands in front of the host, or the host cannot be a
scheme.
-/
inductive IsRemoteOn (host : List Char) : List Char → Prop
  | address {scheme : List Char} {user port : Option (List Char)} {rest : List Char}
      (known : scheme ∈ ["https", "http", "ssh", "git"].map String.toList)
      (userNamed : ∀ name ∈ user, ∀ character ∈ name, Url.isOfUser character = true)
      (portNamed : ∀ digits ∈ port, ∀ character ∈ digits, Text.isDigit character = true) :
      IsRemoteOn host (scheme ++ "://".toList ++
        (Url.userPart user ++ (host ++ Url.portPart port) ++ '/' :: rest))
  | short {user : Option (List Char)} {rest : List Char}
      (userNamed : ∀ name ∈ user,
        (∀ character ∈ name, Url.isOfUser character = true) ∧ ':' ∉ name)
      (filled : rest ≠ [])
      (unmarked : ¬ "://".toList <:+: rest)
      (noScheme : user = none → host.head?.any Url.isLetter = true → ¬ "//".toList <+: rest) :
      IsRemoteOn host (Url.userPart user ++ host ++ ':' :: rest)

section OtherHost

variable {host : List Char} (nonempty : host ≠ [])
  (plain : ∀ character ∈ host, isOfHost character = true)
  (other : (String.ofList host).toLower ≠ "github.com")

include plain

theorem isPlain_of_isOfHost : ∀ character ∈ host, Url.IsPlain character := by
  intro character among
  have known := plain character among
  apply Url.isPlain_of_isOfScheme
  simp only [isOfHost, Bool.or_eq_true, beq_iff_eq] at known
  rcases known with ((letter | digit) | rfl) | rfl
  · simp [Url.isOfScheme, letter]
  · simp [Url.isOfScheme, digit]
  · rfl
  · rfl

include other

/-- An address whose host is read from another one belongs to no provider. -/
theorem providerOf?_eq_none {url : Url} {spelled : Url.Host}
    (read : url.host? = some spelled)
    (kept : spelled = .name host ∨ spelled = .name (host.map Text.lowerAscii) ∨
      ∃ address, spelled = .short address) :
    providerOf? url = none := by
  have ascii : ∀ character ∈ host, character.toNat < 0x80 :=
    fun character among => (isPlain_of_isOfHost plain character among).ascii
  rw [providerOf?, read, Option.bind_some]
  rcases kept with rfl | rfl | ⟨address, rfl⟩
  · rw [Url.Host.text, HostingProvider.ofHost?_eq, if_neg other]
  · rw [Url.Host.text, HostingProvider.ofHost?_eq, Text.toLower_ofList_lowered ascii,
      if_neg other]
  · exact HostingProvider.ofHost?_shortAddressText address

/-! ## Remotes that are written as addresses -/

include nonempty

/-- The blanks at the end of an address belong to what stands behind the host. -/
theorem providerOf?_of_address
    {scheme : List Char} {user port : Option (List Char)} {rest : List Char} {url : Url}
    (known : scheme ∈ ["https", "http", "ssh", "git"].map String.toList)
    (userNamed : ∀ name ∈ user, ∀ character ∈ name, Url.isOfUser character = true)
    (portNamed : ∀ digits ∈ port, ∀ character ∈ digits, Text.isDigit character = true)
    (parsed : parseRemote (Text.stripWhere Text.isBlank (scheme ++ "://".toList ++
      (Url.userPart user ++ (host ++ Url.portPart port) ++ '/' :: rest))) = .ok url) :
    providerOf? url = none := by
  have named := Url.isScheme_of_mem known
  have start : (scheme ++ "://".toList ++
        (Url.userPart user ++ (host ++ Url.portPart port))).dropWhile Text.isBlank =
      scheme ++ "://".toList ++ (Url.userPart user ++ (host ++ Url.portPart port)) := by
    cases scheme with
    | nil => cases named.first
    | cons first others =>
        exact List.dropWhile_cons_of_neg (by simp [(named.isPlain first (by simp)).visible.1])
  rw [← List.append_assoc, Text.stripWhere_append_cons (by decide), start, List.append_assoc,
    parseRemote_scheme] at parsed
  rcases Url.exists_host_of_parse (isPlain_of_isOfHost plain) userNamed portNamed named nonempty
    parsed with ⟨spelled, read, kept⟩
  exact providerOf?_eq_none plain other read kept

/-! ## Remotes that are written short -/

section Short

variable {user : Option (List Char)} {rest : List Char} {url : Url}
  (userNamed : ∀ name ∈ user,
    (∀ character ∈ name, Url.isOfUser character = true) ∧ ':' ∉ name)
include userNamed

omit other nonempty in
/-- The first colon stands behind the host. -/
theorem not_mem_front :
    ':' ∉ Url.userPart user ++ host ∧ '/' ∉ Url.userPart user ++ host ∧
      ∀ character ∈ Url.userPart user ++ host, Url.isBreak character = false := by
  have plainHost := isPlain_of_isOfHost plain
  have inside : ∀ character ∈ Url.userPart user ++ host,
      (∀ kind, Url.Kind.endsAuthority kind character = false) ∧
        Url.isBreak character = false := by
    intro character among
    refine @Url.inside_of_mem_authority host user none plainHost
      (fun name named => (userNamed name named).1) ?_ character ?_
    · simp
    · rwa [Url.portPart, List.append_nil]
  refine ⟨?_, fun among => ?_, fun character among => (inside character among).2⟩
  · rw [List.mem_append]
    rintro (among | among)
    · cases user with
      | none => cases among
      | some name => simp [Url.userPart, (userNamed name rfl).2] at among
    · cases (plainHost ':' among).unbarred
  · cases (inside '/' among).1 .other

/--
Without blanks at its front, a remote that is written short stands for an address of `ssh`.  It is
read as it is where `//` stands behind the colon, or nothing, and then it has no host.
-/
theorem providerOf?_of_short
    (start : ∀ character, (Url.userPart user ++ host).head? = some character →
      Url.isOuterBlank character = false)
    (unmarked : ¬ "://".toList <:+: rest)
    (noScheme : user = none → host.head?.any Url.isLetter = true → ¬ "//".toList <+: rest)
    (parsed : parseRemote (Url.userPart user ++ host ++ ':' :: rest) = .ok url) :
    providerOf? url = none := by
  rcases not_mem_front plain userNamed with ⟨noColon, noSlash, unbroken⟩
  by_cases marked : hasSchemeMark (Url.userPart user ++ host ++ ':' :: rest) = true
  · have begins := ((hasSchemeMark_append noColon rest).mp marked).resolve_right
      (fun inner => unmarked (hasSchemeMark_iff.mp inner))
    have relative : ¬ ((Url.userPart user ++ host).all Url.isOfScheme = true ∧
        (Url.userPart user ++ host).head?.any Url.isLetter = true) := by
      rintro ⟨named, first⟩
      cases user with
      | none => exact noScheme rfl first begins
      | some name => simp [Url.userPart, Url.isOfScheme, Url.isLetter, Text.isDigit] at named
    rw [parseRemote_of_mark marked, Url.parse_of_not_scheme start unbroken noColon relative]
      at parsed
    cases parsed
  · by_cases filled : rest = []
    · rw [filled, parseRemote_concat noColon] at parsed
      rw [providerOf?, Url.host?_of_parse_concat start unbroken noColon parsed, Option.bind_none]
    · have whole : Url.userPart user ++ host =
          Url.userPart user ++ (host ++ Url.portPart none) := by
        rw [Url.portPart, List.append_nil]
      rw [parseRemote_append (by simp [nonempty]) noColon noSlash filled marked, whole] at parsed
      rcases Url.exists_host_of_parse (isPlain_of_isOfHost plain)
        (fun name named => (userNamed name named).1) (by simp)
        (Url.isScheme_of_mem (by decide)) nonempty parsed with ⟨spelled, read, kept⟩
      exact providerOf?_eq_none plain other read kept

omit other nonempty in
/-- Blanks in front of a remote belong to the user. -/
theorem dropWhile_front :
    ∃ trimmed : Option (List Char),
      (Url.userPart user ++ host).dropWhile Text.isBlank = Url.userPart trimmed ++ host ∧
      (trimmed = none → user = none) ∧
      ∀ name ∈ trimmed,
        (∀ character ∈ name, Url.isOfUser character = true) ∧ ':' ∉ name := by
  have plainHost := isPlain_of_isOfHost plain
  cases user with
  | none =>
      refine ⟨none, ?_, fun _ => rfl, by rintro name ⟨⟩⟩
      cases host with
      | nil => rfl
      | cons first others =>
          exact List.dropWhile_cons_of_neg (by simp [(plainHost first (by simp)).visible.1])
  | some name =>
      refine ⟨some (name.dropWhile Text.isBlank), ?_, by rintro ⟨⟩, ?_⟩
      · rw [Url.userPart_some_append, Text.dropWhile_append_cons (by decide),
          Url.userPart_some_append]
      · rintro kept ⟨⟩
        have part := (List.dropWhile_suffix Text.isBlank (l := name)).subset
        exact ⟨fun character among => (userNamed name rfl).1 character (part among),
          fun among => (userNamed name rfl).2 (part among)⟩

end Short

include nonempty in
/-- A remote on another host is not hosted by a provider. -/
theorem ofRemote_ne_some {remote : String}
    (written : IsRemoteOn host remote.toList) (hosted : HostedRepository) :
    ofRemote remote ≠ .ok (some hosted) := by
  intro found
  rcases exists_of_ofRemote_eq_some found with ⟨url, parsed, made⟩
  have known := (ofUrl_eq_some_iff.mp made).1
  rw [Text.trimBlanks, String.toList_ofList] at parsed
  suffices providerOf? url = none by
    rw [this] at known
    cases known
  generalize remote.toList = listed at written parsed
  cases written with
  | address schemeKnown userNamed portNamed =>
      exact providerOf?_of_address nonempty plain other schemeKnown userNamed portNamed parsed
  | @short user rest userNamed filled unmarked noScheme =>
      rcases dropWhile_front plain userNamed with ⟨trimmed, split, unnamed, trimmedNamed⟩
      have part := Text.stripEndWhere_prefix Text.isBlank rest
      rw [Text.stripWhere_append_cons (by decide), split] at parsed
      refine providerOf?_of_short nonempty plain other trimmedNamed ?_ ?_ ?_ parsed
      · intro character first
        have visible := (Text.dropWhile_eq_iff.mp split).2 character first
        have among := List.mem_of_mem_head? first
        rcases List.mem_append.mp among with among | among
        · cases trimmed with
          | none => cases among
          | some name =>
              rcases List.mem_append.mp among with among | among
              · exact Url.isOuterBlank_of_isOfUser ((trimmedNamed name rfl).1 character among)
                  visible
              · rw [List.mem_singleton.mp among]
                decide
        · exact (isPlain_of_isOfHost plain character among).visible.2.1
      · exact fun marked => unmarked (marked.trans part.isInfix)
      · exact fun absent first begins => noScheme (unnamed absent) first (begins.trans part)

end OtherHost

end HostedRepository

/-! ## Resolutions -/

/-- A resolution asks no provider if the remote in the answer is not hosted by one. -/
theorem Repository.providerRequests_eq_nil
    {repository : Repository} {answers : List Http.Answer}
    (unhosted : ∀ hosted,
      repository.remoteIn (scriptedAnswer answers 0 (.get repository.url)) ≠ .ok (some hosted))
    (commit token : Option String) (providerAnswers : List Http.Answer) :
    (repository.resolution commit token answers providerAnswers).providerRequests = [] := by
  unfold resolution
  cases given? commit with
  | some given => rfl
  | none =>
      rcases remote : repository.remoteIn (scriptedAnswer answers 0 (.get repository.url)) with
        error | _ | hosted
      · simp only [remote]
      · simp only [remote]
      · exact absurd remote (unhosted hosted)

namespace HostedRepository

/--
A remote on a host that is not the domain of a provider is not hosted by it, whatever is written
around the host, and a resolution that meets this remote in the descriptor asks no provider.
-/
theorem look_alike_host_is_not_provider
    {host remote : String}
    (nonempty : host ≠ "")
    (plain : ∀ character ∈ host.toList, isOfHost character = true)
    (other : host.toLower ≠ "github.com")
    (written : IsRemoteOn host.toList remote.toList) :
    (∀ hosted, ofRemote remote ≠ .ok (some hosted)) ∧
      ∀ (repository : Repository) (commit token : Option String)
        (answers providerAnswers : List Http.Answer) (observer : Observer)
        (descriptor : Descriptor),
        repository.descriptorIn (scriptedAnswer answers 0 (.get repository.url)) =
            .ok descriptor →
          descriptor.url = remote →
          let run := Step.runIn (.start (.ofScript answers) (.ofScript providerAnswers) observer)
            (repository.resolve commit token)
          run.2.provider.sent = [] := by
  have filled : host.toList ≠ [] := by simpa using nonempty
  have differs : (String.ofList host.toList).toLower ≠ "github.com" := by
    rwa [String.ofList_toList]
  have unhosted := ofRemote_ne_some filled plain differs written
  refine ⟨unhosted, ?_⟩
  intro repository commit token answers providerAnswers observer descriptor described named run
  have remoteless : ∀ hosted,
      repository.remoteIn (scriptedAnswer answers 0 (.get repository.url)) ≠
        .ok (some hosted) := by
    intro hosted
    rw [Repository.remoteIn, described, ok_bind, named]
    exact unhosted hosted
  rcases repository.runIn_resolve commit token
    (.start (.ofScript answers) (.ofScript providerAnswers) observer) rfl rfl with
    ⟨log, events, ended⟩
  rw [show run = _ from ended, Repository.providerRequests_eq_nil remoteless]
  rfl

/-- The domain of a provider does not count as a user, as the front of a host or in a path. -/
theorem look_alike_of_user_and_path :
    let remote := "https://github.com@github.com.example:443/github.com/demo"
    let described : Http.Answer :=
      .ofText ("\x7b\"result\":\x7b\"url\":\"" ++ remote ++ "\"\x7d\x7d")
    let repository : Repository := .of "http://host:50000" "000" "demo"
    (∀ hosted, ofRemote remote ≠ .ok (some hosted)) ∧
      ∀ token providerAnswers,
        let run := Step.runIn
          (.start (.ofScript [described]) (.ofScript providerAnswers) .ignoring)
          (repository.resolve none token)
        run.2.provider.sent = [] := by
  intro remote described repository
  have written : IsRemoteOn "github.com.example".toList
      "https://github.com@github.com.example:443/github.com/demo".toList :=
    @IsRemoteOn.address _ "https".toList (some "github.com".toList) (some "443".toList)
      "github.com/demo".toList (by decide)
      (by rintro name ⟨⟩; exact List.all_eq_true.mp (by decide))
      (by rintro digits ⟨⟩; exact List.all_eq_true.mp (by decide))
  have other : "github.com.example".toLower ≠ "github.com" := by
    rw [ne_eq, Text.toLower_eq_iff]
    decide
  have read : (repository.descriptorIn
      (scriptedAnswer [described] 0 (.get repository.url))).toOption =
        some ⟨"", "", "", "", "", "", "", remote, "", []⟩ := by
    decide +kernel
  rcases look_alike_host_is_not_provider (by decide) (List.all_eq_true.mp (by decide)) other
    written with
    ⟨unhosted, unasked⟩
  refine ⟨unhosted, fun token providerAnswers => ?_⟩
  exact unasked repository none token [described] providerAnswers .ignoring _
    (eq_ok_of_toOption read) rfl

/-- With a scheme in front of the first colon, the host is what stands behind the slashes. -/
theorem scheme_before_colon_is_no_host :
    (∀ character ∈ "ssh".toList, isOfHost character = true) ∧
      Text.sameIgnoringCase "ssh" "github.com" = false ∧
      "ssh://github.com/octo/demo" = "ssh" ++ ":" ++ "//github.com/octo/demo" ∧
      ¬ "://".toList <:+: "//github.com/octo/demo".toList ∧
      (ofRemote "ssh://github.com/octo/demo").toOption = some (some ⟨.gitHub, "octo/demo"⟩) := by
  refine ⟨List.all_eq_true.mp (by decide), ?_⟩
  decide +kernel

end HostedRepository

end ChangeTransport
