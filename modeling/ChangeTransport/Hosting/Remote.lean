import ChangeTransport.Error
import ChangeTransport.Text.Blank
import ChangeTransport.Url.Basic

/-!
# Remotes on hosting providers

A remote belongs to a hosting provider if its host is the domain of the provider.  Remotes are
written as addresses, or as `user@host:path`, which stands for an address of the scheme `ssh`.
-/

namespace ChangeTransport

/-- A hosting provider. -/
inductive HostingProvider where
  | gitHub
  deriving Repr, DecidableEq

namespace HostingProvider

/-- All hosting providers. -/
def all : List HostingProvider := [gitHub]

/-- The domain of the remotes of a provider. -/
def domain : HostingProvider → String
  | gitHub => "github.com"

/-- The address below which a provider answers questions. -/
def apiBase : HostingProvider → String
  | gitHub => "https://api.github.com"

/-- The provider with a domain. -/
def ofHost? (host : String) : Option HostingProvider :=
  all.find? (fun provider => Text.sameIgnoringCase host provider.domain)

end HostingProvider

/-- A repository on a hosting provider. -/
structure HostedRepository where
  provider : HostingProvider
  /-- The owner and the name. -/
  path : String
  deriving Repr, DecidableEq

namespace HostedRepository

/-- Whether characters hold `://`. -/
def hasSchemeMark : List Char → Bool
  | ':' :: '/' :: '/' :: _ => true
  | _ :: rest => hasSchemeMark rest
  | [] => false

/-- The address for which `user@host:path` stands; none if a remote is not written like this. -/
def addressOfShort? (remote : List Char) : Option (List Char) :=
  if hasSchemeMark remote then
    none
  else
    match remote.span (fun character => character != ':') with
    | (authority, _ :: path) =>
      if authority.isEmpty || authority.contains '/' || path.isEmpty then
        none
      else
        some ("ssh://".toList ++ authority ++
          '/' :: path.dropWhile (fun character => character == '/'))
    | (_, []) => none

/-- The address of a remote. -/
def parseRemote (remote : List Char) : Except Url.Fault Url :=
  Url.parse (String.ofList ((addressOfShort? remote).getD remote))

/-- A path without slashes at its ends and without the ending `.git`. -/
def pathOf (path : List Char) : List Char :=
  let path := Text.stripWhere (fun character => character == '/') path
  if ".git".toList.isSuffixOf path then path.take (path.length - 4) else path

/-- The provider to whose domain an address belongs. -/
def providerOf? (url : Url) : Option HostingProvider :=
  url.host?.bind (fun host => HostingProvider.ofHost? (String.ofList host.text))

/-- The hosted repository for which the address of a remote stands. -/
def ofUrl (remote : String) (url : Url) : Except Error (Option HostedRepository) :=
  match providerOf? url with
  | none => .ok none
  | some provider =>
    let path := pathOf url.pathText
    if path.isEmpty then
      .error (.configuration ("remote url " ++ remote ++ " does not name a repository"))
    else
      .ok (some ⟨provider, String.ofList path⟩)

/-- The hosted repository for which a remote stands; none if it is not hosted by a provider. -/
def ofRemote (remote : String) : Except Error (Option HostedRepository) :=
  let remote := Text.trimBlanks remote
  if remote.isEmpty then
    .ok none
  else
    match parseRemote remote.toList with
    | .ok url => ofUrl remote url
    | .error fault => .error (.url fault)

/-- The address at which the status of a commit is asked for. -/
def statusUrl (repository : HostedRepository) (commit : String) : String :=
  repository.provider.apiBase ++ "/repos/" ++ repository.path ++ "/commits/" ++ commit ++ "/status"

end HostedRepository

end ChangeTransport
