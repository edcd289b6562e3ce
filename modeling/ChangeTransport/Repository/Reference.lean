import ChangeTransport.Error
import ChangeTransport.Text.Blank
import ChangeTransport.Text.Quoted

/-!
# Repositories and credentials

A repository is known by the system that holds it, the client of that system and its name; together
they give the addresses at which it is asked for.  Credentials are shown without the password.

Both can be taken from the environment, where a variable that is empty is not set.
-/

namespace ChangeTransport

/-- The variables of an environment, by name. -/
abbrev Environment := List (String × String)

namespace Environment

/-- The value of a variable. -/
def value? (environment : Environment) (name : String) : Option String :=
  environment.lookup name

/-- The value of a variable that must be set and not empty. -/
def required (environment : Environment) (name : String) : Except Error String :=
  match environment.value? name with
  | some value =>
    if value.isEmpty then .error (.configuration (name ++ " is not set")) else .ok value
  | none => .error (.configuration (name ++ " is not set"))

end Environment

/-- One repository on one client of one system. -/
structure Repository where
  /-- The address of the system, without slashes at its end. -/
  host : String
  client : String
  name : String
  deriving Repr, DecidableEq

namespace Repository

/-- Whether a character is a slash. -/
def isSlash (character : Char) : Bool := character == '/'

/-- A repository on the system at the given address. -/
def of (host client name : String) : Repository :=
  ⟨String.ofList (Text.stripEndWhere isSlash host.toList), client, name⟩

/-- The repository that an environment names. -/
def ofEnvironment (environment : Environment) : Except Error Repository := do
  let host ← environment.required "GCTS_HOST"
  let client ← environment.required "GCTS_CLIENT"
  let name ← environment.required "GCTS_REPOSITORY"
  pure (of host client name)

/-- The address of all repositories of the client. -/
def listUrl (repository : Repository) : String :=
  repository.host ++ "/sap/bc/cts_abapvcs/repository?sap-client=" ++ repository.client

/-- The address of the repository. -/
def url (repository : Repository) : String :=
  repository.host ++ "/sap/bc/cts_abapvcs/repository/" ++ repository.name ++ "?sap-client=" ++
    repository.client

/-- The address of something that is done with the repository. -/
def actionUrl (repository : Repository) (action : String) : String :=
  repository.host ++ "/sap/bc/cts_abapvcs/repository/" ++ repository.name ++ "/" ++ action ++
    "?sap-client=" ++ repository.client

/-- The address of a development tool of the system. -/
def toolUrl (repository : Repository) (path : String) : String :=
  repository.host ++ "/sap/bc/adt/" ++ String.ofList (path.toList.dropWhile isSlash) ++
    "?sap-client=" ++ repository.client

/-- A repository as it is shown. -/
def shown (repository : Repository) : String :=
  "RepositoryRef \x7b host: " ++ Text.quote repository.host ++ ", client: " ++
    Text.quote repository.client ++ ", repository: " ++ Text.quote repository.name ++ " \x7d"

end Repository

/-- The name and the password of a user. -/
structure Credentials where
  username : String
  password : String
  deriving Repr, DecidableEq

namespace Credentials

/-- The credentials that an environment holds. -/
def ofEnvironment (environment : Environment) : Except Error Credentials := do
  let username ← environment.required "GCTS_USERNAME"
  let password ← environment.required "GCTS_PASSWORD"
  pure ⟨username, password⟩

/-- Credentials as they are shown: the password is left out. -/
def shown (credentials : Credentials) : String :=
  "Credentials \x7b username: " ++ Text.quote credentials.username ++
    ", password: \"<redacted>\" \x7d"

end Credentials

end ChangeTransport
