import ChangeTransport.Diagnostics
import ChangeTransport.Step

/-!
# Creating a repository

The system is told the name and the properties of a new repository.  If it answers that the
repository exists, there is nothing to do, and that is no error.
-/

namespace ChangeTransport

/-- The properties of a new repository. -/
structure CreateOptions where
  /-- `SOURCE` or `TARGET`. -/
  role : String
  kind : String
  /-- The virtual system of the transport layer. -/
  vsid : String
  /-- The address of the remote. -/
  remoteUrl : String
  deriving Repr, DecidableEq

/-- The properties that a repository has unless others are given. -/
def CreateOptions.default : CreateOptions := ⟨"SOURCE", "GIT", "", ""⟩

/-- What comes of creating a repository. -/
inductive CreateOutcome where
  | created
  | alreadyExists
  deriving Repr, DecidableEq

/-- A member of an object, written without blanks. -/
def member (name : String) (value : List Char) : List Char :=
  Json.quoted name ++ ':' :: value

/-- An object of members, written without blanks. -/
def objectText (members : List (List Char)) : List Char :=
  '\x7b' :: ([','].intercalate members ++ ['\x7d'])

/-- The text that tells the system about a new repository. -/
def CreateOptions.body (options : CreateOptions) (name : String) : String :=
  String.ofList (objectText
    [ member "repository" (Json.quoted name),
      member "data" (objectText
        [ member "rid" (Json.quoted name),
          member "name" (Json.quoted name),
          member "role" (Json.quoted options.role),
          member "type" (Json.quoted options.kind),
          member "vsid" (Json.quoted options.vsid),
          member "url" (Json.quoted options.remoteUrl) ]) ])

/-- The message of the exception that says that a repository exists. -/
def existsMessage : String := "Repository already exists"

namespace Repository

/-- The request that creates a repository. -/
def createRequest (repository : Repository) (options : CreateOptions) : Http.Request :=
  (Http.Request.post repository.listUrl).withHeader "Content-Type" "application/json"
    |>.withHeader "Accept" "application/json"
    |>.withBody (options.body repository.name)

/-- The diagnostics of a reply; those that cannot be read say nothing. -/
def createDiagnostics (reply : Http.Reply) : Step Diagnostics :=
  match decodeReply Diagnostics.mergedDecoder reply with
  | .ok diagnostics => pure diagnostics
  | .error error => do
    Step.log ⟨.warn, .repository, some "could not decode create repository response",
      [.shown "error" error.message]⟩
    pure .blank

/-- Create a repository. -/
def create (repository : Repository) (options : CreateOptions) : Step CreateOutcome := do
  let request := repository.createRequest options
  let reply ← Step.send .system request
  let diagnostics ← createDiagnostics reply
  let message? := diagnostics.exception.map SystemException.message
  if reply.isSuccess then
    Step.log ⟨.info, .repository, some "successfully created the local repository",
      [.shown "repository" repository.name]⟩
    pure .created
  else if reply.status = 500 ∧ message? = some existsMessage then
    Step.log ⟨.info, .repository, some "the repository already exists locally",
      [.shown "repository" repository.name]⟩
    pure .alreadyExists
  else
    match message? with
    | some message =>
      Step.log ⟨.warn, .repository, some "creating the repository failed",
        [.shown "repository" repository.name, .shown "exception" message]⟩
    | none => pure ()
    throw (.http reply.status request.url)

end Repository

end ChangeTransport
