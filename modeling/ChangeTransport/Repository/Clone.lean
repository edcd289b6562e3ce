import ChangeTransport.Diagnostics
import ChangeTransport.Step

/-!
# Cloning a repository

The system is told to fill a repository from its remote.  If it answers that this has been done,
there is nothing to do, and that is no error.
-/

namespace ChangeTransport

/-- What comes of cloning a repository. -/
inductive CloneOutcome where
  | cloned
  | alreadyCloned
  deriving Repr, DecidableEq

/-- The code of the entry that says that a repository has been cloned. -/
def clonedCode : String := "GCTS.CLIENT.1420"

namespace Repository

/-- The request that clones a repository. -/
def cloneRequest (repository : Repository) : Http.Request :=
  (Http.Request.post (repository.actionUrl "clone")).withHeader "Content-Type" "application/json"
    |>.withHeader "Accept" "application/json"

/-- Clone the remote of a repository into it. -/
def clone (repository : Repository) : Step CloneOutcome := do
  let request := repository.cloneRequest
  let reply ← Step.send .system request
  if reply.isSuccess then
    Step.log ⟨.info, .repository,
      some "successfully cloned the git repository to the local repository",
      [.shown "repository" repository.name]⟩
    pure .cloned
  else
    let diagnostics ← Step.ofExcept (decodeReply Diagnostics.mergedDecoder reply)
    if reply.status = 500 ∧ (diagnostics.findErrorCode? clonedCode).isSome then
      Step.log ⟨.info, .repository, some "the repository has already been cloned",
        [.shown "repository" repository.name]⟩
      pure .alreadyCloned
    else
      throw (.http reply.status request.url)

end Repository

end ChangeTransport
