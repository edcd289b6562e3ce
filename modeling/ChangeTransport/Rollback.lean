import ChangeTransport.History.Transport
import ChangeTransport.Hosting.Status
import ChangeTransport.Repository.Descriptor

/-!
# Rollback

A repository is rolled back by deploying an earlier commit.  The commit is found in exactly one
way: if one is given, it is taken without asking anybody; otherwise, if the remote belongs to a
hosting provider, it is the newest commit with a successful status there; otherwise it is the one
from which the latest transport came.  A failure of the way chosen is final.
-/

namespace ChangeTransport

/-- The commit to roll back to, and how it has been found. -/
structure RollbackTarget where
  commit : String
  strategy : Strategy
  deriving Repr, DecidableEq

/-- What carries out deploy orders. -/
abbrev Deployer := DeployOrder → Step Unit

/-- The commit from which the latest transport came. -/
def latestSource? (history : List TransportEntry) : Option String :=
  given? (history.head?.map TransportEntry.fromCommit)

namespace Repository

/-- Report the commit that has been found. -/
def resolved (repository : Repository) (commit : String) (strategy : Strategy) :
    Step RollbackTarget := do
  Step.report (.commitResolved repository.name commit strategy)
  pure ⟨commit, strategy⟩

/-- Find the newest commit with a successful status on a hosting provider. -/
def resolveByStatus (repository : Repository) (hosted : HostedRepository)
    (token : Option String) : Step RollbackTarget := do
  Step.report (.strategySelected repository.name .commitStatus)
  let commits ← repository.fetchCommits
  let commit ← hosted.findSuccessful token (commits.map Commit.id)
  repository.resolved commit .commitStatus

/-- Find the commit from which the latest transport came. -/
def resolveByHistory (repository : Repository) : Step RollbackTarget := do
  Step.report (.strategySelected repository.name .history)
  let history ← repository.fetchHistory
  match latestSource? history with
  | some commit => repository.resolved commit .history
  | none => throw .noRollbackCommit

/-- Find the commit to roll back to. -/
def resolve (repository : Repository) (commit token : Option String) : Step RollbackTarget :=
  match given? commit with
  | some commit => do
    Step.report (.strategySelected repository.name .explicit)
    repository.resolved commit .explicit
  | none => do
    let descriptor ← repository.fetch
    let hosted? ← Step.ofExcept (HostedRepository.ofRemote descriptor.url)
    match hosted? with
    | some hosted => repository.resolveByStatus hosted token
    | none => repository.resolveByHistory

end Repository

/-- A failed deploy as the error of a rollback. -/
def Error.ofDeploy : Error → Error
  | deployFailed reason => deployFailed reason
  | error => deployFailed error.message

/-- Find the commit to roll back to, and deploy it. -/
def Repository.rollback (repository : Repository) (credentials : Credentials)
    (commit token : Option String) (deployer : Deployer) : Step RollbackTarget := do
  let target ← repository.resolve commit token
  (deployer ⟨repository, credentials, target.commit⟩).adapt Error.ofDeploy
  Step.log ⟨.info, .rollback, some "rollback was successful",
    [.shown "repository" repository.name, .shown "commit" target.commit]⟩
  pure target

end ChangeTransport
