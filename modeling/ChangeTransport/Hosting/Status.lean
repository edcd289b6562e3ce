import ChangeTransport.History.Commit
import ChangeTransport.Hosting.Remote

/-!
# The status of commits

A hosting provider says of every commit whether its checks have succeeded.  The newest commit of
which it says so is found by asking for one commit after the other.
-/

namespace ChangeTransport

/-- What a provider says about a commit. -/
structure CommitStatus where
  state : String
  sha : String
  deriving Repr, DecidableEq

namespace CommitStatus

/-- The status that says nothing. -/
def blank : CommitStatus := ⟨"", ""⟩

/-- The fields of a status. -/
def fields : List (Json.Field CommitStatus) :=
  [ .text "state" (fun value status => { status with state := value }),
    .text "sha" (fun value status => { status with sha := value }) ]

/-- How a status is read. -/
def decoder : Json.Decoder CommitStatus := .record fields blank

/-- Whether the checks have succeeded. -/
def isSuccess (status : CommitStatus) : Bool := status.state == "success"

end CommitStatus

namespace HostedRepository

/-- The request for the status of a commit; an empty token is none. -/
def statusRequest (repository : HostedRepository) (commit : String) (token : Option String) :
    Http.Request :=
  let request :=
    (Http.Request.get (repository.statusUrl commit)).withHeader "Accept"
      "application/vnd.github+json"
  match given? token with
  | some token => request.withHeader "Authorization" ("token " ++ token)
  | none => request

/-- Ask the provider for the status of a commit. -/
def fetchStatus (repository : HostedRepository) (commit : String) (token : Option String) :
    Step CommitStatus := do
  let reply ← Step.exchange .provider (repository.statusRequest commit token)
  Step.ofExcept (decodeReply CommitStatus.decoder reply)

/-- The first commit whose checks have succeeded, found by asking for one after the other. -/
def findSuccessful (repository : HostedRepository) (token : Option String) :
    List String → Step String
  | [] => throw (.noSuccessfulCommit repository.provider.domain)
  | commit :: rest => do
    let status ← repository.fetchStatus commit token
    Step.report (.commitStatus commit status.state)
    if status.isSuccess then
      pure commit
    else
      Step.log ⟨.debug, .hosting, some "skipping commit",
        [.shown "commit" commit, .shown "state" status.state]⟩
      repository.findSuccessful token rest

end HostedRepository

end ChangeTransport
