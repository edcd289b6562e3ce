import ChangeTransport.Diagnostics
import ChangeTransport.Step

/-!
# Deploying a commit

The system is told to pull a commit into a repository, or the newest one of the remote if none is
named.  A reply that cannot be read is no error: the pull has been done, and only its outcome is
not known.
-/

namespace ChangeTransport

/-- What the system says about a pull. -/
structure DeployOutcome where
  /-- The transport request that records the pull. -/
  trkorr : String
  fromCommit : String
  toCommit : String
  deriving Repr, DecidableEq

namespace DeployOutcome

/-- The outcome of which nothing is known. -/
def blank : DeployOutcome := ⟨"", "", ""⟩

/-- The fields of an outcome that is a part of something larger. -/
def fieldsOf {ρ : Type} (change : (DeployOutcome → DeployOutcome) → ρ → ρ) :
    List (Json.Field ρ) :=
  [ .text "trkorr" (fun value => change fun outcome => { outcome with trkorr := value }),
    .text "fromCommit" (fun value => change fun outcome => { outcome with fromCommit := value }),
    .text "toCommit" (fun value => change fun outcome => { outcome with toCommit := value }) ]

/-- How an outcome is read that stands among other members. -/
def mergedDecoder : Json.Decoder DeployOutcome := .merged [] (fieldsOf id) blank

end DeployOutcome

/-- The reply to a pull: its outcome and its diagnostics. -/
structure DeployReply where
  outcome : DeployOutcome
  diagnostics : Diagnostics
  deriving Repr, DecidableEq

namespace DeployReply

/-- How the reply to a pull is read. -/
def decoder : Json.Decoder DeployReply :=
  .merged []
    (DeployOutcome.fieldsOf (fun change reply => { reply with outcome := change reply.outcome }) ++
      Diagnostics.fieldsOf
        (fun change reply => { reply with diagnostics := change reply.diagnostics }))
    ⟨.blank, .blank⟩

end DeployReply

namespace Repository

/-- The address at which a pull is asked for. -/
def pullUrl (repository : Repository) (commit : Option String) : String :=
  match given? commit with
  | some commit => repository.actionUrl "pullByCommit" ++ "&request=" ++ commit
  | none => repository.actionUrl "pullByCommit"

/-- What the log says about an entry of the error log of a pull. -/
def pullEntry (entry : SystemEntry) : Log.Entry :=
  ⟨.warn, .deploy, some "pull reported an error log entry",
    [.shown "code" entry.code, .shown "message" entry.message]⟩

/-- The outcome that the reply to a pull gives. -/
def pullOutcome (reply : Http.Reply) : Step DeployOutcome :=
  match decodeReply DeployReply.decoder reply with
  | .ok body => do
    body.diagnostics.errorLog.forM (fun entry => Step.log (pullEntry entry))
    pure body.outcome
  | .error error => do
    Step.log ⟨.warn, .deploy, some "could not decode pullByCommit response",
      [.shown "error" error.message]⟩
    pure .blank

/-- Pull a commit into a repository, or the newest one if none is named. -/
def deploy (repository : Repository) (commit : Option String) : Step DeployOutcome := do
  let reply ← Step.exchange .system (.get (repository.pullUrl commit))
  let outcome ← pullOutcome reply
  Step.log ⟨.info, .deploy, some "successfully deployed commit",
    [.shown "repository" repository.name, .shown "to_commit" outcome.toCommit,
      .shown "from_commit" outcome.fromCommit]⟩
  pure outcome

end Repository

end ChangeTransport
