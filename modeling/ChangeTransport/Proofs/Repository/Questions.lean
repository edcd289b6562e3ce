import ChangeTransport.Deploy.Pull
import ChangeTransport.History.Commit
import ChangeTransport.History.Transport
import ChangeTransport.Repository.Descriptor
import ChangeTransport.UnitTest.Package
import ChangeTransport.UnitTest.Token
import ChangeTransport.Proofs.Running

/-!
# Questions to the system

Everything that is asked of the system about a repository is asked by one request, and what comes of
it is read out of the one answer.  Each question is named here by what its answer says.
-/

namespace ChangeTransport.Repository

open Step

variable (repository : Repository)

/-- The descriptor in the answer to the request for it. -/
def descriptorIn (answer : Http.Answer) : Except Error Descriptor :=
  answer.read repository.url (decodeReply Descriptor.replyDecoder)

theorem asks_fetch :
    Asks repository.fetch .system (.get repository.url) repository.descriptorIn :=
  Asks.of_exchange fun _ => Silent.ofExcept _

/-- The commits in the answer to the request for them. -/
def commitsIn (answer : Http.Answer) : Except Error (List Commit) :=
  answer.read (repository.actionUrl "getCommit") (decodeReply Commit.replyDecoder)

theorem asks_fetchCommits :
    Asks repository.fetchCommits .system (.get (repository.actionUrl "getCommit"))
      repository.commitsIn :=
  Asks.of_exchange fun _ =>
    Silent.keep (Silent.ofExcept _) fun commits => Silent.log_then _ (Silent.pure commits)

/-- The history in the answer to the request for it. -/
def historyIn (answer : Http.Answer) : Except Error (List TransportEntry) :=
  answer.read (repository.actionUrl "getHistory") fun reply =>
    (decodeReply HistoryReply.decoder reply).map HistoryReply.result

theorem asks_fetchHistory :
    Asks repository.fetchHistory .system (.get (repository.actionUrl "getHistory"))
      repository.historyIn :=
  Asks.of_exchange fun _ =>
    Silent.map (Silent.ofExcept _) fun body => Silent.log_then _ (Silent.pure body.result)

/-- The objects in the answer to the request for them. -/
def objectsIn (answer : Http.Answer) : Except Error (List RepositoryObject) :=
  answer.read (repository.actionUrl "getObjects") (decodeReply RepositoryObject.replyDecoder)

theorem asks_fetchObjects :
    Asks repository.fetchObjects .system (.get (repository.actionUrl "getObjects"))
      repository.objectsIn :=
  Asks.of_exchange fun _ => Silent.ofExcept _

/-- The names of the packages are made of the objects, with no other question. -/
theorem asks_fetchPackages :
    Asks repository.fetchPackages .system (.get (repository.actionUrl "getObjects"))
      (fun answer => (repository.objectsIn answer).map packageNames) :=
  Asks.map repository.asks_fetchObjects fun objects =>
    Silent.log_then _ (Silent.pure (packageNames objects))

/-- The token that a reply gives, if it gives one. -/
def issuedToken (reply : Http.Reply) : Except Error Token :=
  match Token.ofReply? reply with
  | some token => .ok token
  | none => .error .missingToken

/-- The token in the answer to the request for it. -/
def tokenIn (answer : Http.Answer) : Except Error Token :=
  answer.read (repository.toolUrl "core/discovery") issuedToken

theorem asks_fetchToken :
    Asks repository.fetchToken .system repository.tokenRequest repository.tokenIn := by
  apply Asks.of_exchange
  intro reply
  unfold issuedToken
  cases Token.ofReply? reply with
  | none => exact Silent.throw _
  | some token => exact Silent.log_then _ (Silent.pure token)

/-- The outcome of a pull in a reply; nothing is known if the reply cannot be read. -/
def outcomeOf (reply : Http.Reply) : DeployOutcome :=
  match decodeReply DeployReply.decoder reply with
  | .ok body => body.outcome
  | .error _ => .blank

/-- What the answer to a pull says about its outcome. -/
def outcomeIn (commit : Option String) (answer : Http.Answer) : Except Error DeployOutcome :=
  answer.read (repository.pullUrl commit) fun reply => .ok (outcomeOf reply)

theorem silent_pullOutcome (reply : Http.Reply) :
    Silent (pullOutcome reply) (.ok (outcomeOf reply)) := by
  unfold pullOutcome outcomeOf
  cases decodeReply DeployReply.decoder reply with
  | error error => exact Silent.log_then _ (Silent.pure _)
  | ok body => exact Silent.map (Silent.logEach pullEntry _) fun _ => Silent.pure body.outcome

theorem asks_deploy (commit : Option String) :
    Asks (repository.deploy commit) .system (.get (repository.pullUrl commit))
      (repository.outcomeIn commit) :=
  Asks.of_exchange fun reply =>
    Silent.keep (silent_pullOutcome reply) fun outcome =>
      Silent.log_then _ (Silent.pure outcome)

end ChangeTransport.Repository
