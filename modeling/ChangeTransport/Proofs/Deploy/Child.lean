import ChangeTransport.Program
import ChangeTransport.Proofs.Deploy.Deployers
import ChangeTransport.Proofs.Deploy.Words

/-!
# Deploying by a child process

A deploy order is carried out by a pull, or by a child process that is handed the words of the
order.  The child is the program itself, with an environment and a line to the system of its own.
Both ways send the same request, and they end alike if it is answered alike.
-/

namespace ChangeTransport

open Step CommandLine

namespace Repository

/-- The command that deploys asks one question, and prints a line about the outcome. -/
theorem asks_run_deploy
    (repository : Repository) (credentials : Credentials) (deployer : Deployer)
    (commit : Option String) :
    Asks ((Command.deploy commit).run repository credentials deployer) .system
      (.get (repository.pullUrl commit))
      (fun answer => (repository.outcomeIn commit answer).map (deployedLine repository)) :=
  Asks.map (repository.asks_deploy commit) fun _ => Silent.pure _

end Repository

namespace Program

/-- The end of a process that carries out its command in the given world. -/
def exitIn (world : World) (deployer : Deployer) (environment : Environment)
    (words : List String) : Child.Exit :=
  exitOf environment ((CommandLine.read environment words).map (carryOut world deployer))

/-- The child process is such a process, with nobody on its lines. -/
theorem child_eq_exitIn :
    child = exitIn aloneWorld (Deployer.failing (.deployFailed "no child process")) := rfl

/-- A process that has carried out a command ends well exactly if the command has. -/
theorem status_exitOfEnding_eq_zero_iff (environment : Environment) (ending : Ending) :
    (exitOfEnding environment ending).status = 0 ↔ ∃ line, ending.result = .ok line := by
  unfold exitOfEnding
  cases ending.result <;> simp

theorem isSuccess_exitOfEnding (environment : Environment) (ending : Ending) :
    (exitOfEnding environment ending).isSuccess = true ↔
      (exitOfEnding environment ending).status = 0 := by
  unfold exitOfEnding
  cases ending.result <;> simp [Child.Exit.isSuccess]

/-- What is left behind by a command that deploys, and when it has come to its end. -/
theorem carryOut_deploy
    (world : World) (deployer : Deployer) {invocation : Invocation} {commit : Option String}
    (deploys : invocation.command = .deploy commit) :
    let repository := invocation.connection.target
    let asked := world.exchange .system (.get (repository.pullUrl commit))
    let ending := carryOut world deployer invocation
    (∃ log, ending.world = { asked.2 with log }) ∧
      ((∃ line, ending.result = .ok line) ↔
        ∃ outcome, repository.outcomeIn commit asked.1 = .ok outcome) := by
  intro repository asked ending
  rcases repository.asks_run_deploy invocation.connection.credentials deployer commit world with
    ⟨log, ended⟩
  unfold ending carryOut
  rw [deploys]
  dsimp only
  rw [ended]
  refine ⟨⟨log, rfl⟩, ?_⟩
  dsimp only
  unfold asked
  simp

end Program

namespace DeployOrder

/-- Where the words of an order are accepted, they are read as the order. -/
theorem eq_invocation_of_read
    {order : DeployOrder} {environment : Environment} {invocation : Invocation}
    (accepted : CommandLine.read environment order.words = .ok invocation) :
    invocation = order.invocation := by
  rcases order.read_words environment with ⟨carried, refused⟩
  by_cases plain : ∀ option ∈ order.options, ¬ IsHyphened option.2
  · rw [carried plain] at accepted
    exact (Except.ok.inj accepted).symm
  · push Not at plain
    rcases refused plain with ⟨refusal, failed⟩
    rw [failed] at accepted
    cases accepted

/--
Whatever the environment says, a child process that accepts the words of an order sends the one
request that a pull sends.  If both requests are answered alike, the process ends with the status 0
exactly if the pull comes to its end.  The deployer that has started the process comes to its end
exactly if that status is 0, and in all other cases both deployers make a failed deploy.
-/
theorem child_deploys_as_pulling
    (host client name username password commit : String) (environment : Environment)
    (deployer : Deployer) (invocation : Invocation) (parent child : World) :
    let order : DeployOrder := ⟨.of host client name, ⟨username, password⟩, commit⟩
    let request : Http.Request := .get (order.repository.pullUrl (some commit))
    CommandLine.read environment order.words = .ok invocation →
    let pulled := runIn parent (Deployer.pulling order)
    let ending := Program.carryOut child deployer invocation
    let exit := Program.exitIn child deployer environment order.words
    pulled.2.system.sent = parent.system.sent ++ [request] ∧
    pulled.2.provider.sent = parent.provider.sent ∧
    ending.world.system.sent = child.system.sent ++ [request] ∧
    ending.world.provider.sent = child.provider.sent ∧
    invocation.connection.credentials = order.credentials ∧
    exit = Program.exitOfEnding environment ending ∧
    ((child.exchange .system request).1 = (parent.exchange .system request).1 →
      (exit.status = 0 ↔ pulled.1 = .ok ())) ∧
    (pulled.1 = .ok () ∨ ∃ reason, pulled.1 = .error (.deployFailed reason)) ∧
    ∀ (executable : String) (launch : List String → Except String Child.Exit) (world : World),
      let spawned := runIn world (Deployer.spawning executable launch order)
      (launch order.words = .ok exit → (spawned.1 = .ok () ↔ exit.status = 0)) ∧
      (spawned.1 = .ok () ∨ ∃ reason, spawned.1 = .error (.deployFailed reason)) := by
  intro order request accepted pulled ending exit
  have same : invocation = order.invocation := eq_invocation_of_read accepted
  have target : invocation.connection.target = order.repository := by
    rw [same]
    exact Repository.of_host host client name
  have deploys : invocation.command = .deploy (some commit) := by
    rw [same]
    rfl
  have exited : exit = Program.exitOfEnding environment ending := by
    unfold exit Program.exitIn
    rw [accepted]
    rfl
  rcases Deployer.asks_pulling order parent with ⟨log, course⟩
  have pulls : pulled = _ := course
  rcases Program.carryOut_deploy child deployer deploys with ⟨⟨childLog, left⟩, ended⟩
  rw [target] at left ended
  refine ⟨?_, ?_, ?_, ?_, ?_, exited, ?_, ?_, ?_⟩
  · rw [pulls]
    exact Line.sent_exchange parent.system request
  · rw [pulls]
    rfl
  · unfold ending
    rw [left]
    exact Line.sent_exchange child.system request
  · unfold ending
    rw [left]
    rfl
  · rw [same]
    rfl
  · intro alike
    rw [exited, Program.status_exitOfEnding_eq_zero_iff, ended, alike, pulls]
    exact (Deployer.pulledIn_eq_ok_iff order).symm
  · rw [pulls]
    exact Deployer.pulledIn_ok_or_deployFailed order _
  · intro executable launch world spawned
    rcases Deployer.silent_spawning order executable launch world with ⟨log, decided⟩
    unfold spawned
    rw [decided]
    refine ⟨?_, Deployer.spawnedIn_ok_or_deployFailed executable _⟩
    intro launched
    rw [launched, Deployer.spawnedIn_exit_eq_ok_iff, exited, Program.isSuccess_exitOfEnding]

/--
An order without a commit, carried out where the environment names another system and a commit: the
newest commit of the right system is pulled, and an outcome that cannot be read is no failure.
-/
theorem child_deploys_nameless_commit :
    let order : DeployOrder := ⟨.of "http://host:50000/" "000" "demo", ⟨"user", "secret"⟩, ""⟩
    let environment : Environment := [("GCTS_HOST", "http://other"), ("GCTS_COMMIT", "c1")]
    let world : World := .start (.ofScript [.ofText "<html/>"]) (.ofScript []) .ignoring
    ∃ invocation,
      CommandLine.read environment order.words = .ok invocation ∧
      (Program.carryOut world .pulling invocation).world.system.sent =
        [.get (order.repository.actionUrl "pullByCommit")] ∧
      (runIn world (Deployer.pulling order)).1 = .ok () ∧
      (Program.exitIn world .pulling environment order.words).status = 0 := by
  intro order environment world
  have accepted : CommandLine.read environment order.words = .ok order.invocation :=
    eq_ok_of_toOption (by decide +kernel)
  have success : (runIn world (Deployer.pulling order)).1 = .ok () := by rfl
  rcases child_deploys_as_pulling "http://host:50000/" "000" "demo" "user" "secret" ""
    environment .pulling order.invocation world world accepted with
    ⟨-, -, sent, -, -, -, status, -, -⟩
  exact ⟨order.invocation, accepted, sent, success, (status rfl).mpr success⟩

end DeployOrder

end ChangeTransport
