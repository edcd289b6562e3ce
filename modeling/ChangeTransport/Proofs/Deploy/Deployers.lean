import ChangeTransport.Deploy.Deployer
import ChangeTransport.Proofs.Repository.Questions

/-!
# Carrying out deploy orders

What the deployers do with an order, and what a rollback does with a deployer: the order names the
commit that has been found, and it is handed over once if a commit has been found and never
otherwise.
-/

namespace ChangeTransport

open Step

namespace Deployer

variable (world : World) (order : DeployOrder)

/-- An order is noted down whether or not a failure is to follow. -/
theorem runIn_noting (failure : Option String) :
    ∃ result, runIn world (noting failure order) =
      (result, { world with orders := world.orders ++ [order] }) := by
  unfold noting
  rw [runIn_bind, runIn_note]
  cases failure with
  | none => exact ⟨.ok (), rfl⟩
  | some reason => exact ⟨.error (.deployFailed reason), rfl⟩

/-- What the answer to a pull says about an order: every failure is a failed deploy. -/
def pulledIn (answer : Http.Answer) : Except Error Unit :=
  ((order.repository.outcomeIn (some order.commit) answer).mapError
    fun error => .deployFailed error.message).map fun _ => ()

/-- A pull has come to its end exactly if an outcome can be had. -/
theorem pulledIn_eq_ok_iff {answer : Http.Answer} :
    pulledIn order answer = .ok () ↔
      ∃ outcome, order.repository.outcomeIn (some order.commit) answer = .ok outcome := by
  simp [pulledIn]

theorem pulledIn_ok_or_deployFailed (answer : Http.Answer) :
    pulledIn order answer = .ok () ∨
      ∃ reason, pulledIn order answer = .error (.deployFailed reason) := by
  unfold pulledIn
  cases order.repository.outcomeIn (some order.commit) answer with
  | ok outcome => exact .inl rfl
  | error error => exact .inr ⟨error.message, rfl⟩

/-- An order is pulled by one request. -/
theorem asks_pulling :
    Asks (pulling order) .system (.get (order.repository.pullUrl (some order.commit)))
      (pulledIn order) :=
  Asks.map ((order.repository.asks_deploy (some order.commit)).adapt _) fun _ => Silent.pure ()

/-- What a child process says about an order: it may not start, and it may not end well. -/
def spawnedIn (executable : String) : Except String Child.Exit → Except Error Unit
  | .error reason => .error (.deployFailed ("failed to run " ++ executable ++ ": " ++ reason))
  | .ok exit => if exit.isSuccess then .ok () else .error (.deployFailed exit.text)

section Spawning

variable (executable : String)

theorem spawnedIn_exit_eq_ok_iff {exit : Child.Exit} :
    spawnedIn executable (.ok exit) = .ok () ↔ exit.isSuccess = true := by
  unfold spawnedIn
  split <;> simp_all

theorem spawnedIn_ok_or_deployFailed (launched : Except String Child.Exit) :
    spawnedIn executable launched = .ok () ∨
      ∃ reason, spawnedIn executable launched = .error (.deployFailed reason) := by
  cases launched with
  | error reason => exact .inr ⟨_, rfl⟩
  | ok exit =>
      unfold spawnedIn
      dsimp only
      split
      · exact .inl rfl
      · exact .inr ⟨exit.text, rfl⟩

/-- A child process is handed the words of the order, and leaves nothing behind but log entries. -/
theorem silent_spawning (launch : List String → Except String Child.Exit) :
    Silent (spawning executable launch order) (spawnedIn executable (launch order.words)) := by
  apply Silent.log_then
  cases launch order.words with
  | error reason => exact Silent.throw _
  | ok exit =>
      refine Silent.bind (Silent.logEach _ exit.printed) ?_
      unfold spawnedIn
      dsimp only
      split
      · exact Silent.pure ()
      · exact Silent.throw _

end Spawning

variable {world} {answers : List Http.Answer} {sent : List Http.Request}

theorem runIn_pulling (scripted : world.system = .scripted answers sent) :
    let pull : Http.Request := .get (order.repository.pullUrl (some order.commit))
    ∃ log, runIn world (pulling order) =
      (pulledIn order (scriptedAnswer answers sent.length pull),
        { world with system := .scripted answers (sent ++ [pull]), log }) := by
  intro pull
  rcases asks_pulling order world with ⟨log, ended⟩
  rw [World.exchange_system world scripted] at ended
  exact ⟨log, ended⟩

end Deployer

/-- A rollback resolves, and hands the order for the commit found to the deployer. -/
theorem Repository.runIn_rollback
    (repository : Repository) (credentials : Credentials)
    (commit token : Option String) (deployer : Deployer) (world : World) :
    runIn world (repository.rollback credentials commit token deployer) =
      match runIn world (repository.resolve commit token) with
      | (.error error, after) => (.error error, after)
      | (.ok target, after) =>
          match runIn after (deployer ⟨repository, credentials, target.commit⟩) with
          | (.error error, after) => (.error (.ofDeploy error), after)
          | (.ok (), after) =>
              (.ok target, after.logAll
                [⟨.info, .rollback, some "rollback was successful",
                  [.shown "repository" repository.name, .shown "commit" target.commit]⟩]) := by
  unfold rollback
  rw [runIn_bind]
  rcases runIn world (repository.resolve commit token) with ⟨error | target, after⟩
  · rfl
  · dsimp only
    rw [runIn_bind, runIn_adapt]
    rcases runIn after (deployer ⟨repository, credentials, target.commit⟩) with
      ⟨error | done, last⟩ <;> rfl

namespace Repository

variable (repository : Repository) (credentials : Credentials)
  (commit token : Option String) (world : World)

/-- One order is noted down if a commit has been found, and none otherwise. -/
theorem orders_rollback_noting (failure : Option String) :
    (runIn world (repository.rollback credentials commit token (.noting failure))).2.orders =
      match runIn world (repository.resolve commit token) with
      | (.error _, after) => after.orders
      | (.ok target, after) => after.orders ++ [⟨repository, credentials, target.commit⟩] := by
  rw [runIn_rollback]
  rcases runIn world (repository.resolve commit token) with ⟨error | target, after⟩
  · rfl
  · rcases Deployer.runIn_noting after ⟨repository, credentials, target.commit⟩ failure with
      ⟨result, noted⟩
    dsimp only
    rw [noted]
    cases result <;> rfl

variable {world} {answers : List Http.Answer} {asked : List Http.Request}

/-- One pull is asked for if a commit has been found, and none otherwise. -/
theorem sent_rollback_pulling
    (scripted : (runIn world (repository.resolve commit token)).2.system =
      .scripted answers asked) :
    (runIn world (repository.rollback credentials commit token .pulling)).2.system.sent =
      match (runIn world (repository.resolve commit token)).1 with
      | .error _ => asked
      | .ok target => asked ++ [.get (repository.pullUrl (some target.commit))] := by
  rw [runIn_rollback]
  rcases resolved : runIn world (repository.resolve commit token) with ⟨error | target, after⟩
  · rw [resolved] at scripted
    exact congrArg Line.sent scripted
  · rw [resolved] at scripted
    rcases Deployer.runIn_pulling ⟨repository, credentials, target.commit⟩ scripted with
      ⟨log, pulled⟩
    dsimp only
    rw [pulled]
    cases Deployer.pulledIn ⟨repository, credentials, target.commit⟩
      (scriptedAnswer answers asked.length
        (.get (repository.pullUrl (some target.commit)))) <;> rfl

end Repository

end ChangeTransport
