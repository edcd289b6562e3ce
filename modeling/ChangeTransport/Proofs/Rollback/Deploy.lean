import ChangeTransport.Proofs.Deploy.Deployers
import ChangeTransport.Proofs.Rollback.Resolution

/-!
# What a rollback makes of its deploy

A rollback hands one order to its deployer if a commit has been found, and none otherwise.  An error
of the deployer becomes a failed deploy, and no error of the resolution is one: so the error of a
rollback tells which of its two parts has failed.
-/

namespace ChangeTransport

open Step

/-! ## Resolutions are no deploys -/

/-- An error that says that a deploy has failed. -/
def Error.OfDeploy (error : Error) : Prop :=
  ∃ reason, error = .deployFailed reason

/-- What cannot be read out of a body is no failed deploy. -/
theorem decodeReply_never_ofDeploy {α : Type} (decoder : Json.Decoder α) (reply : Http.Reply) :
    Never Error.OfDeploy (Step.ofExcept (decodeReply decoder reply)) := by
  apply Never.ofExcept
  rintro error refused ⟨reason, rfl⟩
  unfold decodeReply at refused
  cases decoded : Json.decode decoder reply.body with
  | error fault =>
      rw [decoded] at refused
      cases refused
  | ok value =>
      rw [decoded] at refused
      cases refused

theorem exchange_never_ofDeploy (peer : Peer) (request : Http.Request) :
    Never Error.OfDeploy (Step.exchange peer request) := by
  apply Never.exchange
  · rintro reason ⟨other, impossible⟩
    cases impossible
  · rintro status url ⟨other, impossible⟩
    cases impossible

namespace HostedRepository

/-- A remote that cannot be understood is no failed deploy. -/
theorem ofRemote_never_ofDeploy (remote : String) :
    Never Error.OfDeploy (Step.ofExcept (ofRemote remote)) := by
  apply Never.ofExcept
  rintro error refused ⟨reason, rfl⟩
  unfold ofRemote at refused
  dsimp only at refused
  split at refused
  · cases refused
  · split at refused
    · unfold ofUrl at refused
      split at refused
      · cases refused
      · dsimp only at refused
        split at refused <;> cases refused
    · cases refused

theorem findSuccessful_never_ofDeploy
    (hosted : HostedRepository) (token : Option String) (commits : List String) :
    Never Error.OfDeploy (hosted.findSuccessful token commits) := by
  induction commits with
  | nil =>
      apply Never.throw
      rintro ⟨reason, impossible⟩
      cases impossible
  | cons commit rest induction =>
      apply Never.bind
      · exact (exchange_never_ofDeploy _ _).bind fun reply => decodeReply_never_ofDeploy _ reply
      · intro status
        apply (Never.report _).bind
        intro reported
        split
        · exact Never.pure commit
        · exact (Never.log _).bind fun _ => induction

end HostedRepository

namespace Repository

variable (repository : Repository)

theorem resolved_never_ofDeploy (commit : String) (strategy : Strategy) :
    Never Error.OfDeploy (repository.resolved commit strategy) :=
  (Never.report _).bind fun _ => Never.pure _

theorem resolveByStatus_never_ofDeploy (hosted : HostedRepository) (token : Option String) :
    Never Error.OfDeploy (repository.resolveByStatus hosted token) := by
  apply (Never.report _).bind
  intro reported
  apply Never.bind
  · apply (exchange_never_ofDeploy _ _).bind
    intro reply
    apply (decodeReply_never_ofDeploy _ reply).bind
    intro commits
    exact (Never.log _).bind fun _ => Never.pure commits
  · intro commits
    apply (hosted.findSuccessful_never_ofDeploy token _).bind
    intro commit
    exact repository.resolved_never_ofDeploy commit .commitStatus

theorem resolveByHistory_never_ofDeploy :
    Never Error.OfDeploy repository.resolveByHistory := by
  apply (Never.report _).bind
  intro reported
  apply Never.bind
  · apply (exchange_never_ofDeploy _ _).bind
    intro reply
    apply (decodeReply_never_ofDeploy _ reply).bind
    intro body
    exact (Never.log _).bind fun _ => Never.pure body.result
  · intro history
    split
    · exact repository.resolved_never_ofDeploy _ .history
    · apply Never.throw
      rintro ⟨reason, impossible⟩
      cases impossible

/-- The error of a resolution, by whichever way, does not say that a deploy has failed. -/
theorem resolve_never_ofDeploy (commit token : Option String) :
    Never Error.OfDeploy (repository.resolve commit token) := by
  unfold resolve
  split
  · exact (Never.report _).bind fun _ => repository.resolved_never_ofDeploy _ .explicit
  · apply Never.bind
    · exact (exchange_never_ofDeploy _ _).bind fun reply => decodeReply_never_ofDeploy _ reply
    · intro descriptor
      apply (HostedRepository.ofRemote_never_ofDeploy descriptor.url).bind
      rintro (_ | hosted)
      · exact repository.resolveByHistory_never_ofDeploy
      · exact repository.resolveByStatus_never_ofDeploy hosted token

end Repository

/-! ## Deploys -/

theorem Error.ofDeploy_eq_of_ne {error : Error} (other : ¬ error.OfDeploy) :
    error.ofDeploy = .deployFailed error.message := by
  cases error with
  | deployFailed reason => exact absurd ⟨reason, rfl⟩ other
  | _ => rfl

/-- A failed deploy is no verdict, whatever has kept the deployer from its result. -/
theorem Error.isPolicy_ofDeploy (error : Error) : error.ofDeploy.isPolicy = false := by
  cases error <;> rfl

/-- The deployer that notes every order down before it is carried out. -/
def Deployer.noted (deployer : Deployer) : Deployer := fun order => do
  Step.note order
  deployer order

theorem Deployer.runIn_noted (deployer : Deployer) (order : DeployOrder) (world : World) :
    runIn world (deployer.noted order) =
      runIn { world with orders := world.orders ++ [order] } (deployer order) := by
  unfold noted
  rw [runIn_bind, runIn_note]

/-- A deployer that notes nothing down itself. -/
def Deployer.LeavesOrders (deployer : Deployer) : Prop :=
  ∀ order world, (runIn world (deployer order)).2.orders = world.orders

namespace Deployer

theorem failing_leavesOrders (error : Error) : (failing error).LeavesOrders :=
  fun _ _ => rfl

theorem pulling_leavesOrders : pulling.LeavesOrders := by
  intro order world
  rcases asks_pulling order world with ⟨log, ended⟩
  rw [ended]
  rfl

theorem spawning_leavesOrders
    (executable : String) (launch : List String → Except String Child.Exit) :
    (spawning executable launch).LeavesOrders := by
  intro order world
  rcases silent_spawning order executable launch world with ⟨log, ended⟩
  rw [ended]

end Deployer

namespace Repository

variable (repository : Repository) (credentials : Credentials)
  (commit token : Option String) (deployer : Deployer) {world : World}

/-- Where no commit has been found, a rollback ends as the resolution has ended. -/
theorem runIn_rollback_of_error
    {error : Error} (failed : (runIn world (repository.resolve commit token)).1 = .error error) :
    runIn world (repository.rollback credentials commit token deployer) =
      (.error error, (runIn world (repository.resolve commit token)).2) := by
  rw [runIn_rollback]
  rcases resolved : runIn world (repository.resolve commit token) with ⟨cause | target, after⟩
  · rw [resolved] at failed
    cases failed
    rfl
  · rw [resolved] at failed
    cases failed

/-- Where a commit has been found, a rollback ends as the deployer ends with the order for it. -/
theorem runIn_rollback_of_ok
    {target : RollbackTarget}
    (found : (runIn world (repository.resolve commit token)).1 = .ok target) :
    let call := runIn (runIn world (repository.resolve commit token)).2
      (deployer ⟨repository, credentials, target.commit⟩)
    ∃ log, runIn world (repository.rollback credentials commit token deployer) =
      ((call.1.mapError Error.ofDeploy).map fun _ => target, { call.2 with log }) := by
  intro call
  rw [runIn_rollback]
  rcases resolved : runIn world (repository.resolve commit token) with ⟨cause | known, after⟩
  · rw [resolved] at found
    cases found
  · rw [resolved] at found
    cases found
    have called : call = runIn after (deployer ⟨repository, credentials, target.commit⟩) := by
      unfold call
      rw [resolved]
    rw [called]
    dsimp only
    rcases runIn after (deployer ⟨repository, credentials, target.commit⟩) with
      ⟨error | done, last⟩
    · exact ⟨last.log, rfl⟩
    · exact ⟨_, rfl⟩

/--
The deployer is called once if a commit has been found, with the order for that commit, and never
otherwise.  The rollback is a success exactly if that call is one.  Every failure of the call is
reported as one failed deploy, which is no verdict; a failure of the resolution is reported as it
is, and is never a failed deploy.
-/
theorem rollback_deploys_resolved_commit_once
    (answers providerAnswers : List Http.Answer) (observer : Observer) :
    let world : World := .start (.ofScript answers) (.ofScript providerAnswers) observer
    let resolved := runIn world (repository.resolve commit token)
    let run := runIn world (repository.rollback credentials commit token deployer)
    let noted := runIn world (repository.rollback credentials commit token deployer.noted)
    (∀ error, resolved.1 = .error error →
      (∀ reason, error ≠ .deployFailed reason) ∧
        run = resolved ∧ noted = resolved ∧ resolved.2.orders = []) ∧
    (∀ target, resolved.1 = .ok target →
      let order : DeployOrder := ⟨repository, credentials, target.commit⟩
      let call := runIn resolved.2 (deployer order)
      (deployer.LeavesOrders → noted.2.orders = [order]) ∧
        (∃ log, run.2 = { call.2 with log }) ∧
        (run.1 = .ok target ↔ call.1 = .ok ()) ∧
        (∀ reason, call.1 = .error (.deployFailed reason) →
          run.1 = .error (.deployFailed reason)) ∧
        (∀ error, (∀ reason, error ≠ .deployFailed reason) → call.1 = .error error →
          run.1 = .error (.deployFailed error.message)) ∧
        (∀ error, run.1 = .error error → error.isPolicy = false)) := by
  intro world resolved run noted
  have unnoted : resolved.2.orders = [] := by
    rcases repository.runIn_resolve commit token world
      (Line.ofScript_eq_scripted answers) (Line.ofScript_eq_scripted providerAnswers) with
      ⟨log, events, ended⟩
    unfold resolved
    rw [ended]
    rfl
  constructor
  · intro error failed
    have whole : resolved = (.error error, resolved.2) := by
      rw [← failed]
    refine ⟨?_, ?_, ?_, unnoted⟩
    · intro reason same
      exact repository.resolve_never_ofDeploy commit token world error failed ⟨reason, same⟩
    · rw [whole]
      exact repository.runIn_rollback_of_error credentials commit token deployer failed
    · rw [whole]
      exact repository.runIn_rollback_of_error credentials commit token deployer.noted failed
  · intro target found order call
    rcases repository.runIn_rollback_of_ok credentials commit token deployer found with
      ⟨log, ended⟩
    have result : run.1 = (call.1.mapError Error.ofDeploy).map fun _ => target := by
      unfold run
      rw [ended]
    refine ⟨?_, ⟨log, ?_⟩, ?_, ?_, ?_, ?_⟩
    · intro leaves
      rcases repository.runIn_rollback_of_ok credentials commit token deployer.noted found with
        ⟨log, ended⟩
      unfold noted
      rw [ended, Deployer.runIn_noted]
      exact (leaves order _).trans (congrArg (· ++ [order]) unnoted)
    · unfold run
      rw [ended]
    · rw [result, map_eq_ok_iff]
      simp only [mapError_eq_ok_iff, and_true]
      constructor
      · rintro ⟨done, called⟩
        exact called
      · intro called
        exact ⟨(), called⟩
    · intro reason refused
      rw [result, refused]
      rfl
    · intro error other refused
      have wrapped : error.ofDeploy = .deployFailed error.message := by
        apply Error.ofDeploy_eq_of_ne
        rintro ⟨reason, same⟩
        exact other reason same
      rw [result, refused, ← wrapped]
      rfl
    · intro error failed
      rw [result, map_eq_error_iff] at failed
      cases called : call.1 with
      | ok done =>
          rw [called] at failed
          cases failed
      | error cause =>
          rw [called] at failed
          cases failed
          exact cause.isPolicy_ofDeploy

end Repository

end ChangeTransport
