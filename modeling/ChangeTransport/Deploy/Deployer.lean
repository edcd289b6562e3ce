import ChangeTransport.Deploy.Child
import ChangeTransport.Deploy.Pull
import ChangeTransport.Rollback

/-!
# Deployers

Deploy orders are carried out by a pull on the line to the system, or by a child process that is
handed the words of the order.  They can also only be noted down.
-/

namespace ChangeTransport.Deployer

/-- Note the order down, and fail if a reason is given. -/
def noting (failure : Option String) : Deployer := fun order => do
  Step.note order
  match failure with
  | some reason => throw (.deployFailed reason)
  | none => pure ()

/-- Fail with the given error. -/
def failing (error : Error) : Deployer := fun _ => throw error

/-- Pull the commit, and turn every error into a failed deploy. -/
def pulling : Deployer := fun order => do
  let _ ← (order.repository.deploy (some order.commit)).adapt
    (fun error => .deployFailed error.message)
  pure ()

/-- Hand the words of the order to a child process, and log what it prints. -/
def spawning (executable : String) (launch : List String → Except String Child.Exit) :
    Deployer := fun order => do
  Step.log ⟨.debug, .deploy, some "invoking deploy",
    [.shown "executable" executable, .shown "commit" order.commit]⟩
  match launch order.words with
  | .error reason =>
    throw (.deployFailed ("failed to run " ++ executable ++ ": " ++ reason))
  | .ok exit => do
    exit.printed.forM fun line => Step.log ⟨.info, .child, some line, []⟩
    if exit.isSuccess then pure () else throw (.deployFailed exit.text)

end ChangeTransport.Deployer
