import ChangeTransport.Json.Token
import ChangeTransport.Url.Host
import ChangeTransport.Xml.Decoder

/-!
# Errors

Everything that can keep a step from its result, by cause.  Three of the causes are verdicts: the
step has done its work, and the answer is that there is nothing to do or that something has failed.
-/

namespace ChangeTransport

/-- Why a step has no result. -/
inductive Error where
  /-- A request has got no answer. -/
  | transport (reason : String)
  /-- A request has got an answer with a status that is no success. -/
  | http (status : Nat) (url : String)
  | json (fault : Json.Fault)
  | xml (fault : Xml.Fault)
  | url (fault : Url.Fault)
  | noRollbackCommit
  | noSuccessfulCommit (provider : String)
  | missingToken
  | unitTestsFailed (package : String) (failed : Nat)
  /-- The deploy of a commit has been tried and has failed. -/
  | deployFailed (reason : String)
  | configuration (reason : String)
  | inputOutput (reason : String)
  deriving Repr, DecidableEq

namespace Error

/-- The text that names an error. -/
def message : Error → String
  | transport reason => "transport error: " ++ reason
  | http status address =>
    "request to " ++ address ++ " failed with HTTP status " ++ toString status
  | json fault => "cannot parse HTTP response as JSON: " ++ fault.message
  | xml fault => "cannot parse HTTP response as XML: " ++ fault.message
  | url fault => "invalid url: " ++ fault.message
  | noRollbackCommit => "no commit to rollback to identified"
  | noSuccessfulCommit provider => "no commit with a successful status found on " ++ provider
  | missingToken => "could not retrieve x-csrf-token from server"
  | unitTestsFailed package failed =>
    "unit tests failed in package " ++ package ++ ": " ++ toString failed ++ " failing method(s)"
  | deployFailed reason => "deploy of the resolved commit failed: " ++ reason
  | configuration reason => "configuration error: " ++ reason
  | inputOutput reason => "io error: " ++ reason

/-- Whether an error is a verdict on what was asked. -/
def isPolicy : Error → Bool
  | noRollbackCommit | noSuccessfulCommit _ | unitTestsFailed _ _ => true
  | _ => false

/-- Whether the wording of an error is fixed. -/
def isWorded : Error → Bool
  | json _ | inputOutput _ => false
  | xml fault => fault.isWorded
  | _ => true

/-- The texts of an error and of its causes. -/
def texts (error : Error) : List String :=
  match error with
  | json fault => [error.message, fault.message]
  | url fault => [error.message, fault.message]
  | inputOutput reason => [error.message, reason]
  | _ => [error.message]

end Error

end ChangeTransport
