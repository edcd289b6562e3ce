import ChangeTransport.Step
import ChangeTransport.Text.Blank

/-!
# Tokens

Every request that changes something in the system must carry a token, which is asked for by a
request of its own.  A token is never shown.
-/

namespace ChangeTransport

/-- The token that a request must carry. -/
structure Token where
  text : String
  deriving Repr, DecidableEq

namespace Token

/-- The header that carries a token, or asks for one. -/
def header : String := "x-csrf-token"

/-- The value of the header that asks for a token. -/
def wish : String := "fetch"

/-- A token as it is shown. -/
def shown (_ : Token) : String := "CsrfToken(<redacted>)"

/-- The token that the value of a header gives; the wish for a token is none. -/
def ofValue? (value : String) : Option Token :=
  let text := Text.trimBlanks value
  if text.isEmpty || Text.sameIgnoringCase text wish then none else some ⟨text⟩

/-- The token that a reply gives. -/
def ofReply? (reply : Http.Reply) : Option Token :=
  (reply.header? header).bind ofValue?

end Token

namespace Repository

/-- The request that asks for a token. -/
def tokenRequest (repository : Repository) : Http.Request :=
  (Http.Request.get (repository.toolUrl "core/discovery")).withHeader "Accept"
      "application/atomsvc+xml"
    |>.withHeader Token.header Token.wish
    |>.withHeader "saml2" "disabled"

/-- Ask the system of a repository for a token. -/
def fetchToken (repository : Repository) : Step Token := do
  let reply ← Step.exchange .system repository.tokenRequest
  match Token.ofReply? reply with
  | some token => do
    Step.log ⟨.debug, .discovery, some "received csrf token", [.shown "host" repository.host]⟩
    pure token
  | none => throw .missingToken

end Repository

end ChangeTransport
