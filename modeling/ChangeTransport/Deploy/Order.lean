import ChangeTransport.Repository.Reference

/-!
# Deploy orders

A deploy order says which commit is to be pulled into which repository, and on whose behalf.
-/

namespace ChangeTransport

/-- What is to be deployed. -/
structure DeployOrder where
  repository : Repository
  credentials : Credentials
  commit : String
  deriving Repr, DecidableEq

namespace DeployOrder

/-- The words of the command line that carries out an order. -/
def words (order : DeployOrder) : List String :=
  ["deploy-commit",
    "--username", order.credentials.username,
    "--password", order.credentials.password,
    "--host", order.repository.host,
    "--client", order.repository.client,
    "--repository", order.repository.name,
    "--commit", order.commit]

/-- An order as it is shown: the password is left out. -/
def shown (order : DeployOrder) : String :=
  "DeployArgs \x7b repo: " ++ order.repository.shown ++ ", credentials: " ++
    order.credentials.shown ++ ", commit: " ++ Text.quote order.commit ++ " \x7d"

end DeployOrder

end ChangeTransport
