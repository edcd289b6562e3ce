import ChangeTransport.Diagnostics
import ChangeTransport.Step

/-!
# Packages

The system lists the objects of a repository; the objects of one type are its packages.
-/

namespace ChangeTransport

/-- An object of a repository. -/
structure RepositoryObject where
  pgmid : String
  name : String
  kind : String
  description : String
  deriving Repr, DecidableEq

namespace RepositoryObject

/-- An object that says nothing. -/
def blank : RepositoryObject := ⟨"", "", "", ""⟩

/-- The fields of an object. -/
def fields : List (Json.Field RepositoryObject) :=
  [ .text "pgmid" (fun value object => { object with pgmid := value }),
    .text "object" (fun value object => { object with name := value }),
    .text "type" (fun value object => { object with kind := value }),
    .text "description" (fun value object => { object with description := value }) ]

/-- How an object is read. -/
def decoder : Json.Decoder RepositoryObject := .record fields blank

/-- How a reply is read that holds objects. -/
def replyDecoder : Json.Decoder (List RepositoryObject) :=
  .record [.of "objects" (Json.Decoder.list decoder) (fun value _ => value)] []

/-- Whether an object is a package. -/
def isPackage (object : RepositoryObject) : Bool := object.kind == "DEVC"

end RepositoryObject

/-- The names of the packages among objects, in their order. -/
def packageNames (objects : List RepositoryObject) : List String :=
  (objects.filter RepositoryObject.isPackage).map RepositoryObject.name

namespace Repository

/-- The objects of a repository. -/
def fetchObjects (repository : Repository) : Step (List RepositoryObject) := do
  let reply ← Step.exchange .system (.get (repository.actionUrl "getObjects"))
  Step.ofExcept (decodeReply RepositoryObject.replyDecoder reply)

/-- The names of the packages of a repository, in the order of the objects. -/
def fetchPackages (repository : Repository) : Step (List String) := do
  let packages := packageNames (← repository.fetchObjects)
  Step.log ⟨.debug, .packages, some "listed packages",
    [.shown "repository" repository.name, .number "packages" packages.length]⟩
  pure packages

end Repository

end ChangeTransport
