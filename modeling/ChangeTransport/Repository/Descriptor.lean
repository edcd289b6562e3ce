import ChangeTransport.Diagnostics
import ChangeTransport.Step

/-!
# Descriptors

What the system knows about a repository: its name and kind, its remote and the commit it is at.
-/

namespace ChangeTransport

/-- A setting of a repository. -/
structure RepositorySetting where
  key : String
  value : String
  category : String
  deriving Repr, DecidableEq

namespace RepositorySetting

/-- A setting that says nothing. -/
def blank : RepositorySetting := ⟨"", "", ""⟩

/-- The fields of a setting. -/
def fields : List (Json.Field RepositorySetting) :=
  [ .text "key" (fun value entry => { entry with key := value }),
    .text "value" (fun value entry => { entry with value }),
    .text "category" (fun value entry => { entry with category := value }) ]

/-- How a setting is read. -/
def decoder : Json.Decoder RepositorySetting := .record fields blank

end RepositorySetting

/-- What the system knows about a repository. -/
structure Descriptor where
  rid : String
  name : String
  role : String
  kind : String
  vsid : String
  status : String
  branch : String
  /-- The address of the remote. -/
  url : String
  currentCommit : String
  settings : List RepositorySetting
  deriving Repr, DecidableEq

namespace Descriptor

/-- A descriptor that says nothing. -/
def blank : Descriptor := ⟨"", "", "", "", "", "", "", "", "", []⟩

/-- The fields of a descriptor. -/
def fields : List (Json.Field Descriptor) :=
  [ .text "rid" (fun value descriptor => { descriptor with rid := value }),
    .text "name" (fun value descriptor => { descriptor with name := value }),
    .text "role" (fun value descriptor => { descriptor with role := value }),
    .text "type" (fun value descriptor => { descriptor with kind := value }),
    .text "vsid" (fun value descriptor => { descriptor with vsid := value }),
    .text "status" (fun value descriptor => { descriptor with status := value }),
    .text "branch" (fun value descriptor => { descriptor with branch := value }),
    .text "url" (fun value descriptor => { descriptor with url := value }),
    .text "currentCommit" (fun value descriptor => { descriptor with currentCommit := value }),
    .of "config" (Json.Decoder.list RepositorySetting.decoder)
      (fun value descriptor => { descriptor with settings := value }) ]

/-- How a descriptor is read. -/
def decoder : Json.Decoder Descriptor := .record fields blank

/-- How a reply is read that holds a descriptor. -/
def replyDecoder : Json.Decoder Descriptor :=
  .record [.of "result" decoder (fun value _ => value)] blank

end Descriptor

/-- Ask the system for what it knows about a repository. -/
def Repository.fetch (repository : Repository) : Step Descriptor := do
  let reply ← Step.exchange .system (.get repository.url)
  Step.ofExcept (decodeReply Descriptor.replyDecoder reply)

end ChangeTransport
