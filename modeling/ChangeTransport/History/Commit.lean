import ChangeTransport.Diagnostics
import ChangeTransport.Step

/-!
# Commits

The system lists the commits of the remote of a repository, the newest one first.
-/

namespace ChangeTransport

/-- A commit. -/
structure Commit where
  id : String
  author : Option String
  authorMail : Option String
  message : Option String
  description : Option String
  date : Option String
  deriving Repr, DecidableEq

namespace Commit

/-- The commit of which only the name is known. -/
def ofId (id : String) : Commit := ⟨id, none, none, none, none, none⟩

/-- A field that may hold a text. -/
def optional (name : String) (set : Option String → Commit → Commit) : Json.Field Commit :=
  .of name Json.Decoder.optionalText set

/-- The fields of a commit. -/
def fields : List (Json.Field Commit) :=
  [ .text "id" (fun value commit => { commit with id := value }),
    optional "author" (fun value commit => { commit with author := value }),
    optional "authorMail" (fun value commit => { commit with authorMail := value }),
    optional "message" (fun value commit => { commit with message := value }),
    optional "description" (fun value commit => { commit with description := value }),
    optional "date" (fun value commit => { commit with date := value }) ]

/-- How a commit is read. -/
def decoder : Json.Decoder Commit := .record fields (ofId "")

/-- How a reply is read that holds commits. -/
def replyDecoder : Json.Decoder (List Commit) :=
  .record [.of "commits" (Json.Decoder.list decoder) (fun value _ => value)] []

end Commit

/-- The commits of the remote of a repository, the newest one first. -/
def Repository.fetchCommits (repository : Repository) : Step (List Commit) := do
  let reply ← Step.exchange .system (.get (repository.actionUrl "getCommit"))
  let commits ← Step.ofExcept (decodeReply Commit.replyDecoder reply)
  Step.log ⟨.debug, .history, some "fetched commit list",
    [.shown "repository" repository.name, .number "commits" commits.length]⟩
  pure commits

end ChangeTransport
