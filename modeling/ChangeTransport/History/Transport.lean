import ChangeTransport.Diagnostics
import ChangeTransport.History.Calendar
import ChangeTransport.Step

/-!
# Transport history

The system keeps a list of the pulls into a repository, the latest one first.
-/

namespace ChangeTransport

/-- A pull that has been done. -/
structure TransportEntry where
  rid : String
  /-- The point in time, as a number of fourteen digits. -/
  checkoutTime : Int
  fromCommit : String
  toCommit : String
  caller : String
  request : String
  kind : String
  deriving Repr, DecidableEq

namespace TransportEntry

/-- An entry that says nothing. -/
def blank : TransportEntry := ⟨"", 0, "", "", "", "", ""⟩

/-- When the pull was done, if that is known. -/
def checkedOutAt? (entry : TransportEntry) : Option TimePoint :=
  TimePoint.ofNumber? entry.checkoutTime

/-- The fields of an entry. -/
def fields : List (Json.Field TransportEntry) :=
  [ .text "rid" (fun value entry => { entry with rid := value }),
    .of "checkoutTime" Json.Decoder.integer
      (fun value entry => { entry with checkoutTime := value }),
    .text "fromCommit" (fun value entry => { entry with fromCommit := value }),
    .text "toCommit" (fun value entry => { entry with toCommit := value }),
    .text "caller" (fun value entry => { entry with caller := value }),
    .text "request" (fun value entry => { entry with request := value }),
    .text "type" (fun value entry => { entry with kind := value }) ]

/-- How an entry is read. -/
def decoder : Json.Decoder TransportEntry := .record fields blank

end TransportEntry

/-- The reply that holds the history of a repository. -/
structure HistoryReply where
  result : List TransportEntry
  diagnostics : Diagnostics
  deriving Repr, DecidableEq

/-- How the reply is read that holds the history of a repository. -/
def HistoryReply.decoder : Json.Decoder HistoryReply :=
  .merged
    [.of "result" (Json.Decoder.list TransportEntry.decoder)
      (fun value reply => { reply with result := value })]
    (Diagnostics.fieldsOf
      (fun change reply => { reply with diagnostics := change reply.diagnostics }))
    ⟨[], .blank⟩

/-- The history of a repository, the latest pull first. -/
def Repository.fetchHistory (repository : Repository) : Step (List TransportEntry) := do
  let reply ← Step.exchange .system (.get (repository.actionUrl "getHistory"))
  let body ← Step.ofExcept (decodeReply HistoryReply.decoder reply)
  Step.log ⟨.debug, .history, some "fetched transport history",
    [.shown "repository" repository.name, .number "entries" body.result.length,
      .number "errors" body.diagnostics.errorLog.length]⟩
  pure body.result

end ChangeTransport
