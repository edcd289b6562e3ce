import ChangeTransport.Error
import ChangeTransport.Http.Message
import ChangeTransport.Json.Decoder

/-!
# Diagnostics

Next to its proper content a reply of the system may hold a log, a log of errors and an exception.
The exception is a text or a record; a text stands for the record with that message.
-/

namespace ChangeTransport

/-- Read the body of a reply. -/
def decodeReply {α : Type} (decoder : Json.Decoder α) (reply : Http.Reply) : Except Error α :=
  (Json.decode decoder reply.body).mapError Error.json

/-- An entry of a log of the system. -/
structure SystemEntry where
  time : Int
  user : String
  area : String
  action : String
  severity : String
  message : String
  code : String
  deriving Repr, DecidableEq

namespace SystemEntry

/-- An entry that says nothing. -/
def blank : SystemEntry := ⟨0, "", "", "", "", "", ""⟩

/-- The fields of an entry. -/
def fields : List (Json.Field SystemEntry) :=
  [ .of "time" Json.Decoder.integer (fun value entry => { entry with time := value }),
    .text "user" (fun value entry => { entry with user := value }),
    .text "section" (fun value entry => { entry with area := value }),
    .text "action" (fun value entry => { entry with action := value }),
    .text "severity" (fun value entry => { entry with severity := value }),
    .text "message" (fun value entry => { entry with message := value }),
    .text "code" (fun value entry => { entry with code := value }) ]

/-- How an entry is read. -/
def decoder : Json.Decoder SystemEntry := .record fields blank

end SystemEntry

/-- What has gone wrong in the system. -/
structure SystemException where
  message : String
  description : String
  code : Int
  deriving Repr, DecidableEq

namespace SystemException

/-- The exception of which only the message is known. -/
def ofMessage (message : String) : SystemException := ⟨message, "", 0⟩

/-- The fields of an exception. -/
def fields : List (Json.Field SystemException) :=
  [ .text "message" (fun value exception => { exception with message := value }),
    .text "description" (fun value exception => { exception with description := value }),
    .of "code" Json.Decoder.integer (fun value exception => { exception with code := value }) ]

/-- How an exception is read, once its value has been kept. -/
def keptDecoder : Json.Decoder SystemException
  | _, .text (some message) => .ok (ofMessage message)
  | setting, .array items => Json.Decoder.record fields (ofMessage "") setting (.array items)
  | setting, .object members => Json.Decoder.record fields (ofMessage "") setting (.object members)
  | _, _ => .error .mismatch

/--
How an exception is read: its value is kept first and read afterwards, and a value that is neither
a text nor the record is a mismatch.
-/
def decoder : Json.Decoder (Option SystemException)
  | _, .null => .ok none
  | setting, outline => do
    outline.check setting
    match keptDecoder setting.kept outline with
    | .ok exception => pure (some exception)
    | .error _ => throw .mismatch

end SystemException

/-- The diagnostic part of a reply. -/
structure Diagnostics where
  log : List SystemEntry
  errorLog : List SystemEntry
  exception : Option SystemException
  deriving Repr, DecidableEq

namespace Diagnostics

/-- Diagnostics that say nothing. -/
def blank : Diagnostics := ⟨[], [], none⟩

/-- The fields of diagnostics that are a part of something larger. -/
def fieldsOf {ρ : Type} (change : (Diagnostics → Diagnostics) → ρ → ρ) : List (Json.Field ρ) :=
  [ .of "log" (Json.Decoder.list SystemEntry.decoder)
      (fun value => change fun diagnostics => { diagnostics with log := value }),
    .of "errorLog" (Json.Decoder.list SystemEntry.decoder)
      (fun value => change fun diagnostics => { diagnostics with errorLog := value }),
    .of "exception" SystemException.decoder
      (fun value => change fun diagnostics => { diagnostics with exception := value }) ]

/-- The fields of diagnostics. -/
def fields : List (Json.Field Diagnostics) := fieldsOf id

/-- How diagnostics are read that stand alone. -/
def decoder : Json.Decoder Diagnostics := .record fields blank

/-- How diagnostics are read that stand among other members. -/
def mergedDecoder : Json.Decoder Diagnostics := .merged [] fields blank

/-- The first entry of the error log with a code. -/
def findErrorCode? (diagnostics : Diagnostics) (code : String) : Option SystemEntry :=
  diagnostics.errorLog.find? (fun entry => entry.code == code)

end Diagnostics

end ChangeTransport
