import Mathlib.Control.Monad.Basic
import ChangeTransport.Proofs.Json.Record
import ChangeTransport.Proofs.Repository.Questions

/-!
# Listings

What the system lists about a repository comes as an object, and the object may be written in many
ways: with its members in any order and others among them, with blanks between any two tokens, with
every character escaped or not.  Whatever the way, nothing that is listed is lost, nothing is added,
and the order is the one of the list.
-/

namespace ChangeTransport

open Step Json

/-! ## Pulls -/

namespace TransportEntry

/-- The parts of an entry of the history. -/
def parts : List (RecordPart TransportEntry) :=
  [ .text "rid" rid, .integer "checkoutTime" checkoutTime, .text "fromCommit" fromCommit,
    .text "toCommit" toCommit, .text "caller" caller, .text "request" request, .text "type" kind ]

/-- What denotes an entry of the history. -/
def Denotes : TransportEntry → Outline → Prop :=
  Describes parts blank (parts.map RecordPart.name) Outline.IsWhole

theorem fieldsSet : FieldsSet 0 parts fields parts where
  sets := by
    refine .cons ?_ (.cons ?time (.cons ?_ (.cons ?_ (.cons ?_ (.cons ?_ (.cons ?_ .nil))))))
    case time => exact Field.sets_integer (fun _ _ => rfl) (by simp [LeavesOthers, parts])
    all_goals exact Field.sets_text (fun _ _ => rfl) (by simp [LeavesOthers, parts])
  distinct := by decide

theorem decoder_recovers : decoder.Recovers 1 Denotes :=
  Decoder.record_recovers fieldsSet fun first second agree => by
    cases first
    cases second
    simpa [parts] using agree

end TransportEntry

namespace SystemEntry

/-- The parts of an entry of a log of the system. -/
def parts : List (RecordPart SystemEntry) :=
  [ .integer "time" time, .text "user" user, .text "section" area, .text "action" action,
    .text "severity" severity, .text "message" message, .text "code" code ]

/-- What denotes an entry of a log of the system. -/
def Denotes : SystemEntry → Outline → Prop :=
  Describes parts blank (parts.map RecordPart.name) Outline.IsWhole

theorem fieldsSet : FieldsSet 0 parts fields parts where
  sets := by
    refine .cons ?time (.cons ?_ (.cons ?_ (.cons ?_ (.cons ?_ (.cons ?_ (.cons ?_ .nil))))))
    case time => exact Field.sets_integer (fun _ _ => rfl) (by simp [LeavesOthers, parts])
    all_goals exact Field.sets_text (fun _ _ => rfl) (by simp [LeavesOthers, parts])
  distinct := by decide

theorem decoder_recovers : decoder.Recovers 1 Denotes :=
  Decoder.record_recovers fieldsSet fun first second agree => by
    cases first
    cases second
    simpa [parts] using agree

end SystemEntry

namespace SystemException

/-- The parts of an exception. -/
def parts : List (RecordPart SystemException) :=
  [ .text "message" message, .text "description" description, .integer "code" code ]

/-- What denotes an exception: its message alone, or an object; `null` denotes none. -/
def Denotes : Option SystemException → Outline → Prop
  | none, outline => outline = .null
  | some exception, outline =>
      outline.IsKeepable ∧
        ((∃ message, exception = ofMessage message ∧ outline = .text (some message)) ∨
          Describes parts (ofMessage "") (parts.map RecordPart.name) Outline.IsWhole exception
            outline)

theorem fieldsSet : FieldsSet 0 parts fields parts where
  sets := by
    refine .cons ?_ (.cons ?_ (.cons ?code .nil))
    case code => exact Field.sets_integer (fun _ _ => rfl) (by simp [LeavesOthers, parts])
    all_goals exact Field.sets_text (fun _ _ => rfl) (by simp [LeavesOthers, parts])
  distinct := by decide

theorem record_recovers : (Decoder.record fields (ofMessage "")).Recovers 1
    (Describes parts (ofMessage "") (parts.map RecordPart.name) Outline.IsWhole) :=
  Decoder.record_recovers fieldsSet fun first second agree => by
    cases first
    cases second
    simpa [parts] using agree

theorem decoder_recovers : decoder.Recovers 100 Denotes := by
  rintro setting (_ | exception) outline room denotes
  · cases denotes
    rfl
  · rcases denotes with ⟨⟨readable, shallow⟩, ⟨message, rfl, rfl⟩ | described⟩
    · rfl
    · have checked := outline.check_of_isReadable readable setting (by omega)
      have known := record_recovers setting.kept exception outline
        (Nat.le_trans (by decide) room) described
      rcases described with ⟨members, rfl, -⟩
      rw [decoder, checked, ok_bind, keptDecoder, known]
      · rfl
      · exact nofun

end SystemException

namespace HistoryReply

/-- The part of a reply about the history that is read at once. -/
def parts : List (RecordPart HistoryReply) := [.list "result" result TransportEntry.Denotes]

/-- The parts of a reply about the history that are kept first. -/
def keptParts : List (RecordPart HistoryReply) :=
  [ .list "log" (fun reply => reply.diagnostics.log) SystemEntry.Denotes,
    .list "errorLog" (fun reply => reply.diagnostics.errorLog) SystemEntry.Denotes,
    .of "exception" (fun reply => reply.diagnostics.exception) SystemException.Denotes ]

/-- What denotes a reply about the history: all but the history must be such as can be kept. -/
def Denotes : HistoryReply → Outline → Prop :=
  Describes (parts ++ keptParts) ⟨[], .blank⟩ (parts.map RecordPart.name) Outline.IsKeepable

theorem decoder_recovers : decoder.Recovers 101 Denotes := by
  have entries : TransportEntry.decoder.Recovers 99 TransportEntry.Denotes :=
    TransportEntry.decoder_recovers.mono (by decide)
  have logged : SystemEntry.decoder.Recovers 99 SystemEntry.Denotes :=
    SystemEntry.decoder_recovers.mono (by decide)
  apply Decoder.merged_recovers (Nat.le_refl 100)
  case set =>
    refine ⟨.cons (Field.sets_list entries (fun _ _ => rfl) ?_) .nil, by decide⟩
    simp [LeavesOthers, parts, keptParts]
  case later =>
    refine ⟨.cons ?_ (.cons ?_ (.cons ?_ .nil)), by decide⟩
    · exact Field.sets_list logged (fun _ _ => rfl) (by simp [LeavesOthers, parts, keptParts])
    · exact Field.sets_list logged (fun _ _ => rfl) (by simp [LeavesOthers, parts, keptParts])
    · exact Field.sets_of SystemException.decoder_recovers (fun _ _ => rfl)
        (by simp [LeavesOthers, parts, keptParts])
  case apart => simp [parts, keptParts]
  case ext =>
    rintro ⟨_, _, _, _⟩ ⟨_, _, _, _⟩ agree
    simpa [parts, keptParts] using agree

end HistoryReply

/-! ## Commits -/

namespace Commit

/-- The parts of a commit. -/
def parts : List (RecordPart Commit) :=
  [ .text "id" id, .optionalText "author" author, .optionalText "authorMail" authorMail,
    .optionalText "message" message, .optionalText "description" description,
    .optionalText "date" date ]

/-- What denotes a commit. -/
def Denotes : Commit → Outline → Prop :=
  Describes parts (ofId "") (parts.map RecordPart.name) Outline.IsWhole

/-- What denotes a list of commits. -/
def DenotesAll : List Commit → Outline → Prop :=
  Describes [.list "commits" (fun commits => commits) Denotes] [] ["commits"] Outline.IsWhole

theorem fieldsSet : FieldsSet 0 parts fields parts where
  sets := by
    refine .cons ?id (.cons ?_ (.cons ?_ (.cons ?_ (.cons ?_ (.cons ?_ .nil)))))
    case id => exact Field.sets_text (fun _ _ => rfl) (by simp [LeavesOthers, parts])
    all_goals
      exact Field.sets_of (Decoder.optionalText_recovers 0) (fun _ _ => rfl)
        (by simp [LeavesOthers, parts])
  distinct := by decide

theorem decoder_recovers : decoder.Recovers 1 Denotes :=
  Decoder.record_recovers fieldsSet fun first second agree => by
    cases first
    cases second
    simpa [parts] using agree

theorem replyDecoder_recovers : replyDecoder.Recovers 3 DenotesAll :=
  Decoder.single_recovers (Decoder.list_recovers decoder_recovers) "commits" []

end Commit

/-! ## Objects -/

namespace RepositoryObject

/-- The parts of an object. -/
def parts : List (RecordPart RepositoryObject) :=
  [ .text "pgmid" pgmid, .text "object" name, .text "type" kind,
    .text "description" description ]

/-- What denotes an object. -/
def Denotes : RepositoryObject → Outline → Prop :=
  Describes parts blank (parts.map RecordPart.name) Outline.IsWhole

/-- What denotes a list of objects. -/
def DenotesAll : List RepositoryObject → Outline → Prop :=
  Describes [.list "objects" id Denotes] [] ["objects"] Outline.IsWhole

theorem fieldsSet : FieldsSet 0 parts fields parts where
  sets := by
    refine .cons ?_ (.cons ?_ (.cons ?_ (.cons ?_ .nil)))
    all_goals exact Field.sets_text (fun _ _ => rfl) (by simp [LeavesOthers, parts])
  distinct := by decide

theorem decoder_recovers : decoder.Recovers 1 Denotes :=
  Decoder.record_recovers fieldsSet fun first second agree => by
    cases first
    cases second
    simpa [parts] using agree

theorem replyDecoder_recovers : replyDecoder.Recovers 3 DenotesAll :=
  Decoder.single_recovers (Decoder.list_recovers decoder_recovers) "objects" []

end RepositoryObject

/-! ## Descriptors -/

namespace RepositorySetting

/-- The parts of a setting. -/
def parts : List (RecordPart RepositorySetting) :=
  [ .text "key" key, .text "value" value, .text "category" category ]

/-- What denotes a setting. -/
def Denotes : RepositorySetting → Outline → Prop :=
  Describes parts blank (parts.map RecordPart.name) Outline.IsWhole

theorem fieldsSet : FieldsSet 0 parts fields parts where
  sets := by
    refine .cons ?_ (.cons ?_ (.cons ?_ .nil))
    all_goals exact Field.sets_text (fun _ _ => rfl) (by simp [LeavesOthers, parts])
  distinct := by decide

theorem decoder_recovers : decoder.Recovers 1 Denotes :=
  Decoder.record_recovers fieldsSet fun first second agree => by
    cases first
    cases second
    simpa [parts] using agree

end RepositorySetting

namespace Descriptor

/-- The parts of a descriptor. -/
def parts : List (RecordPart Descriptor) :=
  [ .text "rid" rid, .text "name" name, .text "role" role, .text "type" kind, .text "vsid" vsid,
    .text "status" status, .text "branch" branch, .text "url" url,
    .text "currentCommit" currentCommit,
    .list "config" settings RepositorySetting.Denotes ]

/-- What denotes a descriptor. -/
def Denotes : Descriptor → Outline → Prop :=
  Describes parts blank (parts.map RecordPart.name) Outline.IsWhole

/-- What denotes the answer that holds a descriptor. -/
def DenotesResult : Descriptor → Outline → Prop :=
  Describes [.of "result" id Denotes] blank ["result"] Outline.IsWhole

theorem fieldsSet : FieldsSet 2 parts fields parts where
  sets := by
    refine .cons ?_ (.cons ?_ (.cons ?_ (.cons ?_ (.cons ?_ (.cons ?_ (.cons ?_ (.cons ?_
      (.cons ?_ (.cons ?settings .nil)))))))))
    case settings =>
      exact Field.sets_list RepositorySetting.decoder_recovers (fun _ _ => rfl)
        (by simp [LeavesOthers, parts])
    all_goals exact Field.sets_text (fun _ _ => rfl) (by simp [LeavesOthers, parts])
  distinct := by decide

theorem decoder_recovers : decoder.Recovers 3 Denotes :=
  Decoder.record_recovers fieldsSet fun first second agree => by
    cases first
    cases second
    simpa [parts] using agree

theorem replyDecoder_recovers : replyDecoder.Recovers 4 DenotesResult :=
  Decoder.single_recovers decoder_recovers "result" blank

end Descriptor

/-! ## What is returned -/

/--
A step that returns whatever is denoted by the body of the answer to its request, and has done
nothing since but log, if the answer says that the request has been carried out.
-/
def Step.ReturnsDenoted {α : Type} (step : Step α) (peer : Peer) (request : Http.Request)
    (Denotes : α → Outline → Prop) : Prop :=
  ∀ world received outline value, (world.exchange peer request).1 = .reply received →
    received.isSuccess = true → Spells outline received.body → Denotes value outline →
    ∃ log, runIn world step = (.ok value, { (world.exchange peer request).2 with log })

/-- A body that denotes a value is decoded as the value. -/
theorem decodeReply_of_spells {α : Type} {decoder : Decoder α} {depth : Nat}
    {Denotes : α → Outline → Prop} (recovers : decoder.Recovers depth Denotes)
    (room : depth ≤ Setting.outermost.room) {received : Http.Reply} {outline : Outline} {value : α}
    (spells : Spells outline received.body) (denotes : Denotes value outline) :
    decodeReply decoder received = .ok value := by
  rw [decodeReply, decode_of_spells spells, recovers .outermost value outline room denotes]
  rfl

/-- A question whose answer is decoded returns what is denoted, if all that denotes is recovered. -/
theorem Step.Asks.returnsDenoted {α : Type} {step : Step α} {peer : Peer} {request : Http.Request}
    {url : String} {decoder : Decoder α} {depth : Nat} {Denotes : α → Outline → Prop}
    (asks : Asks step peer request (Http.Answer.read url (decodeReply decoder)))
    (recovers : decoder.Recovers depth Denotes) (room : depth ≤ Setting.outermost.room) :
    ReturnsDenoted step peer request Denotes := by
  intro world received outline value answered success spells denotes
  rcases asks world with ⟨log, ended⟩
  refine ⟨log, ?_⟩
  rw [ended, answered, Http.Answer.read_of_success success,
    decodeReply_of_spells recovers room spells denotes]

namespace Repository

variable (repository : Repository)

/--
The listings are read without loss, duplication or reordering.  Whatever text denotes a history, a
list of commits, a list of objects or a descriptor, exactly these values are returned; and the
packages are the names of the objects of their type, in the order of the objects.
-/
theorem listings_are_returned_as_denoted :
    ReturnsDenoted repository.fetchHistory .system (.get (repository.actionUrl "getHistory"))
      (fun entries outline => ∃ diagnostics, HistoryReply.Denotes ⟨entries, diagnostics⟩ outline) ∧
    ReturnsDenoted repository.fetchCommits .system (.get (repository.actionUrl "getCommit"))
      Commit.DenotesAll ∧
    ReturnsDenoted repository.fetchObjects .system (.get (repository.actionUrl "getObjects"))
      RepositoryObject.DenotesAll ∧
    ReturnsDenoted repository.fetch .system (.get repository.url) Descriptor.DenotesResult ∧
    ReturnsDenoted repository.fetchPackages .system (.get (repository.actionUrl "getObjects"))
      (fun names outline => ∃ objects, RepositoryObject.DenotesAll objects outline ∧
        names = (objects.filter fun object => object.kind = "DEVC").map RepositoryObject.name) := by
  refine ⟨?_, ?_, ?_, ?_, ?_⟩
  · rintro world received outline entries answered success spells ⟨diagnostics, denotes⟩
    rcases repository.asks_fetchHistory world with ⟨log, ended⟩
    have read : repository.historyIn (.reply received) = .ok entries := by
      rw [historyIn, Http.Answer.read_of_success success,
        decodeReply_of_spells HistoryReply.decoder_recovers (by decide) spells denotes]
      rfl
    exact ⟨log, by rw [ended, answered, read]⟩
  · exact repository.asks_fetchCommits.returnsDenoted Commit.replyDecoder_recovers (by decide)
  · exact repository.asks_fetchObjects.returnsDenoted RepositoryObject.replyDecoder_recovers
      (by decide)
  · exact repository.asks_fetch.returnsDenoted Descriptor.replyDecoder_recovers (by decide)
  · rintro world received outline names answered success spells ⟨objects, denotes, rfl⟩
    rcases repository.asks_fetchPackages world with ⟨log, ended⟩
    have read : repository.objectsIn (.reply received) = .ok objects := by
      rw [objectsIn, Http.Answer.read_of_success success,
        decodeReply_of_spells RepositoryObject.replyDecoder_recovers (by decide) spells denotes]
    refine ⟨log, ?_⟩
    rw [ended, answered]
    dsimp only
    rw [read]
    rfl

/-- A commit is found behind a member that is no field, its name spelled by the number of a unit. -/
theorem commits_returned_behind_unknown_member :
    let repository : Repository := ⟨"http://h", "100", "r"⟩
    let received : Http.Reply := ⟨200, [], Text.Utf8.ofText
      " \x7b\"x\":[1e3],\"commits\":[\x7b\"date\":null,\"id\":\"\\u0061\"\x7d]\x7d"⟩
    ∃ log, runIn (.start (.ofScript [.reply received]) (.ofScript []) .ignoring)
        repository.fetchCommits =
      (.ok [.ofId "a"],
        { World.start ⟨.script [], [.get (repository.actionUrl "getCommit")]⟩ (.ofScript [])
            .ignoring with log }) := by
  intro repository received
  let thousand : Numeral := ⟨false, ⟨1, []⟩, nofun, none, some ⟨false, none, ⟨3, []⟩⟩⟩
  let commit : Outline := .object (.ofList [("date", .null), ("id", .text (some "a"))])
  let outline : Outline := .object (.ofList
    [("x", .array (.ofList [.number thousand.meaning])), ("commits", .array (.ofList [commit]))])
  have gap : IsGapped [0x20] := by simp [IsGapped, isGap]
  have name (text : String) (visible : ∀ character ∈ text.toList,
      0x20 ≤ character.toNat ∧ character ≠ '"' ∧ character ≠ '\\') :
      SpellsToken (.text (some text)) (0x22 :: (Text.Utf8.ofText text ++ [0x22])) :=
    .text (spellsText_encode visible)
  have unit : SpellsUnit 'a'.toNat [0x5C, 0x75, 0x30, 0x30, 0x36, 0x31] :=
    @SpellsUnit.of 0 0 6 1 _ _ _ _ (.inl rfl) (.inl rfl) (.inl rfl) (.inl rfl)
  have letter : SpellsToken (.text (some "a"))
      (0x22 :: ([0x5C, 0x75, 0x30, 0x30, 0x36, 0x31] ++ [] ++ [0x22])) :=
    .text (.cons (.unit unit) .nil)
  have written : SpellsTokens outline.tokens _ :=
    .cons gap .openObject <| .next (name "x" (by simp)) <| .next .colon <| .next .openArray <|
      .next (.number thousand) <| .next .closeArray <| .next .comma <|
      .next (name "commits" (by simp)) <| .next .colon <| .next .openArray <|
      .next .openObject <| .next (name "date" (by simp)) <| .next .colon <| .next .null <|
      .next .comma <| .next (name "id" (by simp)) <| .next .colon <| .next letter <|
      .next .closeObject <| .next .closeArray <| .next .closeObject .none
  have spelled : SpellsTokens outline.tokens received.body := written.of_eq (by decide +kernel)
  have spells : Spells outline received.body := ⟨by simp [outline, commit, Outline.IsWhole,
    Items.IsWhole, Members.IsWhole], spelled⟩
  have single : Commit.Denotes (.ofId "a") commit := by
    refine ⟨_, rfl, ?_, by simp [Commit.parts]⟩
    simp only [Commit.parts, List.forall_mem_cons, List.not_mem_nil, IsEmpty.forall_iff,
      implies_true, and_true]
    exact ⟨.inl ⟨_, by simp [named, Commit.ofId], rfl⟩, .inr ⟨rfl, rfl⟩, .inr ⟨rfl, rfl⟩,
      .inr ⟨rfl, rfl⟩, .inr ⟨rfl, rfl⟩, .inl ⟨_, by simp [named], rfl⟩⟩
  have denotes : Commit.DenotesAll [.ofId "a"] outline := by
    refine ⟨_, rfl, ?_, by simp [Outline.IsWhole, Items.IsWhole]⟩
    simp only [List.forall_mem_singleton]
    exact .inl ⟨_, by simp [named], ⟨[commit], rfl, .cons single .nil⟩⟩
  exact repository.listings_are_returned_as_denoted.2.1
    (.start (.ofScript [.reply received]) (.ofScript []) .ignoring) received outline _ rfl rfl
    spells denotes

/--
A number of which a double can hold the exact value is refused in an unknown member of a history,
and an integer that is written with a fraction is refused in a known one.
-/
theorem history_with_great_number_refused :
    let repository : Repository := ⟨"http://h", "100", "r"⟩
    let great : Numeral := ⟨false, ⟨1, []⟩, nofun,
      some ⟨7, [9, 7, 6, 9, 3, 1, 3, 4, 8, 6, 2, 3, 1, 5, 6, 4, 9]⟩,
      some ⟨false, none, ⟨3, [0, 8]⟩⟩⟩
    let body := Text.Utf8.ofText "\x7b\"result\":[],\"x\":" ++ great.bytes ++
      Text.Utf8.ofText "\x7d"
    let one : Numeral := ⟨false, ⟨1, []⟩, nofun, some ⟨0, []⟩, none⟩
    let body' := Text.Utf8.ofText "\x7b\"result\":[\x7b\"checkoutTime\":" ++ one.bytes ++
      Text.Utf8.ofText "\x7d]\x7d"
    let read (body : List UInt8) :=
      (runIn (.start (.ofScript [.reply ⟨200, [], body⟩]) (.ofScript []) .ignoring)
        repository.fetchHistory).1
    great.bytes = Text.Utf8.ofText "1.797693134862315649e308" ∧
      1797693134862315649 * Nat.pow 10 (308 - 18) ≤ Nat.pow 2 1024 - Nat.pow 2 971 ∧
      read body = .error (.json .malformed) ∧
      one.bytes = Text.Utf8.ofText "1.0" ∧ read body' = .error (.json .mismatch) := by
  decide +kernel

end Repository

end ChangeTransport
