import Mathlib.Logic.Relation
import ChangeTransport.Proofs.Repository.Diagnostics
import ChangeTransport.Proofs.Running
import ChangeTransport.Repository.Create

/-!
# Work that has been done before

That a repository has been cloned or created before is no error.  Which replies say so is decided by
the status, by the codes in the log of errors and by the message of the exception alone.  A reply
that cannot be read is an error of its own where a repository is cloned, and says nothing where one
is created.
-/

namespace ChangeTransport

open Json Step

/-! ## Replies with diagnostics -/

namespace Http.Reply

theorem isSuccess_iff {reply : Reply} :
    reply.isSuccess = true ↔ 200 ≤ reply.status ∧ reply.status < 300 := by
  simp [isSuccess]

/-- The body of a reply can be read as diagnostics, perhaps among other members. -/
def IsReadable (reply : Reply) : Prop :=
  ∃ diagnostics, decodeReply Diagnostics.mergedDecoder reply = .ok diagnostics

/-- The value at the beginning of the body of a reply. -/
def value (reply : Reply) : Outline := (Document.read reply.body).value

/-- Another reply, with the same status, that says the same of what has been done before. -/
structure Restates (first second : Reply) : Prop where
  status : first.status = second.status
  readable : first.IsReadable
  otherReadable : second.IsReadable
  restated : Relation.EqvGen Diagnostics.Restated first.value second.value

end Http.Reply

variable {reply : Http.Reply}

theorem exists_json_of_decodeReply_eq_error {α : Type} {decoder : Decoder α} {error : Error}
    (unread : decodeReply decoder reply = .error error) : ∃ fault, error = .json fault := by
  unfold decodeReply at unread
  cases read : decode decoder reply.body with
  | error fault =>
      rw [read] at unread
      exact ⟨fault, (Except.error.inj unread).symm⟩
  | ok value =>
      rw [read] at unread
      cases unread

theorem decoder_value_eq_ok_of_decodeReply {α : Type} {decoder : Decoder α} {value : α}
    (read : decodeReply decoder reply = .ok value) :
    decoder .outermost reply.value = .ok value := by
  unfold decodeReply at read
  cases decoded : decode decoder reply.body with
  | error fault =>
      rw [decoded] at read
      cases read
  | ok known =>
      rw [decoded] at read
      cases read
      rcases exists_of_bind_eq_ok decoded with ⟨made, known, ended⟩
      split at ended
      · cases ended
      · cases ended
        exact known

namespace Diagnostics

variable {diagnostics : Diagnostics}

theorem isSome_findErrorCode?_iff {code : String} :
    (diagnostics.findErrorCode? code).isSome = true ↔
      ∃ entry ∈ diagnostics.errorLog, entry.code = code := by
  simp [findErrorCode?, List.find?_isSome]

/-- A reply that is read has an entry with the code of a clone exactly if its value logs it. -/
theorem isSome_findErrorCode?_iff_logsCode
    (read : decodeReply mergedDecoder reply = .ok diagnostics) :
    (diagnostics.findErrorCode? clonedCode).isSome = true ↔ LogsCode clonedCode reply.value :=
  isSome_findErrorCode?_iff.trans
    (exists_code_iff_logsCode (decoder_value_eq_ok_of_decodeReply read) (by decide))

theorem map_message_eq_existsMessage_iff
    (read : decodeReply mergedDecoder reply = .ok diagnostics) :
    diagnostics.exception.map SystemException.message = some existsMessage ↔
      Raises existsMessage reply.value :=
  map_message_eq_some_iff_raises (decoder_value_eq_ok_of_decodeReply read) (by decide)

end Diagnostics

namespace Repository

variable (repository : Repository)

/-! ## Cloning -/

/-- What a reply to the cloning of a repository comes to. -/
def cloneIn (reply : Http.Reply) : Except Error CloneOutcome :=
  if reply.isSuccess then .ok .cloned
  else do
    let diagnostics ← decodeReply Diagnostics.mergedDecoder reply
    if reply.status = 500 ∧ (diagnostics.findErrorCode? clonedCode).isSome then .ok .alreadyCloned
    else .error (.http reply.status (repository.actionUrl "clone"))

theorem asks_clone :
    Asks repository.clone .system repository.cloneRequest
      (fun answer => answer.received >>= repository.cloneIn) := by
  apply Asks.of_send
  intro reply
  unfold cloneIn
  split
  · exact Silent.log_then _ (Silent.pure _)
  · apply Silent.ofExcept_bind
    intro diagnostics
    split
    · exact Silent.log_then _ (Silent.pure _)
    · exact Silent.throw _

/-- An outcome of cloning is the one that is documented for a reply. -/
structure ClonedAsDocumented (reply : Http.Reply) (outcome : Except Error CloneOutcome) : Prop where
  cloned : outcome = .ok .cloned ↔ 200 ≤ reply.status ∧ reply.status < 300
  alreadyCloned : outcome = .ok .alreadyCloned ↔
    reply.status = 500 ∧ reply.IsReadable ∧ Diagnostics.LogsCode clonedCode reply.value
  unreadable : (∃ fault, outcome = .error (.json fault)) ↔
    ¬ (200 ≤ reply.status ∧ reply.status < 300) ∧ ¬ reply.IsReadable
  others : outcome = .ok .cloned ∨ outcome = .ok .alreadyCloned ∨
    (∃ fault, outcome = .error (.json fault)) ∨
    outcome = .error (.http reply.status (repository.actionUrl "clone"))

theorem clonedAsDocumented (reply : Http.Reply) :
    repository.ClonedAsDocumented reply (repository.cloneIn reply) := by
  unfold cloneIn
  by_cases success : reply.isSuccess = true
  · have status := Http.Reply.isSuccess_iff.mp success
    rw [if_pos success]
    refine ⟨iff_of_true rfl status, iff_of_false nofun ?_, iff_of_false nofun ?_, .inl rfl⟩
    · rintro ⟨failed, -⟩
      omega
    · exact fun refused => refused.1 status
  · have status := mt Http.Reply.isSuccess_iff.mpr success
    rw [if_neg success]
    cases read : decodeReply Diagnostics.mergedDecoder reply with
    | error error =>
        have unread : ¬ reply.IsReadable := by
          rintro ⟨diagnostics, known⟩
          rw [read] at known
          cases known
        rcases exists_json_of_decodeReply_eq_error read with ⟨fault, rfl⟩
        exact ⟨iff_of_false nofun status, iff_of_false nofun fun told => unread told.2.1,
          iff_of_true ⟨fault, rfl⟩ ⟨status, unread⟩, .inr (.inr (.inl ⟨fault, rfl⟩))⟩
    | ok diagnostics =>
        have readable : reply.IsReadable := ⟨diagnostics, read⟩
        have logs := Diagnostics.isSome_findErrorCode?_iff_logsCode read
        change repository.ClonedAsDocumented reply (if _ then _ else _)
        split
        · next told =>
            exact ⟨iff_of_false nofun status,
              iff_of_true rfl ⟨told.1, readable, logs.mp told.2⟩,
              iff_of_false nofun fun refused => refused.2 readable, .inr (.inl rfl)⟩
        · next untold =>
            exact ⟨iff_of_false nofun status,
              iff_of_false nofun fun told => untold ⟨told.1, logs.mpr told.2.2⟩,
              iff_of_false nofun fun refused => refused.2 readable, .inr (.inr (.inr rfl))⟩

/-- What is documented leaves one outcome of cloning for replies that restate each other. -/
theorem ClonedAsDocumented.eq_of_restates {repository : Repository} {first second : Http.Reply}
    {outcome other : Except Error CloneOutcome}
    (documented : repository.ClonedAsDocumented first outcome)
    (otherDocumented : repository.ClonedAsDocumented second other)
    (restates : first.Restates second) : outcome = other := by
  have cloned : outcome = .ok .cloned ↔ other = .ok .cloned := by
    rw [documented.cloned, otherDocumented.cloned, restates.status]
  have alreadyCloned : outcome = .ok .alreadyCloned ↔ other = .ok .alreadyCloned := by
    rw [documented.alreadyCloned, otherDocumented.alreadyCloned, restates.status,
      iff_true_intro restates.readable, iff_true_intro restates.otherReadable,
      Diagnostics.iff_of_eqvGen_restated Diagnostics.Restated.logsCode_iff restates.restated]
  have read : ¬ ∃ fault, outcome = .error (.json fault) :=
    fun failed => (documented.unreadable.mp failed).2 restates.readable
  have otherRead : ¬ ∃ fault, other = .error (.json fault) :=
    fun failed => (otherDocumented.unreadable.mp failed).2 restates.otherReadable
  rcases documented.others with known | known | failed | known
  · rw [known, cloned.mp known]
  · rw [known, alreadyCloned.mp known]
  · exact absurd failed read
  · rcases otherDocumented.others with otherKnown | otherKnown | failed | otherKnown
    · rw [otherKnown, cloned.mpr otherKnown]
    · rw [otherKnown, alreadyCloned.mpr otherKnown]
    · exact absurd failed otherRead
    · rw [known, otherKnown, restates.status]

/-! ## Creating -/

/-- The diagnostics of a reply to the creation of a repository. -/
def createdDiagnostics (reply : Http.Reply) : Diagnostics :=
  match decodeReply Diagnostics.mergedDecoder reply with
  | .ok diagnostics => diagnostics
  | .error _ => .blank

/-- What a reply to the creation of a repository comes to. -/
def createIn (reply : Http.Reply) : Except Error CreateOutcome :=
  if reply.isSuccess then .ok .created
  else if reply.status = 500 ∧
      (createdDiagnostics reply).exception.map SystemException.message = some existsMessage then
    .ok .alreadyExists
  else .error (.http reply.status repository.listUrl)

theorem silent_createDiagnostics (reply : Http.Reply) :
    Silent (createDiagnostics reply) (.ok (createdDiagnostics reply)) := by
  unfold createDiagnostics createdDiagnostics
  cases decodeReply Diagnostics.mergedDecoder reply with
  | error error => exact Silent.log_then _ (Silent.pure _)
  | ok diagnostics => exact Silent.pure diagnostics

theorem asks_create (options : CreateOptions) :
    Asks (repository.create options) .system (repository.createRequest options)
      (fun answer => answer.received >>= repository.createIn) := by
  apply Asks.of_send
  intro reply
  apply (silent_createDiagnostics reply).bind
  unfold createIn
  dsimp only
  split
  · exact Silent.log_then _ (Silent.pure _)
  · split
    · exact Silent.log_then _ (Silent.pure _)
    · cases (createdDiagnostics reply).exception.map SystemException.message with
      | none => exact (Silent.pure _).bind (Silent.throw _)
      | some message => exact Silent.log_then _ (Silent.throw _)

/-- An outcome of creating is the one that is documented for a reply. -/
structure CreatedAsDocumented (reply : Http.Reply) (outcome : Except Error CreateOutcome) :
    Prop where
  created : outcome = .ok .created ↔ 200 ≤ reply.status ∧ reply.status < 300
  alreadyExists : outcome = .ok .alreadyExists ↔
    reply.status = 500 ∧ reply.IsReadable ∧ Diagnostics.Raises existsMessage reply.value
  others : outcome = .ok .created ∨ outcome = .ok .alreadyExists ∨
    outcome = .error (.http reply.status repository.listUrl)

theorem map_message_createdDiagnostics_iff (reply : Http.Reply) :
    (createdDiagnostics reply).exception.map SystemException.message = some existsMessage ↔
      reply.IsReadable ∧ Diagnostics.Raises existsMessage reply.value := by
  unfold createdDiagnostics Http.Reply.IsReadable
  cases read : decodeReply Diagnostics.mergedDecoder reply with
  | error error => simp [Diagnostics.blank]
  | ok diagnostics =>
      dsimp only
      rw [Diagnostics.map_message_eq_existsMessage_iff read]
      simp

/-- The exception is told as a text, as an object and as an array. -/
example : ∀ exception ∈ ["\"Repository already exists\"",
      "\x7b\"code\":1,\"message\":\"Repository already exists\"\x7d",
      "[\"Repository already exists\"]"],
    (createdDiagnostics ⟨500, [], Text.Utf8.ofText
      ("\x7b\"exception\":" ++ exception ++ "\x7d")⟩).exception.map SystemException.message =
        some existsMessage := by
  decide +kernel

theorem createdAsDocumented (reply : Http.Reply) :
    repository.CreatedAsDocumented reply (repository.createIn reply) := by
  have raises := map_message_createdDiagnostics_iff reply
  unfold createIn
  split
  · next success =>
      have status := Http.Reply.isSuccess_iff.mp success
      refine ⟨iff_of_true rfl status, iff_of_false nofun ?_, .inl rfl⟩
      rintro ⟨failed, -⟩
      omega
  · next failed =>
      have status := mt Http.Reply.isSuccess_iff.mpr failed
      split
      · next told =>
          exact ⟨iff_of_false nofun status, iff_of_true rfl ⟨told.1, raises.mp told.2⟩,
            .inr (.inl rfl)⟩
      · next untold =>
          exact ⟨iff_of_false nofun status,
            iff_of_false nofun fun told => untold ⟨told.1, raises.mpr told.2⟩, .inr (.inr rfl)⟩

/-- What is documented leaves one outcome of creating for replies that restate each other. -/
theorem CreatedAsDocumented.eq_of_restates {repository : Repository} {first second : Http.Reply}
    {outcome other : Except Error CreateOutcome}
    (documented : repository.CreatedAsDocumented first outcome)
    (otherDocumented : repository.CreatedAsDocumented second other)
    (restates : first.Restates second) : outcome = other := by
  have created : outcome = .ok .created ↔ other = .ok .created := by
    rw [documented.created, otherDocumented.created, restates.status]
  have alreadyExists : outcome = .ok .alreadyExists ↔ other = .ok .alreadyExists := by
    rw [documented.alreadyExists, otherDocumented.alreadyExists, restates.status,
      iff_true_intro restates.readable, iff_true_intro restates.otherReadable,
      Diagnostics.iff_of_eqvGen_restated Diagnostics.Restated.raises_iff restates.restated]
  rcases documented.others with known | known | known
  · rw [known, created.mp known]
  · rw [known, alreadyExists.mp known]
  · rcases otherDocumented.others with otherKnown | otherKnown | otherKnown
    · rw [otherKnown, created.mpr otherKnown]
    · rw [otherKnown, alreadyExists.mpr otherKnown]
    · rw [known, otherKnown, restates.status]

/-! ## Both -/

/--
Where a request is not answered, that is the error.  Otherwise the outcome of cloning and that of
creating are the ones documented for the reply, and replies that restate each other have one
outcome.
-/
theorem already_done_exactly_as_documented (options : CreateOptions) :
    (∀ world : World, match (world.exchange .system repository.cloneRequest).1 with
      | .failure reason => (runIn world repository.clone).1 = .error (.transport reason)
      | .reply reply => repository.ClonedAsDocumented reply (runIn world repository.clone).1) ∧
    (∀ world : World, match (world.exchange .system (repository.createRequest options)).1 with
      | .failure reason =>
        (runIn world (repository.create options)).1 = .error (.transport reason)
      | .reply reply =>
        repository.CreatedAsDocumented reply (runIn world (repository.create options)).1) ∧
    ∀ first second : Http.Reply, first.Restates second → ∀ world other : World,
      ((world.exchange .system repository.cloneRequest).1 = .reply first →
        (other.exchange .system repository.cloneRequest).1 = .reply second →
        (runIn world repository.clone).1 = (runIn other repository.clone).1) ∧
      ((world.exchange .system (repository.createRequest options)).1 = .reply first →
        (other.exchange .system (repository.createRequest options)).1 = .reply second →
        (runIn world (repository.create options)).1 =
          (runIn other (repository.create options)).1) := by
  have clones (world : World) := repository.asks_clone.fst_runIn world
  have creates (world : World) := (repository.asks_create options).fst_runIn world
  refine ⟨fun world => ?_, fun world => ?_, fun first second restates world other => ⟨?_, ?_⟩⟩
  · rw [clones]
    cases (world.exchange .system repository.cloneRequest).1 with
    | failure reason => rfl
    | reply reply => exact repository.clonedAsDocumented reply
  · rw [creates]
    cases (world.exchange .system (repository.createRequest options)).1 with
    | failure reason => rfl
    | reply reply => exact repository.createdAsDocumented reply
  · intro answered otherAnswered
    rw [clones, clones, answered, otherAnswered]
    exact (repository.clonedAsDocumented first).eq_of_restates
      (repository.clonedAsDocumented second) restates
  · intro answered otherAnswered
    rw [creates, creates, answered, otherAnswered]
    exact (repository.createdAsDocumented first).eq_of_restates
      (repository.createdAsDocumented second) restates

/-- An exception that is told as an object behind an empty log counts as one that is a text. -/
theorem existence_known_from_text_as_from_object :
    let repository : Repository := .of "http://host:50000" "000" "demo"
    let world (reply : Http.Reply) : World :=
      .start (.ofScript [.reply reply]) (.ofScript []) .ignoring
    let asText : Http.Reply := ⟨500, [], Text.Utf8.ofText
      "\x7b\"exception\":\"Repository already exists\"\x7d"⟩
    let asObject : Http.Reply := ⟨500, [], Text.Utf8.ofText
      "\x7b\"errorLog\":[],\"exception\":\x7b\"message\":\"Repository already exists\"\x7d\x7d"⟩
    asText.Restates asObject ∧
      (runIn (world asText) (repository.create .default)).1 =
        (runIn (world asObject) (repository.create .default)).1 := by
  intro repository world asText asObject
  have answered (reply : Http.Reply) (request : Http.Request) :
      ((world reply).exchange .system request).1 = .reply reply := rfl
  let diagnostics : Diagnostics := ⟨[], [], some (.ofMessage existsMessage)⟩
  have textRead : decodeReply Diagnostics.mergedDecoder asText = .ok diagnostics := by
    decide +kernel
  have objectRead : decodeReply Diagnostics.mergedDecoder asObject = .ok diagnostics := by
    decide +kernel
  have text : asText.value =
      .object (.ofList ([] ++ ("exception", .text (some existsMessage)) :: [])) := rfl
  have object : asObject.value = .object (.ofList (("errorLog", .array (.ofList [])) :: ([] ++
      ("exception", .object (.ofList [("message", .text (some existsMessage))])) :: []))) := rfl
  have restates : asText.Restates asObject := by
    refine ⟨rfl, ⟨_, textRead⟩, ⟨_, objectRead⟩, ?_⟩
    rw [text, object]
    exact .trans _ _ _ (.rel _ _ (.structured rfl)) (.rel _ _ (.logged rfl))
  refine ⟨restates, ?_⟩
  rcases repository.already_done_exactly_as_documented .default with ⟨-, -, same⟩
  exact (same asText asObject restates (world asText) (world asObject)).2
    (answered asText _) (answered asObject _)

end Repository

end ChangeTransport
