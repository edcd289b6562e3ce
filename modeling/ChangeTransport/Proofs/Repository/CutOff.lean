import ChangeTransport.UnitTest.Run
import ChangeTransport.Proofs.Hosting.Newest
import ChangeTransport.Proofs.Json.Whole
import ChangeTransport.Proofs.Rollback.Resolution

/-!
# Answers that are cut off

The lists in an answer are empty where nothing stands in their place, so a reader that made do with
a part of an answer would lose packages, commits or pulls without a word.  No answer that breaks off
is read: whoever has asked ends with the fault of the answer, and asks nothing more.
-/

namespace ChangeTransport

open Step Json

/-! ## What the answers are read with -/

/-- A record that has a list as its only field. -/
theorem Json.Decoder.readsWhole_listing {α ρ : Type} {item : Decoder α} (reads : item.ReadsWhole)
    (name : String) (set : List α → ρ → ρ) (default : ρ) :
    (Decoder.record [.of name (Decoder.list item) set] default).ReadsWhole := by
  apply Decoder.readsWhole_record
  simp only [List.mem_singleton, forall_eq]
  exact Field.readsWhole_of (Decoder.readsWhole_list reads) name set

theorem TransportEntry.readsWhole_decoder : TransportEntry.decoder.ReadsWhole := by
  apply Decoder.readsWhole_record
  simp [fields, Field.readsWhole_text, Field.readsWhole_of Decoder.readsWhole_integer]

theorem HistoryReply.readsWhole_decoder : HistoryReply.decoder.ReadsWhole := by
  apply Decoder.readsWhole_merged
  simp only [List.mem_singleton, forall_eq]
  exact Field.readsWhole_of (Decoder.readsWhole_list TransportEntry.readsWhole_decoder) _ _

theorem Commit.readsWhole_replyDecoder : Commit.replyDecoder.ReadsWhole := by
  apply Decoder.readsWhole_listing
  apply Decoder.readsWhole_record
  simp [fields, optional, Field.readsWhole_text,
    Field.readsWhole_of Decoder.readsWhole_optionalText]

theorem RepositoryObject.readsWhole_replyDecoder : RepositoryObject.replyDecoder.ReadsWhole := by
  apply Decoder.readsWhole_listing
  apply Decoder.readsWhole_record
  simp [fields, Field.readsWhole_text]

theorem CommitStatus.readsWhole_decoder : CommitStatus.decoder.ReadsWhole := by
  apply Decoder.readsWhole_record
  simp [fields, Field.readsWhole_text]

theorem RepositorySetting.readsWhole_decoder : RepositorySetting.decoder.ReadsWhole := by
  apply Decoder.readsWhole_record
  simp [fields, Field.readsWhole_text]

theorem Descriptor.readsWhole_replyDecoder : Descriptor.replyDecoder.ReadsWhole := by
  have inner : Descriptor.decoder.ReadsWhole := by
    apply Decoder.readsWhole_record
    simp [fields, Field.readsWhole_text,
      Field.readsWhole_of (Decoder.readsWhole_list RepositorySetting.readsWhole_decoder)]
  apply Decoder.readsWhole_record
  simp only [List.mem_singleton, forall_eq]
  exact Field.readsWhole_of inner _ _

/-! ## Steps that ask -/

/-- A reply that says that the request has been carried out, with a body that breaks off. -/
structure Http.Reply.IsCutOff {β : Type} (decoder : Decoder β) (received : Http.Reply) : Prop where
  success : received.isSuccess = true
  cut : CutOff decoder received.body

namespace Step

variable {α β γ : Type}

/--
A step that ends with the fault of its answer, and has done nothing since but log, if the body of
the answer breaks off.
-/
def EndsAtCutOff (step : Step α) (peer : Peer) (request : Http.Request) (decoder : Decoder β) :
    Prop :=
  ∀ world received, (world.exchange peer request).1 = .reply received →
    received.IsCutOff decoder →
    ∃ fault log, decode decoder received.body = .error fault ∧
      runIn world step = (.error (.json fault), { (world.exchange peer request).2 with log })

theorem EndsAtCutOff.bind
    {step : Step α} {peer : Peer} {request : Http.Request} {decoder : Decoder β}
    (ends : EndsAtCutOff step peer request decoder) (next : α → Step γ) :
    EndsAtCutOff (step >>= next) peer request decoder := by
  intro world received answered cut
  rcases ends world received answered cut with ⟨fault, log, refused, ended⟩
  exact ⟨fault, log, refused, by rw [runIn_bind, ended]⟩

end Step

/-- A question whose answer is read with a decoder ends with the fault of an answer that is cut. -/
theorem Step.Asks.endsAtCutOff {α β : Type}
    {step : Step α} {peer : Peer} {request : Http.Request} {reading : Http.Answer → Except Error α}
    {decoder : Decoder β} (asks : Asks step peer request reading)
    (reads : decoder.ReadsWhole) (containers : decoder.ReadsContainers)
    (refuses : ∀ received fault, received.isSuccess = true →
      decode decoder received.body = .error fault →
        reading (.reply received) = .error (.json fault)) :
    EndsAtCutOff step peer request decoder := by
  intro world received answered cut
  rcases exists_fault_of_cutOff reads containers cut.cut with ⟨fault, refused⟩
  rcases asks world with ⟨log, ended⟩
  refine ⟨fault, log, refused, ?_⟩
  rw [ended, answered, refuses received fault cut.success refused]

/-- What is read out of a reply that cannot be decoded is the fault. -/
theorem Http.Reply.read_of_fault {α : Type} {decoder : Decoder α} {received : Http.Reply}
    {fault : Fault} (success : received.isSuccess = true)
    (refused : decode decoder received.body = .error fault) (url : String) :
    (Http.Answer.reply received).read url (decodeReply decoder) = .error (.json fault) := by
  rw [Http.Answer.read_of_success success, decodeReply, refused]
  rfl

namespace Repository

variable (repository : Repository)

/-- Different actions are asked for differently. -/
theorem get_actionUrl_inj (action other : String) :
    Http.Request.get (repository.actionUrl action) = .get (repository.actionUrl other) ↔
      action = other := by
  simp [Http.Request.get, actionUrl, String.ext_iff]

theorem fetch_endsAtCutOff :
    EndsAtCutOff repository.fetch .system (.get repository.url) Descriptor.replyDecoder :=
  repository.asks_fetch.endsAtCutOff Descriptor.readsWhole_replyDecoder
    (Decoder.readsContainers_record _ _)
    fun _ _ success refused => Http.Reply.read_of_fault success refused _

theorem fetchCommits_endsAtCutOff :
    EndsAtCutOff repository.fetchCommits .system (.get (repository.actionUrl "getCommit"))
      Commit.replyDecoder :=
  repository.asks_fetchCommits.endsAtCutOff Commit.readsWhole_replyDecoder
    (Decoder.readsContainers_record _ _)
    fun _ _ success refused => Http.Reply.read_of_fault success refused _

theorem historyIn_of_fault {received : Http.Reply} {fault : Fault}
    (success : received.isSuccess = true)
    (refused : decode HistoryReply.decoder received.body = .error fault) :
    repository.historyIn (.reply received) = .error (.json fault) := by
  rw [historyIn, Http.Answer.read_of_success success, decodeReply, refused]
  rfl

theorem fetchHistory_endsAtCutOff :
    EndsAtCutOff repository.fetchHistory .system (.get (repository.actionUrl "getHistory"))
      HistoryReply.decoder :=
  repository.asks_fetchHistory.endsAtCutOff HistoryReply.readsWhole_decoder
    (Decoder.readsContainers_merged _ _ _)
    fun _ _ success refused => repository.historyIn_of_fault success refused

theorem fetchObjects_endsAtCutOff :
    EndsAtCutOff repository.fetchObjects .system (.get (repository.actionUrl "getObjects"))
      RepositoryObject.replyDecoder :=
  repository.asks_fetchObjects.endsAtCutOff RepositoryObject.readsWhole_replyDecoder
    (Decoder.readsContainers_record _ _)
    fun _ _ success refused => Http.Reply.read_of_fault success refused _

end Repository

namespace HostedRepository

variable (repository : HostedRepository) (token : Option String)

theorem fetchStatus_endsAtCutOff (commit : String) :
    EndsAtCutOff (repository.fetchStatus commit token) .provider
      (repository.statusRequest commit token) CommitStatus.decoder :=
  (repository.asks_fetchStatus token commit).endsAtCutOff CommitStatus.readsWhole_decoder
    (Decoder.readsContainers_record _ _)
    fun _ _ success refused => Http.Reply.read_of_fault success refused _

variable {answers : List Http.Answer} {received : Http.Reply} {fault : Fault}

/-- A fault leaves no question open. -/
theorem not_leavesOpen_of_fault
    (refused : decode CommitStatus.decoder received.body = .error fault) :
    ¬ LeavesOpen (.reply received) := by
  rintro ⟨_, status, same, -, read, -⟩
  cases same
  rw [decodeReply, refused] at read
  cases read

/-- A fault decides for itself. -/
theorem eq_of_decides_of_fault {commit : String} {result : Except Error String}
    (success : received.isSuccess = true)
    (refused : decode CommitStatus.decoder received.body = .error fault)
    (decided : repository.Decides commit (.reply received) result) :
    result = .error (.json fault) := by
  cases decided with
  | refusal received refusal =>
      rw [success] at refusal
      cases refusal
  | unreadable received other success read =>
      rw [refused] at read
      cases read
      rfl
  | successful received status success read =>
      rw [decodeReply, refused] at read
      cases read

/-- A scan that comes to an answer with a fault ends there. -/
theorem scanned_of_fault
    (commits : List String) {index : Nat}
    (asked : index < (repository.scanRequests token answers 0 commits).length)
    (answered : answers[index]? = some (.reply received)) (success : received.isSuccess = true)
    (refused : decode CommitStatus.decoder received.body = .error fault) :
    repository.scanned token answers 0 commits = .error (.json fault) ∧
      (repository.scanRequests token answers 0 commits).length = index + 1 := by
  have here (commit : String) : repository.answerAt token answers 0 index commit =
      .reply received := by
    rw [answerAt, Nat.zero_add, scriptedAnswer_of_getElem? answered]
  rcases repository.scanned_by_first_deciding_answer token answers 0 commits with
    ⟨last, commit, there, before, decided, requests⟩ | ⟨every, -, requests⟩
  · have listed : last < commits.length := (List.getElem?_eq_some_iff.mp there).1
    have count : (repository.scanRequests token answers 0 commits).length = last + 1 := by
      rw [requests, List.length_map, List.length_take]
      omega
    rcases Nat.lt_or_ge index last with less | more
    · rcases before index less with ⟨other, -, leaves⟩
      rw [here] at leaves
      exact absurd leaves (not_leavesOpen_of_fault refused)
    · have same : last = index := by omega
      subst same
      rw [here] at decided
      exact ⟨repository.eq_of_decides_of_fault success refused decided, count⟩
  · rw [requests, List.length_map] at asked
    have leaves := every index commits[index] (List.getElem?_eq_getElem asked)
    rw [here] at leaves
    exact absurd leaves (not_leavesOpen_of_fault refused)

end HostedRepository

namespace Repository

variable (repository : Repository)

variable {commit token : Option String} {answers providerAnswers : List Http.Answer} {error : Error}

/-- A resolution that asks for the commits ends where none can be had. -/
theorem resolution_of_commitsIn_eq_error (absent : given? commit = none)
    (asked : (repository.resolution commit token answers providerAnswers).systemRequests =
      [.get repository.url, .get (repository.actionUrl "getCommit")])
    (failed : repository.commitsIn
      (scriptedAnswer answers 1 (.get (repository.actionUrl "getCommit"))) = .error error) :
    (repository.resolution commit token answers providerAnswers).result = .error error ∧
      (repository.resolution commit token answers providerAnswers).providerRequests = [] := by
  rcases remote : repository.remoteIn (scriptedAnswer answers 0 (.get repository.url)) with
    error | _ | hosted
  · simp [resolution, absent, remote] at asked
  · simp [resolution, absent, remote, repository.get_actionUrl_inj] at asked
  · simp [resolution, absent, remote, failed]

/-- A resolution that asks for the history ends where none can be had. -/
theorem resolution_of_historyIn_eq_error (absent : given? commit = none)
    (asked : (repository.resolution commit token answers providerAnswers).systemRequests =
      [.get repository.url, .get (repository.actionUrl "getHistory")])
    (failed : repository.historyIn
      (scriptedAnswer answers 1 (.get (repository.actionUrl "getHistory"))) = .error error) :
    (repository.resolution commit token answers providerAnswers).result = .error error ∧
      (repository.resolution commit token answers providerAnswers).providerRequests = [] := by
  rcases remote : repository.remoteIn (scriptedAnswer answers 0 (.get repository.url)) with
    error | _ | hosted
  · simp [resolution, absent, remote] at asked
  · simp [resolution, absent, remote, failed]
  · cases listed : repository.commitsIn
        (scriptedAnswer answers 1 (.get (repository.actionUrl "getCommit"))) <;>
      simp [resolution, absent, remote, listed, repository.get_actionUrl_inj] at asked

/-- A resolution that comes to a status with a fault ends there. -/
theorem resolution_of_status_fault {received : Http.Reply} {fault : Fault} {index : Nat}
    (absent : given? commit = none)
    (asked : index <
      (repository.resolution commit token answers providerAnswers).providerRequests.length)
    (answered : providerAnswers[index]? = some (.reply received))
    (success : received.isSuccess = true)
    (refused : decode CommitStatus.decoder received.body = .error fault) :
    let course := repository.resolution commit token answers providerAnswers
    course.result = .error (.json fault) ∧
      course.systemRequests =
        [.get repository.url, .get (repository.actionUrl "getCommit")] ∧
      course.providerRequests.length = index + 1 := by
  rcases remote : repository.remoteIn (scriptedAnswer answers 0 (.get repository.url)) with
    error | _ | hosted
  · simp [resolution, absent, remote] at asked
  · simp [resolution, absent, remote] at asked
  · cases listed : repository.commitsIn
        (scriptedAnswer answers 1 (.get (repository.actionUrl "getCommit"))) with
    | error error => simp [resolution, absent, remote, listed] at asked
    | ok commits =>
        simp only [resolution, absent, remote, listed] at asked ⊢
        rcases hosted.scanned_of_fault token (commits.map Commit.id) asked answered success refused
          with ⟨ended, count⟩
        rw [ended]
        exact ⟨rfl, trivial, count⟩

/--
An answer that breaks off never passes for a shorter one.  Every question ends with the fault of
such an answer, and so does whatever has asked it: the tests of all packages end with the list of
objects, and a resolution ends with the answer in question, be it about the descriptor, the commits,
the history or the status of a commit.  Nothing more is sent.
-/
theorem cut_off_answer_ends_with_its_fault :
    EndsAtCutOff repository.fetch .system (.get repository.url) Descriptor.replyDecoder ∧
    EndsAtCutOff repository.fetchCommits .system (.get (repository.actionUrl "getCommit"))
      Commit.replyDecoder ∧
    EndsAtCutOff repository.fetchHistory .system (.get (repository.actionUrl "getHistory"))
      HistoryReply.decoder ∧
    EndsAtCutOff repository.fetchObjects .system (.get (repository.actionUrl "getObjects"))
      RepositoryObject.replyDecoder ∧
    EndsAtCutOff repository.fetchPackages .system (.get (repository.actionUrl "getObjects"))
      RepositoryObject.replyDecoder ∧
    (∀ hosted commit token, EndsAtCutOff (HostedRepository.fetchStatus hosted commit token)
      .provider (hosted.statusRequest commit token) CommitStatus.decoder) ∧
    EndsAtCutOff repository.runAll .system (.get (repository.actionUrl "getObjects"))
      RepositoryObject.replyDecoder ∧
    ∀ commit token, commit = none ∨ commit = some "" →
      EndsAtCutOff (repository.resolve commit token) .system (.get repository.url)
        Descriptor.replyDecoder ∧
      ∀ (answers providerAnswers : List Http.Answer) (observer : Observer),
        let run := runIn (.start (.ofScript answers) (.ofScript providerAnswers) observer)
          (repository.resolve commit token)
        let describe : Http.Request := .get repository.url
        let listCommits : Http.Request := .get (repository.actionUrl "getCommit")
        let listHistory : Http.Request := .get (repository.actionUrl "getHistory")
        (∀ received, run.2.system.sent = [describe, listCommits] →
          answers[1]? = some (.reply received) → received.IsCutOff Commit.replyDecoder →
          ∃ fault, decode Commit.replyDecoder received.body = .error fault ∧
            run.1 = .error (.json fault) ∧ run.2.provider.sent = []) ∧
        (∀ received, run.2.system.sent = [describe, listHistory] →
          answers[1]? = some (.reply received) → received.IsCutOff HistoryReply.decoder →
          ∃ fault, decode HistoryReply.decoder received.body = .error fault ∧
            run.1 = .error (.json fault) ∧ run.2.provider.sent = []) ∧
        ∀ index received, index < run.2.provider.sent.length →
          providerAnswers[index]? = some (.reply received) →
          received.IsCutOff CommitStatus.decoder →
          ∃ fault, decode CommitStatus.decoder received.body = .error fault ∧
            run.1 = .error (.json fault) ∧
            run.2.system.sent = [describe, listCommits] ∧
            run.2.provider.sent.length = index + 1 := by
  have packages := repository.fetchObjects_endsAtCutOff.bind fun objects => do
    Step.log ⟨.debug, .packages, some "listed packages",
      [.shown "repository" repository.name,
        .number "packages" (packageNames objects).length]⟩
    pure (packageNames objects)
  refine ⟨repository.fetch_endsAtCutOff, repository.fetchCommits_endsAtCutOff,
    repository.fetchHistory_endsAtCutOff, repository.fetchObjects_endsAtCutOff, packages,
    fun hosted commit token => hosted.fetchStatus_endsAtCutOff token commit, packages.bind _, ?_⟩
  intro commit token absent
  have absent : given? commit = none := given?_eq_none_iff.mpr absent
  constructor
  · unfold resolve
    rw [absent]
    exact repository.fetch_endsAtCutOff.bind _
  · intro answers providerAnswers observer run describe listCommits listHistory
    -- what has been sent tells which way the resolution went, and so who has read the answer
    rcases repository.runIn_resolve commit token
      (.start (.ofScript answers) (.ofScript providerAnswers) observer) rfl rfl with
      ⟨log, events, ended⟩
    simp only [run, ended, Line.sent_scripted]
    refine ⟨?_, ?_, ?_⟩
    · intro received asked answered cut
      rcases exists_fault_of_cutOff Commit.readsWhole_replyDecoder
        (Decoder.readsContainers_record _ _) cut.cut with ⟨fault, refused⟩
      have read : repository.commitsIn (scriptedAnswer answers 1 listCommits) =
          .error (.json fault) := by
        rw [scriptedAnswer_of_getElem? answered]
        exact Http.Reply.read_of_fault cut.success refused _
      refine ⟨fault, refused, ?_⟩
      exact repository.resolution_of_commitsIn_eq_error absent asked read
    · intro received asked answered cut
      rcases exists_fault_of_cutOff HistoryReply.readsWhole_decoder
        (Decoder.readsContainers_merged _ _ _) cut.cut with ⟨fault, refused⟩
      have read : repository.historyIn (scriptedAnswer answers 1 listHistory) =
          .error (.json fault) := by
        rw [scriptedAnswer_of_getElem? answered]
        exact repository.historyIn_of_fault cut.success refused
      refine ⟨fault, refused, ?_⟩
      exact repository.resolution_of_historyIn_eq_error absent asked read
    · intro index received asked answered cut
      rcases exists_fault_of_cutOff CommitStatus.readsWhole_decoder
        (Decoder.readsContainers_record _ _) cut.cut with ⟨fault, refused⟩
      refine ⟨fault, refused, ?_⟩
      exact repository.resolution_of_status_fault absent asked answered cut.success refused

/-- A history that is cut off behind its first entry gives no commit to roll back to. -/
theorem cut_off_history_ends_resolution :
    let repository : Repository := ⟨"http://h", "100", "r"⟩
    let cut : Http.Reply := ⟨200, [], Text.Utf8.ofText "\x7b\"result\":[\x7b\"fromCommit\":\"a\"\x7d"⟩
    let answers := [Http.Answer.ofText "\x7b\"result\":\x7b\"url\":\"\"\x7d\x7d", .reply cut]
    let run := runIn (.start (.ofScript answers) (.ofScript []) .recording)
      (repository.resolve none none)
    cut.IsCutOff HistoryReply.decoder ∧
      ∃ fault, run.1 = .error (.json fault) ∧ run.2.provider.sent = [] := by
  intro repository cut answers run
  let latest : TransportEntry := { TransportEntry.blank with fromCommit := "a" }
  have broken : cut.IsCutOff HistoryReply.decoder :=
    ⟨rfl, Text.Utf8.ofText "]\x7d", ⟨[latest], .blank⟩, eq_ok_of_toOption (by decide +kernel),
      0x5D, by decide +kernel, by decide +kernel⟩
  refine ⟨broken, ?_⟩
  rcases repository.cut_off_answer_ends_with_its_fault with ⟨-, -, -, -, -, -, -, resolving⟩
  rcases (resolving none none (.inl rfl)).2 answers [] .recording with ⟨-, history, -⟩
  rcases history cut (by decide +kernel) rfl broken with ⟨fault, -, ended, silent⟩
  exact ⟨fault, ended, silent⟩

end Repository

end ChangeTransport
