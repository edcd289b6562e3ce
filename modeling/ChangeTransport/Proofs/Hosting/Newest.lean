import ChangeTransport.Proofs.Hosting.Scan

/-!
# The newest successful commit

The answer about a commit either leaves the question to the next commit, or decides the scan.  The
provider is therefore asked about the listed commits in their order, up to and including the first
one whose answer decides, and about all of them if there is none.  What the deciding answer says is
the result.
-/

namespace ChangeTransport.HostedRepository

open Step

variable (repository : HostedRepository) (token : Option String)

/-- An answer that leaves the question open: the status can be read and is no success. -/
def LeavesOpen (answer : Http.Answer) : Prop :=
  ∃ received status, answer = .reply received ∧ received.isSuccess = true ∧
    decodeReply CommitStatus.decoder received = .ok status ∧ status.state ≠ "success"

/-- What an answer about a commit decides. -/
inductive Decides (commit : String) : Http.Answer → Except Error String → Prop where
  | failure (reason : String) :
      Decides commit (.failure reason) (.error (.transport reason))
  | refusal (received : Http.Reply) (refused : received.isSuccess = false) :
      Decides commit (.reply received)
        (.error (.http received.status (repository.statusUrl commit)))
  | unreadable (received : Http.Reply) (fault : Json.Fault)
      (success : received.isSuccess = true)
      (read : Json.decode CommitStatus.decoder received.body = .error fault) :
      Decides commit (.reply received) (.error (.json fault))
  | successful (received : Http.Reply) (status : CommitStatus)
      (success : received.isSuccess = true)
      (read : decodeReply CommitStatus.decoder received = .ok status)
      (state : status.state = "success") :
      Decides commit (.reply received) (.ok commit)

/-- A request for a status says what is accepted, and carries the token if there is one. -/
theorem statusRequest_eq (commit : String) :
    repository.statusRequest commit token =
      { Http.Request.get (repository.statusUrl commit) with
        headers := ("Accept", "application/vnd.github+json") ::
          ((given? token).map fun given => ("Authorization", "token " ++ given)).toList } := by
  unfold statusRequest
  cases given? token <;> rfl

variable {repository}

/-- An answer that leaves the question open is read as a status that is no success. -/
theorem leavesOpen_iff {commit : String} {answer : Http.Answer} :
    LeavesOpen answer ↔
      ∃ status, repository.statusIn commit answer = .ok status ∧ status.isSuccess = false := by
  constructor
  · rintro ⟨received, status, rfl, success, read, other⟩
    refine ⟨status, Http.Answer.read_eq_ok_iff.mpr ⟨received, rfl, success, read⟩, ?_⟩
    simpa [CommitStatus.isSuccess] using other
  · rintro ⟨status, read, other⟩
    rcases Http.Answer.read_eq_ok_iff.mp read with ⟨received, rfl, success, decoded⟩
    exact ⟨received, status, rfl, success, decoded, by simpa [CommitStatus.isSuccess] using other⟩

/-- An answer that is read as a success decides for its commit. -/
theorem decides_of_statusIn_eq_ok {commit : String} {answer : Http.Answer} {status : CommitStatus}
    (read : repository.statusIn commit answer = .ok status) (success : status.isSuccess = true) :
    repository.Decides commit answer (.ok commit) := by
  rcases Http.Answer.read_eq_ok_iff.mp read with ⟨received, rfl, accepted, decoded⟩
  exact .successful received status accepted decoded
    (by simpa [CommitStatus.isSuccess] using success)

/-- An answer that cannot be read decides for the error. -/
theorem decides_of_statusIn_eq_error {commit : String} {answer : Http.Answer} {error : Error}
    (read : repository.statusIn commit answer = .error error) :
    repository.Decides commit answer (.error error) := by
  cases answer with
  | failure reason =>
      cases read
      exact .failure reason
  | reply received =>
      cases accepted : received.isSuccess with
      | false =>
          have refusal : repository.statusIn commit (.reply received) =
              .error (.http received.status (repository.statusUrl commit)) := by
            simp [statusIn, Http.Answer.read, Http.Answer.accept, requireSuccess, accepted,
              Except.map]
          rw [refusal] at read
          cases read
          exact .refusal received accepted
      | true =>
          rw [statusIn, Http.Answer.read_of_success accepted, decodeReply] at read
          cases decoded : Json.decode CommitStatus.decoder received.body with
          | ok status =>
              rw [decoded] at read
              cases read
          | error fault =>
              rw [decoded] at read
              cases read
              exact .unreadable received fault accepted decoded

variable (repository) (answers : List Http.Answer)

/-- The answer about the commit at an index, where the scan takes its first answer at a place. -/
def answerAt (place index : Nat) (commit : String) : Http.Answer :=
  scriptedAnswer answers (place + index) (repository.statusRequest commit token)

theorem answerAt_succ (place index : Nat) (commit : String) :
    repository.answerAt token answers (place + 1) index commit =
      repository.answerAt token answers place (index + 1) commit := by
  rw [answerAt, answerAt, Nat.add_assoc, Nat.add_comm 1]

/--
A scan that takes its first answer at the given place ends with the first answer that decides, or
asks about all commits when every answer leaves the question open.
-/
theorem scanned_by_first_deciding_answer (place : Nat) (commits : List String) :
    (∃ index commit, commits[index]? = some commit ∧
        (∀ earlier < index, ∃ other, commits[earlier]? = some other ∧
          LeavesOpen (repository.answerAt token answers place earlier other)) ∧
        repository.Decides commit (repository.answerAt token answers place index commit)
          (repository.scanned token answers place commits) ∧
        repository.scanRequests token answers place commits =
          (commits.take (index + 1)).map fun commit => repository.statusRequest commit token) ∨
      ((∀ index commit, commits[index]? = some commit →
          LeavesOpen (repository.answerAt token answers place index commit)) ∧
        repository.scanned token answers place commits =
          .error (.noSuccessfulCommit repository.provider.domain) ∧
        repository.scanRequests token answers place commits =
          commits.map fun commit => repository.statusRequest commit token) := by
  induction commits generalizing place with
  | nil => exact .inr (by simp)
  | cons first rest induction =>
      have first_answer : scriptedAnswer answers place (repository.statusRequest first token) =
          repository.answerAt token answers place 0 first := rfl
      rw [scanned_cons, scanRequests_cons, first_answer]
      cases answered : repository.statusIn first
          (repository.answerAt token answers place 0 first) with
      | error error =>
          exact .inl ⟨0, first, rfl, by simp, decides_of_statusIn_eq_error answered,
            by simp [decides]⟩
      | ok status =>
          cases success : status.isSuccess with
          | true =>
              exact .inl ⟨0, first, rfl, by simp,
                by simpa [success] using decides_of_statusIn_eq_ok answered success,
                by simp [decides, success]⟩
          | false =>
              have opened : LeavesOpen (repository.answerAt token answers place 0 first) :=
                leavesOpen_iff.mpr ⟨status, answered, success⟩
              simp only [decides, success, Bool.false_eq_true, if_false]
              -- the rest is scanned from the next place on: its indices are one less than here
              rcases induction (place + 1) with
                ⟨index, commit, here, before, decided, asked⟩ | ⟨every, none, asked⟩
              · refine .inl ⟨index + 1, commit, here, ?_, ?_, by rw [asked]; rfl⟩
                · rintro (_ | earlier) less
                  · exact ⟨first, rfl, opened⟩
                  · rcases before earlier (Nat.lt_of_succ_lt_succ less) with ⟨other, there, leaves⟩
                    exact ⟨other, there, by rwa [answerAt_succ] at leaves⟩
                · rwa [answerAt_succ] at decided
              · refine .inr ⟨?_, none, by rw [asked]; rfl⟩
                rintro (_ | index) commit there
                · cases there
                  exact opened
                · have leaves := every index commit there
                  rwa [answerAt_succ] at leaves

/--
A scan asks for the status of the listed commits in their order, with a token exactly if there is
one, up to and including the first commit whose answer decides.  The result is what that answer
decides; if there is no such commit, all are asked about and none is found.
-/
theorem findSuccessful_asks_until_decided
    (commits : List Commit) (system : Line) (observer : Observer) :
    let run := runIn (.start system (.ofScript answers) observer)
      (repository.findSuccessful token (commits.map Commit.id))
    let request (commit : Commit) := repository.statusRequest commit.id token
    let answerTo (index : Nat) (commit : Commit) := scriptedAnswer answers index (request commit)
    (∀ commit,
      (request commit).method = .get ∧ (request commit).body = none ∧
      (request commit).url = repository.statusUrl commit.id ∧
      (∀ given, token = some given → given ≠ "" →
        (request commit).headers = [("Accept", "application/vnd.github+json"),
          ("Authorization", "token " ++ given)]) ∧
      ((token = none ∨ token = some "") →
        (request commit).headers = [("Accept", "application/vnd.github+json")])) ∧
    run.2.system = system ∧
    ((∃ index commit, commits[index]? = some commit ∧
        (∀ earlier < index, ∃ other, commits[earlier]? = some other ∧
          LeavesOpen (answerTo earlier other)) ∧
        repository.Decides commit.id (answerTo index commit) run.1 ∧
        run.2.provider.sent = (commits.take (index + 1)).map request) ∨
      ((∀ index commit, commits[index]? = some commit → LeavesOpen (answerTo index commit)) ∧
        run.1 = .error (.noSuccessfulCommit repository.provider.domain) ∧
        run.2.provider.sent = commits.map request)) := by
  intro run request answerTo
  rcases repository.runIn_findSuccessful token (commits.map Commit.id)
    (.start system (.ofScript answers) observer) (Line.ofScript_eq_scripted answers) with
    ⟨log, events, ended⟩
  refine ⟨?_, by simp only [run, ended]; rfl, ?_⟩
  · intro commit
    simp only [request, statusRequest_eq]
    refine ⟨rfl, rfl, rfl, ?_, ?_⟩
    · intro given equal nonempty
      rw [given?_eq_some_iff.mpr ⟨equal, nonempty⟩]
      rfl
    · intro absent
      rw [given?_eq_none_iff.mpr absent]
      rfl
  · simp only [run, ended, Line.sent_scripted, List.nil_append, List.length_nil]
    rcases repository.scanned_by_first_deciding_answer token answers 0 (commits.map Commit.id) with
      ⟨index, id, here, before, decided, asked⟩ | ⟨every, none, asked⟩
    · rw [List.getElem?_map, Option.map_eq_some_iff] at here
      rcases here with ⟨commit, here, rfl⟩
      refine .inl ⟨index, commit, here, ?_, ?_, ?_⟩
      · intro earlier less
        rcases before earlier less with ⟨id, there, leaves⟩
        rw [List.getElem?_map, Option.map_eq_some_iff] at there
        rcases there with ⟨other, there, rfl⟩
        exact ⟨other, there, by simpa [answerAt] using leaves⟩
      · simpa [answerAt] using decided
      · rw [asked, ← List.map_take, List.map_map]
        rfl
    · refine .inr ⟨?_, none, by rw [asked, List.map_map]; rfl⟩
      intro index commit there
      have leaves := every index commit.id (by rw [List.getElem?_map, there]; rfl)
      simpa [answerAt] using leaves

end ChangeTransport.HostedRepository
