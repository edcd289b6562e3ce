import ChangeTransport.Proofs.Rollback.Resolution

/-!
# What an observer sees of a resolution

A resolution that fails before it is known how the commit is looked for reports nothing.  Otherwise
it reports first how, then every status that it comes to see, in the order of the requests, and last
the commit, if one has been found.

A status of success ends the scan.  It is therefore the last one that is seen, and it is seen
exactly if a commit is found.
-/

namespace ChangeTransport

open Step

/-- The status in an answer, if the request has been carried out and the reply can be read. -/
def Http.Answer.status? : Http.Answer → Option CommitStatus
  | .failure _ => none
  | .reply received =>
    if received.isSuccess then (decodeReply CommitStatus.decoder received).toOption else none

namespace HostedRepository

variable (repository : HostedRepository) (token : Option String) (answers : List Http.Answer)

theorem toOption_statusIn (commit : String) (answer : Http.Answer) :
    (repository.statusIn commit answer).toOption = answer.status? := by
  cases answer with
  | failure reason => rfl
  | reply received =>
      cases success : received.isSuccess <;>
        simp [statusIn, Http.Answer.read, Http.Answer.accept, Http.Answer.status?,
          requireSuccess, success, Except.map, Except.toOption]

/-- Only the status seen last can be one of success. -/
theorem state_ne_success_of_mem_dropLast_seen
    {place : Nat} {commits : List String} {status : String × String}
    (earlier : status ∈ (repository.seen token answers place commits).dropLast) :
    status.2 ≠ "success" := by
  induction commits generalizing place with
  | nil => simp at earlier
  | cons commit rest induction =>
      rw [seen_cons] at earlier
      cases answered : repository.statusIn commit
          (scriptedAnswer answers place (repository.statusRequest commit token)) with
      | error error => simp [answered] at earlier
      | ok found =>
          cases success : found.isSuccess with
          | true => simp [answered, success] at earlier
          | false =>
              simp only [answered, success, Bool.false_eq_true, if_false] at earlier
              cases others : repository.seen token answers (place + 1) rest with
              | nil => simp [others] at earlier
              | cons next further =>
                  rw [others, List.dropLast_cons_cons, List.mem_cons, ← others] at earlier
                  rcases earlier with rfl | earlier
                  · simpa [CommitStatus.isSuccess] using success
                  · exact induction earlier

/-- The status seen last is one of success exactly if its commit is found. -/
theorem getLast?_seen_iff {place : Nat} {commits : List String} {commit : String} :
    (repository.seen token answers place commits).getLast? = some (commit, "success") ↔
      repository.scanned token answers place commits = .ok commit := by
  induction commits generalizing place with
  | nil => simp
  | cons first rest induction =>
      rw [seen_cons, scanned_cons]
      cases answered : repository.statusIn first
          (scriptedAnswer answers place (repository.statusRequest first token)) with
      | error error => simp
      | ok status =>
          cases success : status.isSuccess with
          | true =>
              have state : status.state = "success" := by
                simpa [CommitStatus.isSuccess] using success
              simp [success, state]
          | false =>
              have state : status.state ≠ "success" := by
                simpa [CommitStatus.isSuccess] using success
              simp only [success, Bool.false_eq_true, if_false]
              rw [← induction, List.getLast?_cons]
              cases (repository.seen token answers (place + 1) rest).getLast? <;> simp [state]

/-- What is seen is read out of the answers to the requests, each at its place. -/
theorem seen_eq_filterMap_status? (commits : List String) :
    repository.seen token answers 0 commits =
      (repository.asked token answers 0 commits).zipIdx.filterMap fun (commit, index) =>
        (scriptedAnswer answers index (repository.statusRequest commit token)).status?.map
          fun status => (commit, status.state) := by
  simp only [seen, toOption_statusIn]

end HostedRepository

namespace Repository

variable {repository : Repository} {commit token : Option String}
  {answers providerAnswers : List Http.Answer}

/-! ## The way that is chosen -/

theorem result_of_strategyIn_eq_error {error : Error}
    (failed : repository.strategyIn commit (scriptedAnswer answers 0 (.get repository.url)) =
      .error error) :
    (repository.resolution commit token answers providerAnswers).result = .error error := by
  unfold strategyIn at failed
  unfold resolution
  cases explicit : given? commit with
  | some given => simp [explicit] at failed
  | none =>
      simp only [explicit, map_eq_error_iff] at failed
      simp only [failed]

/-- The provider is asked about commits only if their status counts. -/
theorem eq_nil_of_strategyIn_ne_commitStatus {strategy : Strategy}
    (chosen : repository.strategyIn commit (scriptedAnswer answers 0 (.get repository.url)) =
      .ok strategy)
    (other : strategy ≠ .commitStatus) :
    repository.statusesSeen commit token answers providerAnswers = [] ∧
      (repository.resolution commit token answers providerAnswers).providerRequests = [] := by
  unfold strategyIn at chosen
  unfold statusesSeen resolution
  cases explicit : given? commit with
  | some given => exact ⟨rfl, rfl⟩
  | none =>
      rcases remote : repository.remoteIn (scriptedAnswer answers 0 (.get repository.url)) with
        error | _ | hosted
      · exact ⟨rfl, by simp [remote]⟩
      · exact ⟨rfl, by simp [remote]⟩
      · simp only [explicit, remote, Except.map, Option.isSome_some, if_true, Except.ok.injEq]
          at chosen
        exact absurd chosen.symm other

/-- Where the status of commits counts, no commit is given and the remote is hosted. -/
theorem exists_hosted_of_strategyIn {answer : Http.Answer}
    (chosen : repository.strategyIn commit answer = .ok .commitStatus) :
    given? commit = none ∧ ∃ hosted, repository.remoteIn answer = .ok (some hosted) := by
  unfold strategyIn at chosen
  cases explicit : given? commit with
  | some given => simp [explicit] at chosen
  | none =>
      rcases remote : repository.remoteIn answer with error | _ | hosted
      · simp [explicit, remote, Except.map] at chosen
      · simp [explicit, remote, Except.map] at chosen
      · exact ⟨rfl, hosted, rfl⟩

/-- What has been found has been found in the way that was chosen. -/
theorem strategyIn_of_result {target : RollbackTarget}
    (found : (repository.resolution commit token answers providerAnswers).result = .ok target) :
    repository.strategyIn commit (scriptedAnswer answers 0 (.get repository.url)) =
      .ok target.strategy := by
  unfold resolution at found
  unfold strategyIn
  cases explicit : given? commit with
  | some given =>
      simp only [explicit, Except.ok.injEq] at found
      rw [← found]
  | none =>
      simp only [explicit] at found ⊢
      rcases remote : repository.remoteIn (scriptedAnswer answers 0 (.get repository.url)) with
        error | _ | hosted
      · simp [remote] at found
      · rw [remote] at found
        rcases exists_of_bind_eq_ok found with ⟨history, -, latest⟩
        unfold targetOfHistory at latest
        cases source : latestSource? history with
        | none => simp [source] at latest
        | some commit =>
            simp only [source, Except.ok.injEq] at latest
            rw [← latest]
            rfl
      · rw [remote] at found
        dsimp only at found
        split at found
        · cases found
        · rcases map_eq_ok_iff.mp found with ⟨id, -, made⟩
          rw [← made]
          rfl

/-! ## The scan within a resolution -/

/--
Where the status of commits counts, what is seen and what is asked for are those of a scan, and the
result is that of the scan unless there is none.
-/
theorem exists_scan_of_strategyIn
    (chosen : repository.strategyIn commit (scriptedAnswer answers 0 (.get repository.url)) =
      .ok .commitStatus) :
    let course := repository.resolution commit token answers providerAnswers
    ∃ (hosted : HostedRepository) (ids : List String),
      repository.remoteIn (scriptedAnswer answers 0 (.get repository.url)) = .ok (some hosted) ∧
      repository.statusesSeen commit token answers providerAnswers =
        hosted.seen token providerAnswers 0 ids ∧
      course.providerRequests = hosted.scanRequests token providerAnswers 0 ids ∧
      ∀ id, course.result = .ok ⟨id, .commitStatus⟩ ↔
        hosted.scanned token providerAnswers 0 ids = .ok id := by
  intro course
  rcases exists_hosted_of_strategyIn chosen with ⟨absent, hosted, remote⟩
  cases listed : repository.commitsIn
      (scriptedAnswer answers 1 (.get (repository.actionUrl "getCommit"))) with
  | error error =>
      refine ⟨hosted, [], remote, ?_, ?_, ?_⟩ <;>
        simp [course, statusesSeen, resolution, absent, remote, listed]
  | ok commits =>
      refine ⟨hosted, commits.map Commit.id, remote, ?_, ?_, ?_⟩ <;>
        simp [course, statusesSeen, resolution, absent, remote, listed]

variable (repository commit token answers providerAnswers)

/--
A resolution that fails before it is known how the commit is looked for reports nothing.  Otherwise
the first event says how, and no other one does.  Behind it stands one event for every answer of the
provider in which a status can be read, in the order of the requests, with the commit asked about
and the state read.  The last event names the commit, exactly if one is found.  No state but the
last one is a success, and the last one is a success exactly if its commit is found.
-/
theorem resolution_reports_its_course :
    let run := runIn (.start (.ofScript answers) (.ofScript providerAnswers) .recording)
      (repository.resolve commit token)
    let described := scriptedAnswer answers 0 (.get repository.url)
    match repository.strategyIn commit described with
    | .error error => run.1 = .error error ∧ run.2.events = []
    | .ok strategy =>
        ∃ statuses : List (String × String),
          run.2.events =
            .strategySelected repository.name strategy ::
              statuses.map (fun status => .commitStatus status.1 status.2) ++
              (match run.1 with
                | .ok target => [.commitResolved repository.name target.commit strategy]
                | .error _ => []) ∧
          (∀ target, run.1 = .ok target → target.strategy = strategy) ∧
          (strategy ≠ .commitStatus → statuses = [] ∧ run.2.provider.sent = []) ∧
          (strategy = .commitStatus → ∃ (hosted : HostedRepository) (asked : List String),
            repository.remoteIn described = .ok (some hosted) ∧
            run.2.provider.sent = asked.map (fun id => hosted.statusRequest id token) ∧
            statuses = asked.zipIdx.filterMap (fun (id, index) =>
              (scriptedAnswer providerAnswers index (hosted.statusRequest id token)).status?.map
                fun status => (id, status.state)) ∧
            (∀ status ∈ statuses.dropLast, status.2 ≠ "success") ∧
            ∀ id, statuses.getLast? = some (id, "success") ↔ run.1 = .ok ⟨id, .commitStatus⟩) := by
  intro run described
  rcases repository.runIn_resolve_reporting commit token
    (.start (.ofScript answers) (.ofScript providerAnswers) .recording) rfl rfl with
    ⟨log, ended⟩
  have course : run = _ := ended
  have events : run.2.events =
      repository.resolutionEvents commit token answers providerAnswers := by
    rw [course]
    rfl
  have sent : run.2.provider.sent =
      (repository.resolution commit token answers providerAnswers).providerRequests := by
    rw [course]
    rfl
  have result : run.1 =
      (repository.resolution commit token answers providerAnswers).result := by
    rw [course]
  rw [events, result, sent, resolutionEvents]
  cases chosen : repository.strategyIn commit described with
  | error error => exact ⟨result_of_strategyIn_eq_error chosen, rfl⟩
  | ok strategy =>
      have same : ∀ target,
          (repository.resolution commit token answers providerAnswers).result = .ok target →
            target.strategy = strategy := by
        intro target found
        have known := strategyIn_of_result found
        rw [chosen] at known
        exact (Except.ok.inj known).symm
      refine ⟨repository.statusesSeen commit token answers providerAnswers, ?_, same,
        eq_nil_of_strategyIn_ne_commitStatus chosen, ?_⟩
      · cases found : (repository.resolution commit token answers providerAnswers).result with
        | error error => rfl
        | ok target => rw [← same target found]; rfl
      · rintro rfl
        rcases exists_scan_of_strategyIn chosen with ⟨hosted, ids, remote, seen, asked, ended⟩
        refine ⟨hosted, hosted.asked token providerAnswers 0 ids, remote, ?_, ?_, ?_, ?_⟩
        · rw [asked, hosted.scanRequests_eq_asked]
        · rw [seen, hosted.seen_eq_filterMap_status?]
        · intro status earlier
          rw [seen] at earlier
          exact hosted.state_ne_success_of_mem_dropLast_seen token providerAnswers earlier
        · intro id
          rw [seen, ended]
          exact hosted.getLast?_seen_iff token providerAnswers

end Repository

end ChangeTransport
