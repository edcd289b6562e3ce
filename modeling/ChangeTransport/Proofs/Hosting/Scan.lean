import ChangeTransport.Hosting.Status
import ChangeTransport.Proofs.Running

/-!
# The scan for a successful commit

The provider is asked for the status of one commit after the other, in the order of the list, up to
and including the first one that decides the scan: its status is a success or cannot be had.  The
scan depends on nothing but the script of the provider.
-/

namespace ChangeTransport.HostedRepository

open Step

variable (repository : HostedRepository) (token : Option String)

/-- The status of a commit in the answer to the request for it. -/
def statusIn (commit : String) (answer : Http.Answer) : Except Error CommitStatus :=
  answer.read (repository.statusUrl commit) (decodeReply CommitStatus.decoder)

theorem url_statusRequest (commit : String) :
    (repository.statusRequest commit token).url = repository.statusUrl commit := by
  unfold statusRequest
  split <;> rfl

theorem asks_fetchStatus (commit : String) :
    Asks (repository.fetchStatus commit token) .provider
      (repository.statusRequest commit token) (repository.statusIn commit) := by
  unfold statusIn
  rw [← repository.url_statusRequest token commit]
  exact Asks.of_exchange fun reply => Silent.ofExcept _

/-- What the answers of a provider say about the status of commits. -/
def statuses (answers : List Http.Answer) (place : Nat) (commits : List String) :
    List (Except Error CommitStatus) :=
  readings answers (fun commit => repository.statusRequest commit token)
    repository.statusIn place commits

/-- Whether a scan ends at a status: it is a success or cannot be had. -/
def decides : Except Error CommitStatus → Bool
  | .ok status => status.isSuccess
  | .error _ => true

/-- How many commits stand before the first one at which a scan ends. -/
def undecided (answers : List Http.Answer) (place : Nat) (commits : List String) : Nat :=
  (repository.statuses token answers place commits).findIdx decides

/-- What a scan comes to. -/
def scanned (answers : List Http.Answer) (place : Nat) (commits : List String) :
    Except Error String :=
  let index := repository.undecided token answers place commits
  match (repository.statuses token answers place commits)[index]?, commits[index]? with
  | some (.ok _), some commit => .ok commit
  | some (.error error), _ => .error error
  | _, _ => .error (.noSuccessfulCommit repository.provider.domain)

/-- The requests of a scan. -/
def scanRequests (answers : List Http.Answer) (place : Nat) (commits : List String) :
    List Http.Request :=
  requestsUntil answers (fun commit => repository.statusRequest commit token)
    repository.statusIn place decides commits

variable (answers : List Http.Answer) (place : Nat)

@[simp]
theorem statuses_nil : repository.statuses token answers place [] = [] := rfl

@[simp]
theorem statuses_cons (commit : String) (rest : List String) :
    repository.statuses token answers place (commit :: rest) =
      repository.statusIn commit
          (scriptedAnswer answers place (repository.statusRequest commit token)) ::
        repository.statuses token answers (place + 1) rest := by
  simp [statuses]

/-- A scan of no commits finds none. -/
@[simp]
theorem scanned_nil :
    repository.scanned token answers place [] =
      .error (.noSuccessfulCommit repository.provider.domain) := by
  simp [scanned]

@[simp]
theorem scanRequests_nil : repository.scanRequests token answers place [] = [] := by
  simp [scanRequests]

/-- A scan ends at its first commit, or goes on with the others. -/
theorem scanned_cons (commit : String) (rest : List String) :
    repository.scanned token answers place (commit :: rest) =
      match repository.statusIn commit
          (scriptedAnswer answers place (repository.statusRequest commit token)) with
      | .error error => .error error
      | .ok status =>
          if status.isSuccess then .ok commit
          else repository.scanned token answers (place + 1) rest := by
  unfold scanned undecided
  rw [statuses_cons, List.findIdx_cons]
  cases repository.statusIn commit
      (scriptedAnswer answers place (repository.statusRequest commit token)) with
  | error error => simp [decides]
  | ok status =>
      cases success : status.isSuccess <;> simp [decides, success]

theorem scanRequests_cons (commit : String) (rest : List String) :
    repository.scanRequests token answers place (commit :: rest) =
      repository.statusRequest commit token ::
        if decides (repository.statusIn commit
            (scriptedAnswer answers place (repository.statusRequest commit token))) then []
        else repository.scanRequests token answers (place + 1) rest :=
  requestsUntil_cons ..

/--
A scan finds a commit exactly if the provider says of it that its checks have succeeded, and says
of every commit before it that they have not.
-/
theorem scanned_eq_ok_iff {commits : List String} {commit : String} :
    repository.scanned token answers place commits = .ok commit ↔
      ∃ index : Nat, commits[index]? = some commit ∧
        (∃ status : CommitStatus,
          (repository.statuses token answers place commits)[index]? = some (Except.ok status) ∧
            status.isSuccess = true) ∧
        ∀ earlier < index, ∃ status : CommitStatus,
          (repository.statuses token answers place commits)[earlier]? =
              some (Except.ok status) ∧
            status.isSuccess = false := by
  induction commits generalizing place with
  | nil => simp
  | cons first rest induction =>
      rw [scanned_cons, statuses_cons]
      constructor
      · intro found
        cases answered : repository.statusIn first
            (scriptedAnswer answers place (repository.statusRequest first token)) with
        | error error => simp [answered] at found
        | ok status =>
            simp only [answered] at found
            cases success : status.isSuccess with
            | true =>
                rw [success, if_pos rfl] at found
                cases found
                exact ⟨0, rfl, ⟨status, rfl, success⟩, by simp⟩
            | false =>
                rw [success, if_neg Bool.false_ne_true] at found
                rcases (induction (place + 1)).mp found with ⟨index, here, known, before⟩
                refine ⟨index + 1, here, known, ?_⟩
                rintro (_ | earlier) less
                · exact ⟨status, rfl, success⟩
                · exact before earlier (Nat.lt_of_succ_lt_succ less)
      · rintro ⟨_ | index, here, ⟨status, known, success⟩, before⟩
        · simp only [List.getElem?_cons_zero, Option.some.injEq] at here known
          subst commit
          simp [known, success]
        · rcases before 0 (Nat.succ_pos index) with ⟨passed, answered, failure⟩
          simp only [List.getElem?_cons_zero, Option.some.injEq] at answered
          simp only [answered, failure, Bool.false_eq_true, if_false]
          refine (induction (place + 1)).mpr ⟨index, here, ⟨status, known, success⟩, ?_⟩
          intro earlier less
          exact before (earlier + 1) (Nat.succ_lt_succ less)

/-- The commits about which a scan asks. -/
def asked (answers : List Http.Answer) (place : Nat) (commits : List String) : List String :=
  commits.take (repository.undecided token answers place commits + 1)

/-- The commits of which a scan comes to see the status, each with what the status says. -/
def seen (answers : List Http.Answer) (place : Nat) (commits : List String) :
    List (String × String) :=
  ((repository.asked token answers place commits).zipIdx place).filterMap fun (commit, index) =>
    (repository.statusIn commit
      (scriptedAnswer answers index (repository.statusRequest commit token))).toOption.map
        fun status => (commit, status.state)

theorem scanRequests_eq_asked (commits : List String) :
    repository.scanRequests token answers place commits =
      (repository.asked token answers place commits).map fun commit =>
        repository.statusRequest commit token := rfl

@[simp]
theorem seen_nil : repository.seen token answers place [] = [] := by
  simp [seen, asked]

theorem asked_cons (commit : String) (rest : List String) :
    repository.asked token answers place (commit :: rest) =
      commit ::
        if decides (repository.statusIn commit
            (scriptedAnswer answers place (repository.statusRequest commit token))) then []
        else repository.asked token answers (place + 1) rest := by
  unfold asked undecided
  rw [statuses_cons, List.findIdx_cons]
  cases decides (repository.statusIn commit
    (scriptedAnswer answers place (repository.statusRequest commit token))) <;> simp

/-- What is seen first is the status of the first commit, if it can be had. -/
theorem seen_cons (commit : String) (rest : List String) :
    repository.seen token answers place (commit :: rest) =
      match repository.statusIn commit
          (scriptedAnswer answers place (repository.statusRequest commit token)) with
      | .error _ => []
      | .ok status =>
          (commit, status.state) ::
            if status.isSuccess then [] else repository.seen token answers (place + 1) rest := by
  rw [seen, asked_cons, List.zipIdx_cons, List.filterMap_cons]
  cases answered : repository.statusIn commit
      (scriptedAnswer answers place (repository.statusRequest commit token)) with
  | error error => simp [answered, decides, Except.toOption]
  | ok status =>
      cases success : status.isSuccess <;>
        simp [answered, decides, success, Except.toOption, seen]

/-- The event about a status that has been seen. -/
def seenEvent (status : String × String) : Event := .commitStatus status.1 status.2

/--
A scan does what the script of the provider says, whatever else the world holds, and reports every
status that it comes to see.
-/
theorem runIn_findSuccessful_reporting
    (commits : List String) (world : World)
    {answers : List Http.Answer} {sent : List Http.Request}
    (scripted : world.provider = .scripted answers sent) :
    ∃ log,
      runIn world (repository.findSuccessful token commits) =
        (repository.scanned token answers sent.length commits,
          { world with
            provider := .scripted answers
              (sent ++ repository.scanRequests token answers sent.length commits)
            log
            events := world.observer.keep world.events
              ((repository.seen token answers sent.length commits).map seenEvent) }) := by
  induction commits generalizing world sent with
  | nil =>
      refine ⟨world.log, ?_⟩
      simp [findSuccessful, ← scripted]
  | cons commit rest induction =>
      rw [scanned_cons, scanRequests_cons, seen_cons, findSuccessful]
      rcases (repository.asks_fetchStatus token commit).runIn_provider world scripted _ with
        ⟨log, ended⟩
      rw [ended]
      cases repository.statusIn commit
          (scriptedAnswer answers sent.length (repository.statusRequest commit token)) with
      | error error => exact ⟨log, by simp [decides]⟩
      | ok status =>
          simp only [runIn_bind, runIn_report]
          rcases World.exists_report_eq
            { world with
              provider := .scripted answers (sent ++ [repository.statusRequest commit token]), log }
            (.commitStatus commit status.state) with ⟨log, reported⟩
          rw [reported]
          cases success : status.isSuccess with
          | true => exact ⟨log, by simp [decides, success, seenEvent]⟩
          | false =>
              simp only [Bool.false_eq_true, if_false, runIn_bind, runIn_log]
              generalize skipped : World.logAll _ _ = world'
              have continued : world'.provider = .scripted answers
                  (sent ++ [repository.statusRequest commit token]) := by
                rw [← skipped]
                rfl
              rcases induction _ continued with ⟨log, rested⟩
              refine ⟨log, ?_⟩
              rw [rested, ← skipped]
              simp [decides, success, seenEvent, World.logAll]

theorem runIn_findSuccessful
    (commits : List String) (world : World)
    {answers : List Http.Answer} {sent : List Http.Request}
    (scripted : world.provider = .scripted answers sent) :
    ∃ log events,
      runIn world (repository.findSuccessful token commits) =
        (repository.scanned token answers sent.length commits,
          { world with
            provider := .scripted answers
              (sent ++ repository.scanRequests token answers sent.length commits)
            log, events }) := by
  rcases repository.runIn_findSuccessful_reporting token commits world scripted with ⟨log, ended⟩
  exact ⟨log, _, ended⟩

end ChangeTransport.HostedRepository
