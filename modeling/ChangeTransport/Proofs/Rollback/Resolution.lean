import ChangeTransport.Rollback
import ChangeTransport.Proofs.Hosting.Scan
import ChangeTransport.Proofs.Repository.Questions

/-!
# Which commit is rolled back to

The way in which the commit is found is settled by the commit that is given and by the answer about
the descriptor.  From then on only the questions of that way are asked, and its failure is the
result.

The whole course of a resolution is told by the two scripts: the result, the requests to the system
and the requests to the provider.
-/

namespace ChangeTransport

open Step

namespace Repository

variable (repository : Repository)

/-- The hosted repository for which the remote stands that the answer about the descriptor names. -/
def remoteIn (answer : Http.Answer) : Except Error (Option HostedRepository) := do
  HostedRepository.ofRemote (← repository.descriptorIn answer).url

/-- The target that a history gives. -/
def targetOfHistory (history : List TransportEntry) : Except Error RollbackTarget :=
  match latestSource? history with
  | some commit => .ok ⟨commit, .history⟩
  | none => .error .noRollbackCommit

@[simp]
theorem targetOfHistory_nil : targetOfHistory [] = .error .noRollbackCommit := rfl

theorem targetOfHistory_cons (latest : TransportEntry) (older : List TransportEntry) :
    targetOfHistory (latest :: older) =
      if latest.fromCommit = "" then .error .noRollbackCommit
      else .ok ⟨latest.fromCommit, .history⟩ := by
  by_cases empty : latest.fromCommit = "" <;>
    simp [targetOfHistory, latestSource?, given?, Option.filter_some, empty]

/-- What a resolution comes to, and what is asked in its course. -/
structure Resolution where
  result : Except Error RollbackTarget
  systemRequests : List Http.Request
  providerRequests : List Http.Request

/-- The resolution by the scripts of the system and the provider. -/
def resolution (commit token : Option String) (answers providerAnswers : List Http.Answer) :
    Resolution :=
  let describe : Http.Request := .get repository.url
  let listCommits : Http.Request := .get (repository.actionUrl "getCommit")
  let listHistory : Http.Request := .get (repository.actionUrl "getHistory")
  match given? commit with
  | some commit => ⟨.ok ⟨commit, .explicit⟩, [], []⟩
  | none =>
    match repository.remoteIn (scriptedAnswer answers 0 describe) with
    | .error error => ⟨.error error, [describe], []⟩
    | .ok none =>
      ⟨repository.historyIn (scriptedAnswer answers 1 listHistory) >>= targetOfHistory,
        [describe, listHistory], []⟩
    | .ok (some hosted) =>
      match repository.commitsIn (scriptedAnswer answers 1 listCommits) with
      | .error error => ⟨.error error, [describe, listCommits], []⟩
      | .ok commits =>
        let ids := commits.map Commit.id
        ⟨(hosted.scanned token providerAnswers 0 ids).map (⟨·, .commitStatus⟩),
          [describe, listCommits], hosted.scanRequests token providerAnswers 0 ids⟩

/-- The event of success with which a resolution ends. -/
def endEvents : Except Error RollbackTarget → List Event
  | .ok target => [.commitResolved repository.name target.commit target.strategy]
  | .error _ => []

/-- How the commit is looked for, settled by the one given and the answer about the descriptor. -/
def strategyIn (commit : Option String) (answer : Http.Answer) : Except Error Strategy :=
  match given? commit with
  | some _ => .ok .explicit
  | none =>
    (repository.remoteIn answer).map fun hosted? =>
      if hosted?.isSome then .commitStatus else .history

/-- The commits of which a resolution comes to see the status, each with what the status says. -/
def statusesSeen (commit token : Option String) (answers providerAnswers : List Http.Answer) :
    List (String × String) :=
  match given? commit, repository.remoteIn (scriptedAnswer answers 0 (.get repository.url)) with
  | none, .ok (some hosted) =>
    match repository.commitsIn
        (scriptedAnswer answers 1 (.get (repository.actionUrl "getCommit"))) with
    | .ok commits => hosted.seen token providerAnswers 0 (commits.map Commit.id)
    | .error _ => []
  | _, _ => []

/-- The events of a resolution by the scripts of the system and the provider. -/
def resolutionEvents (commit token : Option String) (answers providerAnswers : List Http.Answer) :
    List Event :=
  match repository.strategyIn commit (scriptedAnswer answers 0 (.get repository.url)) with
  | .error _ => []
  | .ok strategy =>
    .strategySelected repository.name strategy ::
      (repository.statusesSeen commit token answers providerAnswers).map
          HostedRepository.seenEvent ++
        repository.endEvents (repository.resolution commit token answers providerAnswers).result

theorem runIn_resolved (world : World) (commit : String) (strategy : Strategy) :
    runIn world (repository.resolved commit strategy) =
      (.ok ⟨commit, strategy⟩,
        world.report (.commitResolved repository.name commit strategy)) := rfl

variable {answers providerAnswers : List Http.Answer} {sent asked : List Http.Request}

/-- The scan of the listed commits is the whole of a resolution by status. -/
theorem runIn_resolveByStatus
    (hosted : HostedRepository) (token : Option String) (world : World)
    (system : world.system = .scripted answers sent)
    (provider : world.provider = .scripted providerAnswers asked) :
    let listCommits : Http.Request := .get (repository.actionUrl "getCommit")
    let selected : Event := .strategySelected repository.name .commitStatus
    ∃ log,
      runIn world (repository.resolveByStatus hosted token) =
        match repository.commitsIn (scriptedAnswer answers sent.length listCommits) with
        | .error error =>
            (.error error,
              { world with
                system := .scripted answers (sent ++ [listCommits])
                log
                events := world.observer.keep world.events [selected] })
        | .ok commits =>
            let ids := commits.map Commit.id
            let result := (hosted.scanned token providerAnswers asked.length ids).map
              (⟨·, .commitStatus⟩)
            (result,
              { world with
                system := .scripted answers (sent ++ [listCommits])
                provider := .scripted providerAnswers
                  (asked ++ hosted.scanRequests token providerAnswers asked.length ids)
                log
                events := world.observer.keep world.events
                  (selected ::
                    (hosted.seen token providerAnswers asked.length ids).map
                        HostedRepository.seenEvent ++
                      repository.endEvents result) }) := by
  intro listCommits selected
  rcases world.exists_report_eq selected with ⟨log, reported⟩
  rcases repository.asks_fetchCommits.runIn_system
    { world with log, events := world.observer.keep world.events [selected] } system _ with
    ⟨log, ended⟩
  rw [resolveByStatus, runIn_bind, runIn_report, reported]
  dsimp only
  rw [ended]
  cases repository.commitsIn (scriptedAnswer answers sent.length listCommits) with
  | error error => exact ⟨log, rfl⟩
  | ok commits =>
      rcases hosted.runIn_findSuccessful_reporting token (commits.map Commit.id)
        { world with
          system := .scripted answers (sent ++ [listCommits])
          log
          events := world.observer.keep world.events [selected] }
        provider with ⟨log, scanned⟩
      dsimp only
      rw [runIn_bind, scanned]
      cases hosted.scanned token providerAnswers asked.length (commits.map Commit.id) with
      | error error => exact ⟨log, by simp [endEvents, Except.map]⟩
      | ok commit =>
          rcases World.exists_report_eq _
            (.commitResolved repository.name commit .commitStatus) with ⟨log, reported⟩
          refine ⟨log, ?_⟩
          dsimp only
          rw [runIn_resolved, reported]
          simp [endEvents, Except.map]

/-- The answer about the history is the whole of a resolution by history. -/
theorem runIn_resolveByHistory
    (world : World)
    (system : world.system = .scripted answers sent) :
    let listHistory : Http.Request := .get (repository.actionUrl "getHistory")
    let result := repository.historyIn (scriptedAnswer answers sent.length listHistory) >>=
      targetOfHistory
    ∃ log,
      runIn world repository.resolveByHistory =
        (result,
          { world with
            system := .scripted answers (sent ++ [listHistory])
            log
            events := world.observer.keep world.events
              (.strategySelected repository.name .history :: repository.endEvents result) }) := by
  intro listHistory result
  rcases world.exists_report_eq (.strategySelected repository.name .history) with
    ⟨log, reported⟩
  rcases repository.asks_fetchHistory.runIn_system
    { world with
      log
      events := world.observer.keep world.events
        [.strategySelected repository.name .history] } system _ with ⟨log, ended⟩
  rw [resolveByHistory, runIn_bind, runIn_report, reported]
  dsimp only
  rw [ended]
  unfold result
  cases repository.historyIn (scriptedAnswer answers sent.length listHistory) with
  | error error => exact ⟨log, rfl⟩
  | ok history =>
      simp only [bind, Except.bind, targetOfHistory]
      cases latestSource? history with
      | none => exact ⟨log, rfl⟩
      | some commit =>
          rcases World.exists_report_eq _
            (.commitResolved repository.name commit .history) with ⟨log, reported⟩
          refine ⟨log, ?_⟩
          dsimp only
          rw [runIn_resolved, reported]
          simp [endEvents, listHistory]

/-- A resolution does what the two scripts say, and reports what comes of it. -/
theorem runIn_resolve_reporting
    (commit token : Option String) (world : World)
    (system : world.system = .scripted answers [])
    (provider : world.provider = .scripted providerAnswers []) :
    let course := repository.resolution commit token answers providerAnswers
    ∃ log,
      runIn world (repository.resolve commit token) =
        (course.result,
          { world with
            system := .scripted answers course.systemRequests
            provider := .scripted providerAnswers course.providerRequests
            log
            events := world.observer.keep world.events
              (repository.resolutionEvents commit token answers providerAnswers) }) := by
  intro course
  unfold resolutionEvents statusesSeen strategyIn resolve course resolution
  cases given? commit with
  | some commit =>
      rcases world.exists_report_eq (.strategySelected repository.name .explicit) with
        ⟨log, selected⟩
      rcases World.exists_report_eq
        { world with
          log
          events := world.observer.keep world.events
            [.strategySelected repository.name .explicit] }
        (.commitResolved repository.name commit .explicit) with ⟨log, resolved⟩
      refine ⟨log, ?_⟩
      dsimp only
      rw [runIn_bind, runIn_report, selected]
      dsimp only
      rw [runIn_resolved, resolved, system, provider]
      simp [endEvents]
  | none =>
      rcases repository.asks_fetch.runIn_system world system _ with ⟨log, ended⟩
      dsimp only
      rw [ended]
      unfold remoteIn
      cases repository.descriptorIn (scriptedAnswer answers 0 (.get repository.url)) with
      | error error => exact ⟨log, by rw [provider]; simp [Except.map]⟩
      | ok descriptor =>
          dsimp only [List.nil_append]
          rw [runIn_bind, runIn_ofExcept, ok_bind]
          rcases HostedRepository.ofRemote descriptor.url with error | _ | hosted
          · exact ⟨log, by rw [provider]; simp [Except.map]⟩
          · rcases repository.runIn_resolveByHistory
              { world with system := .scripted answers [.get repository.url], log } rfl with
              ⟨log, ended⟩
            refine ⟨log, ?_⟩
            dsimp only
            rw [ended, provider]
            rfl
          · rcases repository.runIn_resolveByStatus hosted token
              { world with system := .scripted answers [.get repository.url], log }
              rfl provider with ⟨log, ended⟩
            refine ⟨log, ?_⟩
            dsimp only
            rw [ended]
            cases repository.commitsIn
                (scriptedAnswer answers 1 (.get (repository.actionUrl "getCommit"))) with
            | error error => simp [provider, Except.map, endEvents]
            | ok commits => simp [Except.map]

theorem runIn_resolve
    (commit token : Option String) (world : World)
    (system : world.system = .scripted answers [])
    (provider : world.provider = .scripted providerAnswers []) :
    let course := repository.resolution commit token answers providerAnswers
    ∃ log events,
      runIn world (repository.resolve commit token) =
        (course.result,
          { world with
            system := .scripted answers course.systemRequests
            provider := .scripted providerAnswers course.providerRequests
            log, events }) := by
  rcases repository.runIn_resolve_reporting commit token world system provider with ⟨log, ended⟩
  exact ⟨log, _, ended⟩

/--
A given commit is taken without a question.  Otherwise the descriptor is asked for, and the remote
in the answer settles the way: an error ends the resolution, a hosted repository leads to the scan
of the listed commits, and any other remote to the latest entry of the history.
-/
theorem resolve_by_first_applicable_strategy
    (commit token : Option String)
    (answers providerAnswers : List Http.Answer) (observer : Observer) :
    let run := runIn (.start (.ofScript answers) (.ofScript providerAnswers) observer)
      (repository.resolve commit token)
    let describe : Http.Request := .get repository.url
    let listCommits : Http.Request := .get (repository.actionUrl "getCommit")
    let listHistory : Http.Request := .get (repository.actionUrl "getHistory")
    (∀ given, commit = some given → given ≠ "" →
      run.1 = .ok ⟨given, .explicit⟩ ∧ run.2.system.sent = [] ∧ run.2.provider.sent = []) ∧
    ((commit = none ∨ commit = some "") →
      match repository.remoteIn (scriptedAnswer answers 0 describe) with
      | .error error =>
          run.1 = .error error ∧ run.2.system.sent = [describe] ∧ run.2.provider.sent = []
      | .ok (some hosted) =>
          run.2.system.sent = [describe, listCommits] ∧
            match repository.commitsIn (scriptedAnswer answers 1 listCommits) with
            | .error error => run.1 = .error error ∧ run.2.provider.sent = []
            | .ok commits =>
                ∀ world : World, world.provider = .ofScript providerAnswers →
                  let scan := runIn world
                    (hosted.findSuccessful token (commits.map Commit.id))
                  run.1 = scan.1.map (⟨·, .commitStatus⟩) ∧ run.2.provider = scan.2.provider
      | .ok none =>
          run.2.system.sent = [describe, listHistory] ∧ run.2.provider.sent = [] ∧
            match repository.historyIn (scriptedAnswer answers 1 listHistory) with
            | .error error => run.1 = .error error
            | .ok [] => run.1 = .error .noRollbackCommit
            | .ok (latest :: _) =>
                run.1 = if latest.fromCommit = "" then .error .noRollbackCommit
                  else .ok ⟨latest.fromCommit, .history⟩) := by
  intro run describe listCommits listHistory
  rcases repository.runIn_resolve commit token
    (.start (.ofScript answers) (.ofScript providerAnswers) observer) rfl rfl with
    ⟨log, events, ended⟩
  constructor
  · intro given equal nonempty
    have explicit : given? commit = some given := given?_eq_some_iff.mpr ⟨equal, nonempty⟩
    simp [run, ended, resolution, explicit]
  · intro absent
    have absent : given? commit = none := given?_eq_none_iff.mpr absent
    rcases remote : repository.remoteIn (scriptedAnswer answers 0 describe) with
      error | _ | hosted
    · simp [run, ended, resolution, absent, remote, describe]
    · rcases listed : repository.historyIn (scriptedAnswer answers 1 listHistory) with
        error | _ | ⟨latest, older⟩
      · simp [run, ended, resolution, absent, remote, describe, listed, listHistory]
      · simp [run, ended, resolution, absent, remote, describe, listed, listHistory]
      · simp [run, ended, resolution, absent, remote, describe, listed, listHistory,
          targetOfHistory_cons]
    · rcases listed : repository.commitsIn (scriptedAnswer answers 1 listCommits) with
        error | commits
      · simp [run, ended, resolution, absent, remote, describe, listed, listCommits]
      · simp only [run, ended, resolution, absent, remote, describe, listed, listCommits]
        refine ⟨rfl, ?_⟩
        intro world provider
        rcases hosted.runIn_findSuccessful token
          (commits.map Commit.id) world
          (provider.trans (Line.ofScript_eq_scripted providerAnswers)) with ⟨log, events, scanned⟩
        simp [scanned]

end Repository

end ChangeTransport
