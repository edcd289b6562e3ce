import ChangeTransport.Proofs.UnitTest.Course

/-!
# What an observer sees of a test run

The events of a test run fall into blocks, one for every package whose tests have been asked for,
in the order of the requests.  Only the last block can report a failure or lack its result, and how
it looks tells how the run has ended.
-/

namespace ChangeTransport.Repository

open Step

variable (repository : Repository)

/-- The block of a package lacks its outcomes exactly if no result can be had. -/
theorem isComplete_block_eq_false_iff (package : String) (answer : Http.Answer) :
    (Trial.block ⟨package, repository.runResultIn answer⟩).isComplete = false ↔
      (∃ reason, answer = .failure reason) ∨
        ∃ reply, answer = .reply reply ∧
          (reply.isSuccess = false ∨
            ∃ error, decodeDocument RunResult.decoder RunResult.root reply = .error error) := by
  have unread : (∃ error, repository.runResultIn answer = .error error) ↔ _ :=
    Http.Answer.exists_read_eq_error_iff
  rw [← unread]
  unfold Trial.block Block.isComplete
  cases repository.runResultIn answer <;> simp [Except.toOption]

/-- The outcomes in the block of a package are those of the result. -/
theorem outcomes_block_of_reply
    (package : String) {reply : Http.Reply} {result : RunResult}
    (success : reply.isSuccess = true)
    (decoded : decodeDocument RunResult.decoder RunResult.root reply = .ok result) :
    (Trial.block ⟨package, repository.runResultIn (.reply reply)⟩).outcomes =
      some result.outcomes := by
  have read : repository.runResultIn (.reply reply) = .ok result := by
    rw [runResultIn, Http.Answer.read_of_success success, decoded]
  rw [Trial.block, read]
  rfl

/-- A trial that is made is told by the answer at its place. -/
theorem trial_of_getElem?_made
    {token : Token} {answers : List Http.Answer} {place index : Nat}
    {packages : List String} {trial : Trial}
    (here : (Trial.made (repository.trials token answers place packages))[index]? = some trial) :
    trial.result = repository.runResultIn
      (scriptedAnswer answers (place + index) (repository.testRequest token trial.package)) := by
  have listed : (repository.trials token answers place packages)[index]? = some trial := by
    rcases Trial.made_prefix (repository.trials token answers place packages) with ⟨rest, whole⟩
    rw [← whole, List.getElem?_append_left (List.getElem?_eq_some_iff.mp here).1, here]
  rw [trials, readings_getElem?, Option.map_eq_some_iff] at listed
  rcases listed with ⟨package, -, rfl⟩
  rfl

/-- Tests have failed exactly if the last block is complete with failures. -/
theorem unitTestsFailed_iff_last_block
    {token : Token} {answers : List Http.Answer} {place : Nat} {packages : List String}
    {package : String} {failed : Nat} :
    let trials := repository.trials token answers place packages
    trials.mapM Trial.verdict = .error (.unitTestsFailed package failed) ↔
      ∃ block, ((Trial.made trials).map Trial.block).getLast? = some block ∧
        block.package = package ∧ block.isComplete = true ∧ block.failures = failed ∧
        0 < failed := by
  intro trials
  have unread : ∀ trial, (Trial.made trials).getLast? = some trial →
      trial.result ≠ .error (.unitTestsFailed package failed) := by
    intro trial last
    have listed : trial ∈ trials :=
      (Trial.made_prefix trials).subset (List.mem_of_getLast? last)
    rcases List.getElem?_of_mem listed with ⟨index, here⟩
    exact repository.result_ne_unitTestsFailed token answers place packages here package failed
  rw [Trial.mapM_verdict_eq_error_iff_getLast?, List.getLast?_map]
  constructor
  · rintro ⟨trial, last, ended⟩
    refine ⟨trial.block, by rw [last]; rfl, ?_⟩
    exact (Trial.verdict_eq_unitTestsFailed_iff (unread trial last)).mp ended
  · rintro ⟨block, last, told⟩
    rcases Option.map_eq_some_iff.mp last with ⟨trial, here, rfl⟩
    exact ⟨trial, here, (Trial.verdict_eq_unitTestsFailed_iff (unread trial here)).mpr told⟩

/--
A run comes to what the trials of some packages come to, and reports these trials.  There are none
where the packages or the token cannot be had.
-/
theorem exists_trials_of_runAll (answers providerAnswers : List Http.Answer) :
    let run := runIn (.start (.ofScript answers) (.ofScript providerAnswers) .recording)
      repository.runAll
    ∃ (token : Token) (packages : List String) (questions : List Http.Request),
      let trials := repository.trials token answers 2 packages
      run.2.events = Trial.reported trials ∧
      run.2.system.sent = questions ++ repository.trialRequests token answers 2 packages ∧
      (∀ question ∈ questions, question.method = .get) ∧
      (packages ≠ [] → questions.length = 2) ∧
      (∀ package failed, run.1 = .error (.unitTestsFailed package failed) ↔
        trials.mapM Trial.verdict = .error (.unitTestsFailed package failed)) ∧
      (∀ summary, run.1 = .ok summary → trials.mapM Trial.verdict = .ok summary.packages) := by
  intro run
  rcases repository.runIn_runAll_reporting
    (.start (.ofScript answers) (.ofScript providerAnswers) .recording)
    (Line.ofScript_eq_scripted answers) with ⟨log, entries, ended⟩
  have course : run = _ := ended
  have listing : (Http.Request.get (repository.actionUrl "getObjects")).method = .get := rfl
  have discovery : repository.tokenRequest.method = .get := rfl
  cases listed : repository.objectsIn
      (scriptedAnswer answers 0 (.get (repository.actionUrl "getObjects"))) with
  | error error =>
      simp only [listed] at course
      rw [course]
      refine ⟨⟨""⟩, [], [_], rfl, rfl, by simp [listing], by simp, ?_, by simp⟩
      intro package failed
      constructor
      · intro impossible
        cases impossible
        exact absurd listed (repository.objectsIn_ne_unitTestsFailed package failed _)
      · intro impossible
        cases impossible
  | ok objects =>
      cases given : repository.tokenIn (scriptedAnswer answers 1 repository.tokenRequest) with
      | error error =>
          simp only [listed, given] at course
          rw [course]
          refine ⟨⟨""⟩, [], [_, _], rfl, rfl, by simp [listing, discovery], by simp, ?_, by simp⟩
          intro package failed
          constructor
          · intro impossible
            cases impossible
            exact absurd given (repository.tokenIn_ne_unitTestsFailed package failed _)
          · intro impossible
            cases impossible
      | ok token =>
          simp only [listed, given] at course
          rw [World.reportAll_recording _ rfl] at course
          rw [course]
          refine ⟨token, packageNames objects, [_, _], rfl, rfl, by simp [listing, discovery],
            fun _ => rfl, ?_, ?_⟩
          · intro package failed
            exact map_eq_error_iff
          · intro summary ended
            rcases map_eq_ok_iff.mp ended with ⟨verdicts, passed, rfl⟩
            exact passed

/--
The observer sees one block for every request for tests, in the order of these requests.  A block
lacks its result exactly if the answer to its request gives none; otherwise it reports every method
of the result, in the order of the document, and then the package with the number of those that
have not passed.  All blocks but the last are complete and without failures.  The run has failed by
its tests exactly if the last block is complete with failures, and the methods of a summary are as
many as have been reported.
-/
theorem runAll_reports_one_block_per_package
    (answers providerAnswers : List Http.Answer) :
    let run := runIn (.start (.ofScript answers) (.ofScript providerAnswers) .recording)
      repository.runAll
    let posts := run.2.system.sent.filter fun request => request.method == .post
    ∃ blocks : List Block,
      run.2.events = blocks.flatMap Block.events ∧
      posts.length = blocks.length ∧
      (∀ (index : Nat) (post : Http.Request) (block : Block),
        posts[index]? = some post → blocks[index]? = some block →
          run.2.system.sent[index + 2]? = some post ∧
          post.url = repository.toolUrl "abapunit/testruns" ∧
          post.body = some (Text.Utf8.ofText (runConfiguration block.package)) ∧
          let answer := scriptedAnswer answers (index + 2) post
          (block.isComplete = false ↔
            (∃ reason, answer = .failure reason) ∨
              ∃ reply, answer = .reply reply ∧
                (reply.isSuccess = false ∨
                  ∃ error,
                    decodeDocument RunResult.decoder RunResult.root reply = .error error)) ∧
          ∀ reply result, answer = .reply reply → reply.isSuccess = true →
            decodeDocument RunResult.decoder RunResult.root reply = .ok result →
            block.outcomes = some
              (result.programs.flatMap fun program =>
                program.classes.flatMap fun testClass =>
                  testClass.methods.map fun method =>
                    { program := program.name
                      testClass := testClass.name
                      method := method.name
                      alerts := method.alerts.map TestAlert.title })) ∧
      (∀ block ∈ blocks, ∀ verdict, .packageFinished verdict ∈ block.events →
        verdict.package = block.package ∧ verdict.failedMethods = block.failures ∧
          verdict.passed = decide (block.failures = 0)) ∧
      (∀ block ∈ blocks.dropLast, block.isComplete = true ∧ block.failures = 0) ∧
      (∀ package failed, run.1 = .error (.unitTestsFailed package failed) ↔
        ∃ block, blocks.getLast? = some block ∧ block.package = package ∧
          block.isComplete = true ∧ block.failures = failed ∧ 0 < failed) ∧
      (∀ summary, run.1 = .ok summary →
        run.2.events.countP Event.isOfMethod = summary.totalMethods) := by
  intro run posts
  rcases repository.exists_trials_of_runAll answers providerAnswers with
    ⟨token, packages, questions, reported, sent, gets, two, failed, passed⟩
  have asked : posts = (Trial.made (repository.trials token answers 2 packages)).map
      fun trial => repository.testRequest token trial.package := by
    unfold posts run
    rw [sent, Http.filter_post_append gets
      (repository.method_of_mem_trialRequests token answers 2 packages)]
    exact repository.trialRequests_eq_made token answers 2 packages
  refine ⟨(Trial.made (repository.trials token answers 2 packages)).map Trial.block, reported,
    by rw [asked, List.length_map, List.length_map], ?_, ?_, ?_, ?_, ?_⟩
  · intro index post block asking telling
    rw [asked, List.getElem?_map] at asking
    rcases Option.map_eq_some_iff.mp asking with ⟨trial, here, rfl⟩
    rw [List.getElem?_map, here] at telling
    cases telling
    have told := repository.trial_of_getElem?_made here
    rw [Nat.add_comm 2 index] at told
    refine ⟨?_, rfl, rfl, ?_, ?_⟩
    -- the two questions stand in front of the requests for tests
    · have some : packages ≠ [] := by
        rintro rfl
        cases here
      unfold run
      rw [sent, List.getElem?_append_right (by rw [two some]; exact Nat.le_add_left 2 index),
        two some, Nat.add_sub_cancel, trialRequests_eq_made, List.getElem?_map, here]
      rfl
    · have lacking := repository.isComplete_block_eq_false_iff trial.package
        (scriptedAnswer answers (index + 2) (repository.testRequest token trial.package))
      rw [← told] at lacking
      exact lacking
    · intro reply result answered success decoded
      have outcomes := repository.outcomes_block_of_reply trial.package success decoded
      rw [← answered, ← told] at outcomes
      exact outcomes
  · intro block _ verdict finished
    exact Block.finished_of_mem finished
  · intro block among
    rw [← List.map_dropLast] at among
    rcases List.mem_map.mp among with ⟨trial, earlier, rfl⟩
    exact Trial.passed_iff_block.mp (Trial.passed_of_mem_dropLast_made trial earlier)
  · intro package failures
    exact (failed package failures).trans repository.unitTestsFailed_iff_last_block
  · intro summary ended
    unfold run
    rw [reported]
    exact Trial.countP_isOfMethod_reported (passed summary ended)

end ChangeTransport.Repository
