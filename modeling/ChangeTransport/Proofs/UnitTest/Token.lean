import ChangeTransport.Proofs.Http.Header
import ChangeTransport.Proofs.Text.Blank
import ChangeTransport.Proofs.UnitTest.Course

/-!
# Where tokens come from

A token is offered by the headers of a reply.  Every request for tests carries a token, and it is
the one that has been offered by the reply to the request for a token.
-/

namespace ChangeTransport

open Step

namespace Token

/--
Headers offer a token by the first of them that has the name of the header for tokens: by its value
without the blanks at the two ends, if this is a text that is not the wish for a token.
-/
structure IsOffered (headers : List Http.Header) (token : Token) : Prop where
  first : ∃ before name value after, headers = before ++ (name, value) :: after ∧
    name.toLower = "x-csrf-token" ∧ (∀ header ∈ before, header.1.toLower ≠ "x-csrf-token") ∧
    Text.IsTrimmed value token.text
  filled : token.text ≠ ""
  granted : token.text.toLower ≠ "fetch"

theorem toLower_header : header.toLower = "x-csrf-token" := Text.toLower_eq_iff.mpr (by decide)

theorem toLower_wish : wish.toLower = "fetch" := Text.toLower_eq_iff.mpr (by decide)

theorem ofValue?_eq_some_iff {value : String} {token : Token} :
    ofValue? value = some token ↔
      Text.IsTrimmed value token.text ∧ token.text ≠ "" ∧ token.text.toLower ≠ "fetch" := by
  rw [← Text.trimBlanks_eq_iff]
  unfold ofValue?
  constructor
  · intro taken
    dsimp only at taken
    split at taken
    · cases taken
    · next usable =>
        cases taken
        rw [Bool.or_eq_true, not_or, Text.sameIgnoringCase_iff, toLower_wish] at usable
        exact ⟨rfl, by simpa using usable.1, usable.2⟩
  · rcases token with ⟨text⟩
    rintro ⟨rfl, filled, granted⟩
    have unlike : Text.sameIgnoringCase (Text.trimBlanks value) wish = false := by
      rw [← Bool.not_eq_true, Text.sameIgnoringCase_iff, toLower_wish]
      exact granted
    simp [unlike, filled]

/-- A reply gives the token that its headers offer. -/
theorem ofReply?_eq_some_iff {reply : Http.Reply} {token : Token} :
    ofReply? reply = some token ↔ IsOffered reply.headers token := by
  unfold ofReply? Http.Reply.header?
  simp only [Option.bind_eq_some_iff, Http.headerValue?_eq_some_iff, ofValue?_eq_some_iff,
    toLower_header]
  constructor
  · rintro ⟨value, ⟨before, name, after, split, named, others⟩, trimmed, filled, granted⟩
    exact ⟨⟨before, name, value, after, split, named, others, trimmed⟩, filled, granted⟩
  · rintro ⟨⟨before, name, value, after, split, named, others, trimmed⟩, filled, granted⟩
    exact ⟨value, ⟨before, name, after, split, named, others⟩, trimmed, filled, granted⟩

end Token

/-- A request that carries a token, in one header and no other. -/
def Http.Request.Carries (token : Token) (request : Http.Request) : Prop :=
  request.headers.filter (fun header => header.1.toLower == "x-csrf-token") =
    [("x-csrf-token", token.text)]

namespace Repository

variable (repository : Repository)

theorem carries_testRequest (token : Token) (package : String) :
    (repository.testRequest token package).Carries token := by
  have accept : "Accept".toLower ≠ "x-csrf-token" := Text.toLower_eq_iff.not.mpr (by decide)
  have content : "Content-Type".toLower ≠ "x-csrf-token" := Text.toLower_eq_iff.not.mpr (by decide)
  have named : "x-csrf-token".toLower = "x-csrf-token" := Token.toLower_header
  simp [Http.Request.Carries, testRequest, Http.Request.post, Http.Request.withHeader,
    Http.Request.withBody, Token.header, accept, content, named]

/-- A token in the answer to the request for it has been offered by a reply of success. -/
theorem tokenIn_eq_ok_iff {answer : Http.Answer} {token : Token} :
    repository.tokenIn answer = .ok token ↔
      ∃ reply, answer = .reply reply ∧ reply.isSuccess = true ∧
        Token.IsOffered reply.headers token := by
  rw [tokenIn, Http.Answer.read_eq_ok_iff]
  have issued (reply : Http.Reply) : issuedToken reply = .ok token ↔
      Token.IsOffered reply.headers token := by
    rw [← Token.ofReply?_eq_some_iff, issuedToken]
    cases Token.ofReply? reply <;> simp
  simp only [issued]

theorem tokenIn_failure (reason : String) :
    repository.tokenIn (.failure reason) = .error (.transport reason) := rfl

/-- A reply that offers no token is refused by its status, or for want of a token. -/
theorem tokenIn_reply_of_unoffered {reply : Http.Reply}
    (unoffered : reply.isSuccess = true → ∀ token, ¬ Token.IsOffered reply.headers token) :
    repository.tokenIn (.reply reply) =
      .error (if reply.isSuccess then .missingToken
        else .http reply.status (repository.toolUrl "core/discovery")) := by
  cases success : reply.isSuccess with
  | false =>
      simp [tokenIn, Http.Answer.read, Http.Answer.accept, requireSuccess, success, Except.map]
  | true =>
      rw [tokenIn, Http.Answer.read_of_success success, issuedToken]
      cases given : Token.ofReply? reply with
      | none => rfl
      | some token => exact absurd (Token.ofReply?_eq_some_iff.mp given) (unoffered success token)

/-- The tests of a package are asked for by one request, whatever the world is like. -/
theorem sent_runPackage (token : Token) (package : String) (world : World) :
    (runIn world (repository.runPackage token package)).2.system.sent =
      world.system.sent ++ [repository.testRequest token package] := by
  rw [runIn_runPackage]
  dsimp only
  rw [World.system_reportAll]
  exact (Line.sent_exchange _ _).trans (by rw [World.line, World.system_report])

/-- What is handed over in a run are requests for tests, with the token that has been given. -/
theorem exists_token_of_post
    (answers providerAnswers : List Http.Answer) (observer : Observer) :
    let run := runIn (.start (.ofScript answers) (.ofScript providerAnswers) observer)
      repository.runAll
    ∀ post ∈ run.2.system.sent.filter fun request => request.method == .post,
      ∃ token package,
        repository.tokenIn (scriptedAnswer answers 1 repository.tokenRequest) = .ok token ∧
        post = repository.testRequest token package := by
  intro run post among
  rcases repository.runIn_runAll
    (.start (.ofScript answers) (.ofScript providerAnswers) observer)
    (Line.ofScript_eq_scripted answers) with ⟨log, events, ended⟩
  unfold run at among
  rw [ended] at among
  cases listed : repository.objectsIn
      (scriptedAnswer answers 0 (.get (repository.actionUrl "getObjects"))) with
  | error error =>
      rw [listed] at among
      cases among
  | ok objects =>
      rw [listed] at among
      cases given : repository.tokenIn (scriptedAnswer answers 1 repository.tokenRequest) with
      | error error =>
          rw [given] at among
          cases among
      | ok token =>
          rw [given] at among
          dsimp only at among
          have gets : ∀ question ∈
              [.get (repository.actionUrl "getObjects"), repository.tokenRequest],
              question.method = .get := by
            simp [tokenRequest, Http.Request.get, Http.Request.withHeader]
          rw [Line.sent_scripted, Http.filter_post_append gets
            (repository.method_of_mem_trialRequests token answers 2 _),
            trialRequests_eq_made] at among
          rcases List.mem_map.mp among with ⟨trial, -, rfl⟩
          exact ⟨token, trial.package, rfl, rfl⟩

/-- Where the packages are listed and no token is given, the run ends for want of a token. -/
theorem runAll_of_tokenIn_eq_error
    {answers : List Http.Answer} (providerAnswers : List Http.Answer) (observer : Observer)
    {objects : List RepositoryObject} {error : Error}
    (listed : repository.objectsIn
      (scriptedAnswer answers 0 (.get (repository.actionUrl "getObjects"))) = .ok objects)
    (refused : repository.tokenIn (scriptedAnswer answers 1 repository.tokenRequest) =
      .error error) :
    (runIn (.start (.ofScript answers) (.ofScript providerAnswers) observer)
      repository.runAll).1 = .error error := by
  rcases repository.runIn_runAll
    (.start (.ofScript answers) (.ofScript providerAnswers) observer)
    (Line.ofScript_eq_scripted answers) with ⟨log, events, ended⟩
  rw [ended, listed]
  dsimp only
  rw [refused]

/--
Every request for tests carries one token: the one that is offered by the reply of success to the
request for a token.  If none is offered, no tests are asked for, and the run fails with the
answer, by its status or for want of a token.  A token that has been given in any world is one that
has been offered there, and a request for tests with it carries it.
-/
theorem every_request_for_tests_carries_offered_token
    (answers providerAnswers : List Http.Answer) (observer : Observer) :
    let run := runIn (.start (.ofScript answers) (.ofScript providerAnswers) observer)
      repository.runAll
    let offered := scriptedAnswer answers 1 repository.tokenRequest
    let posts := run.2.system.sent.filter fun request => request.method == .post
    (∀ post ∈ posts,
      post.url = repository.toolUrl "abapunit/testruns" ∧
      ∃ reply token, offered = .reply reply ∧ reply.isSuccess = true ∧
        Token.IsOffered reply.headers token ∧ post.Carries token) ∧
    ((∀ reply, offered = .reply reply → reply.isSuccess = true →
        ∀ token, ¬ Token.IsOffered reply.headers token) →
      posts = [] ∧
      ∀ objects, repository.objectsIn
          (scriptedAnswer answers 0 (.get (repository.actionUrl "getObjects"))) = .ok objects →
        (∀ reason, offered = .failure reason → run.1 = .error (.transport reason)) ∧
        (∀ reply, offered = .reply reply →
          run.1 = .error (if reply.isSuccess then .missingToken
            else .http reply.status (repository.toolUrl "core/discovery")))) ∧
    (∀ (source : Repository) (world : World) (token : Token),
      (runIn world source.fetchToken).1 = .ok token →
        (∃ reply, (world.exchange .system source.tokenRequest).1 = .reply reply ∧
          reply.isSuccess = true ∧ Token.IsOffered reply.headers token) ∧
        ∀ (package : String) (later : World), ∃ post : Http.Request,
          (runIn later (repository.runPackage token package)).2.system.sent =
            later.system.sent ++ [post] ∧
          post.method = .post ∧ post.url = repository.toolUrl "abapunit/testruns" ∧
          post.Carries token) := by
  intro run offered posts
  have known := repository.exists_token_of_post answers providerAnswers observer
  refine ⟨?_, ?_, ?_⟩
  · intro post among
    rcases known post among with ⟨token, package, given, rfl⟩
    rcases repository.tokenIn_eq_ok_iff.mp given with ⟨reply, answered, success, genuine⟩
    exact ⟨rfl, reply, token, answered, success, genuine,
      repository.carries_testRequest token package⟩
  · intro unoffered
    refine ⟨?_, ?_⟩
    · apply List.eq_nil_iff_forall_not_mem.mpr
      intro post among
      rcases known post among with ⟨token, package, given, -⟩
      rcases repository.tokenIn_eq_ok_iff.mp given with ⟨reply, answered, success, genuine⟩
      exact unoffered reply answered success token genuine
    · intro objects listed
      constructor
      · intro reason answered
        apply repository.runAll_of_tokenIn_eq_error providerAnswers observer listed
        exact (congrArg repository.tokenIn answered).trans (repository.tokenIn_failure reason)
      · intro reply answered
        apply repository.runAll_of_tokenIn_eq_error providerAnswers observer listed
        exact (congrArg repository.tokenIn answered).trans
          (repository.tokenIn_reply_of_unoffered (unoffered reply answered))
  · intro source world token given
    rcases source.asks_fetchToken world with ⟨log, ended⟩
    rw [ended] at given
    refine ⟨source.tokenIn_eq_ok_iff.mp given, ?_⟩
    intro package later
    exact ⟨repository.testRequest token package, repository.sent_runPackage token package later,
      rfl, rfl, repository.carries_testRequest token package⟩

end Repository

end ChangeTransport
