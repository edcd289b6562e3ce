import ChangeTransport.Proofs.SideBySide
import ChangeTransport.Proofs.UnitTest.Token
import ChangeTransport.Rollback
import ChangeTransport.Deploy.Deployer

/-!
# Secrets

There are three secrets: the password of a user, the token with which a hosting provider is asked,
and the token that the system gives.  Runs with different secrets are run side by side: they come
to the same, they report and log the same, and their requests differ at most in the one header that
carries the secret.
-/

namespace ChangeTransport

open Step

/-! ## Requests with a secret -/

/-- Requests that differ at most in the values of the headers with the given name. -/
structure Http.Request.AlikeBut (name : String) (first second : Http.Request) : Prop where
  method : first.method = second.method
  url : first.url = second.url
  headers : List.Forall₂
    (fun header other => header.1 = other.1 ∧ (header.1 = name ∨ header.2 = other.2))
    first.headers second.headers
  body : first.body = second.body

namespace Http.Request.AlikeBut

variable {name : String} {first second : Http.Request}

theorem refl (request : Http.Request) : request.AlikeBut name request where
  method := rfl
  url := rfl
  headers := List.forall₂_same.mpr fun _ _ => ⟨rfl, .inr rfl⟩
  body := rfl

theorem withHeader (alike : first.AlikeBut name second) (other value : String) :
    (first.withHeader other value).AlikeBut name (second.withHeader other value) :=
  { alike with headers := List.rel_append alike.headers (.cons ⟨rfl, .inr rfl⟩ .nil) }

/-- The header of the secret may have different values. -/
theorem withSecret (alike : first.AlikeBut name second) (secret other : String) :
    (first.withHeader name secret).AlikeBut name (second.withHeader name other) :=
  { alike with headers := List.rel_append alike.headers (.cons ⟨rfl, .inl rfl⟩ .nil) }

theorem withBody (alike : first.AlikeBut name second) (text : String) :
    (first.withBody text).AlikeBut name (second.withBody text) :=
  { alike with body := rfl }

end Http.Request.AlikeBut

/-- How requests may differ if the provider is asked with another token. -/
def providerTokenHidden : Peer → Http.Request → Http.Request → Prop
  | .system => Eq
  | .provider => Http.Request.AlikeBut "Authorization"

/-- How requests may differ if the system gives another token. -/
def systemTokenHidden : Peer → Http.Request → Http.Request → Prop
  | .system => fun request other =>
      request = other ∨
        request.method = .post ∧ other.method = .post ∧ request.AlikeBut "x-csrf-token" other
  | .provider => Eq

/-! ## Questions to the system -/

namespace Repository

variable (repository : Repository)

section Questions

variable {requests : Peer → Http.Request → Http.Request → Prop}
  (same : ∀ request, requests .system request request)

include same

theorem fetch_alike : Step.Alike requests Eq repository.fetch repository.fetch :=
  Alike.decoded (same _) rfl _

theorem fetchCommits_alike :
    Step.Alike requests Eq repository.fetchCommits repository.fetchCommits := by
  refine (Alike.exchange (same _) rfl).bind fun _ _ replies => ?_
  refine (Alike.ofExcept (.of_eq (replies.decodeReply _))).bind_eq fun commits => ?_
  exact (Alike.log _).bind_eq fun _ => Alike.pure rfl

theorem fetchHistory_alike :
    Step.Alike requests Eq repository.fetchHistory repository.fetchHistory := by
  refine (Alike.exchange (same _) rfl).bind fun _ _ replies => ?_
  refine (Alike.ofExcept (.of_eq (replies.decodeReply _))).bind_eq fun body => ?_
  exact (Alike.log _).bind_eq fun _ => Alike.pure rfl

theorem fetchPackages_alike :
    Step.Alike requests Eq repository.fetchPackages repository.fetchPackages := by
  refine (Alike.decoded (same _) rfl _).bind_eq fun objects => ?_
  exact (Alike.log _).bind_eq fun _ => Alike.pure rfl

/-- Tokens are given, or are not given, at the same time; nothing is said of what they are. -/
theorem fetchToken_alike :
    Step.Alike requests (fun _ _ => True) repository.fetchToken repository.fetchToken := by
  refine (Alike.exchange (same _) rfl).bind fun reply other replies => ?_
  have token := replies.token
  cases given : Token.ofReply? reply with
  | none =>
      rw [given, Option.isSome_none, eq_comm, Option.isSome_eq_false_iff,
        Option.isNone_iff_eq_none] at token
      rw [token]
      exact Alike.throw _
  | some first =>
      rw [given, Option.isSome_some, eq_comm, Option.isSome_iff_exists] at token
      rcases token with ⟨second, token⟩
      rw [token]
      exact (Alike.log _).bind_eq fun _ => Alike.pure trivial

end Questions

end Repository

/-! ## The token for the provider -/

namespace HostedRepository

variable (hosted : HostedRepository) {first second : String}

/-- The token stands in one header of the request for a status. -/
theorem statusRequest_alikeBut (filled : first ≠ "") (otherFilled : second ≠ "")
    (commit : String) :
    (hosted.statusRequest commit (some first)).AlikeBut "Authorization"
      (hosted.statusRequest commit (some second)) := by
  have given : given? (some first) = some first := given?_eq_some_iff.mpr ⟨rfl, filled⟩
  have otherGiven : given? (some second) = some second :=
    given?_eq_some_iff.mpr ⟨rfl, otherFilled⟩
  unfold statusRequest
  rw [given, otherGiven]
  exact (Http.Request.AlikeBut.refl _).withSecret _ _

/-- The commits are asked about one after the other, with either token. -/
theorem findSuccessful_alike (filled : first ≠ "") (otherFilled : second ≠ "")
    (commits : List String) :
    Step.Alike providerTokenHidden Eq
      (hosted.findSuccessful (some first) commits)
      (hosted.findSuccessful (some second) commits) := by
  induction commits with
  | nil => exact Alike.throw _
  | cons commit rest induction =>
      have asked : providerTokenHidden .provider (hosted.statusRequest commit (some first))
          (hosted.statusRequest commit (some second)) :=
        hosted.statusRequest_alikeBut filled otherFilled commit
      refine (Alike.decoded asked asked.url _).bind_eq fun status => ?_
      refine (Alike.report _).bind_eq fun _ => ?_
      cases status.isSuccess with
      | true => exact Alike.pure rfl
      | false => exact (Alike.log _).bind_eq fun _ => induction

end HostedRepository

namespace Repository

variable (repository : Repository) {first second : String}

theorem resolved_alike (requests : Peer → Http.Request → Http.Request → Prop)
    (commit : String) (strategy : Strategy) :
    Step.Alike requests Eq (repository.resolved commit strategy)
      (repository.resolved commit strategy) :=
  (Alike.report _).bind_eq fun _ => Alike.pure rfl

theorem resolveByStatus_alike (filled : first ≠ "") (otherFilled : second ≠ "")
    (hosted : HostedRepository) :
    Step.Alike providerTokenHidden Eq
      (repository.resolveByStatus hosted (some first))
      (repository.resolveByStatus hosted (some second)) := by
  refine (Alike.report _).bind_eq fun _ => ?_
  refine (repository.fetchCommits_alike fun _ => rfl).bind_eq fun commits => ?_
  refine (hosted.findSuccessful_alike filled otherFilled _).bind_eq fun commit => ?_
  exact repository.resolved_alike _ commit .commitStatus

theorem resolveByHistory_alike :
    Step.Alike providerTokenHidden Eq repository.resolveByHistory repository.resolveByHistory := by
  refine (Alike.report _).bind_eq fun _ => ?_
  refine (repository.fetchHistory_alike fun _ => rfl).bind_eq fun history => ?_
  cases latestSource? history with
  | none => exact Alike.throw _
  | some commit => exact repository.resolved_alike _ commit .history

/-- A commit is resolved with either token. -/
theorem resolve_alike (filled : first ≠ "") (otherFilled : second ≠ "")
    (commit : Option String) :
    Step.Alike providerTokenHidden Eq
      (repository.resolve commit (some first)) (repository.resolve commit (some second)) := by
  unfold resolve
  cases given? commit with
  | some commit =>
      exact (Alike.report _).bind_eq fun _ => repository.resolved_alike _ commit .explicit
  | none =>
      refine (repository.fetch_alike fun _ => rfl).bind_eq fun descriptor => ?_
      refine (Alike.ofExcept (.of_eq rfl)).bind_eq fun hosted? => ?_
      cases hosted? with
      | some hosted => exact repository.resolveByStatus_alike filled otherFilled hosted
      | none => exact repository.resolveByHistory_alike

/-! ## The token of the system -/

/-- The token stands in one header of the request for tests. -/
theorem testRequest_alikeBut (token other : Token) (package : String) :
    (repository.testRequest token package).AlikeBut "x-csrf-token"
      (repository.testRequest other package) :=
  (((Http.Request.AlikeBut.refl _).withSecret _ _).withHeader _ _).withHeader _ _ |>.withBody _

theorem runPackage_alike (token other : Token) (package : String) :
    Step.Alike systemTokenHidden Eq
      (repository.runPackage token package) (repository.runPackage other package) := by
  have asked : systemTokenHidden .system (repository.testRequest token package)
      (repository.testRequest other package) :=
    .inr ⟨rfl, rfl, repository.testRequest_alikeBut token other package⟩
  refine (Alike.report _).bind_eq fun _ => ?_
  refine (Alike.exchange asked rfl).bind fun _ _ replies => ?_
  refine (Alike.ofExcept (.of_eq (replies.decodeDocument _ _))).bind_eq fun result => ?_
  refine Alike.bind_eq ?_ fun _ => Alike.pure rfl
  exact (Alike.forM _ fun _ => Alike.report _).bind_eq fun _ => Alike.report _

/-- The tests of packages are run one after the other, with either token. -/
theorem runPackages_alike (token other : Token) (packages : List String) :
    Step.Alike systemTokenHidden Eq
      (repository.runPackages token packages) (repository.runPackages other packages) := by
  induction packages with
  | nil => exact Alike.pure rfl
  | cons package rest induction =>
      refine (repository.runPackage_alike token other package).bind_eq fun verdict => ?_
      cases verdict.passed with
      | false => exact Alike.throw _
      | true => exact induction.bind_eq fun verdicts => Alike.pure rfl

/-- A test run is the same for all tokens that the system gives. -/
theorem runAll_alike :
    Step.Alike systemTokenHidden Eq repository.runAll repository.runAll := by
  refine (repository.fetchPackages_alike fun _ => .inl rfl).bind_eq fun packages => ?_
  -- from here on the two runs have different tokens
  refine (repository.fetchToken_alike fun _ => .inl rfl).bind fun token other _ => ?_
  refine (repository.runPackages_alike token other packages).bind_eq fun verdicts => ?_
  exact (Alike.log _).bind_eq fun _ => Alike.pure rfl

/-! ## All secrets -/

/-- A pull does not know on whose behalf it is done. -/
theorem rollback_pulling_eq (credentials others : Credentials) (commit token : Option String) :
    repository.rollback credentials commit token .pulling =
      repository.rollback others commit token .pulling := rfl

/--
Resolving takes no credentials, and a rollback by a pull is the same with any two passwords, in
whatever world; neither credentials nor orders show the password.  A commit is resolved alike with
any two tokens for the provider, and what the provider is asked differs at most in the header for
the authorization.  A test run is the same with any two tokens that the system may give, and only
the requests for tests differ, at most in the header for the token.
-/
theorem runs_do_not_depend_on_secrets
    (answers providerAnswers : List Http.Answer) (observer : Observer) (commit : Option String) :
    (∀ (username password other : String) (token : Option String) (world : World),
      let order (password : String) (commit : String) : DeployOrder :=
        ⟨repository, ⟨username, password⟩, commit⟩
      let run (password : String) :=
        runIn world (repository.rollback ⟨username, password⟩ commit token .pulling)
      run password = run other ∧
      Credentials.shown ⟨username, password⟩ = Credentials.shown ⟨username, other⟩ ∧
      ∀ commit, (order password commit).shown = (order other commit).shown) ∧
    (∀ token other : String, token ≠ "" → other ≠ "" →
      let run (token : String) :=
        runIn (.start (.ofScript answers) (.ofScript providerAnswers) observer)
          (repository.resolve commit (some token))
      (run token).1 = (run other).1 ∧
      (run token).2.system.sent = (run other).2.system.sent ∧
      (run token).2.events = (run other).2.events ∧
      (run token).2.log = (run other).2.log ∧
      List.Forall₂ (Http.Request.AlikeBut "Authorization")
        (run token).2.provider.sent (run other).2.provider.sent) ∧
    (∀ (listing : Http.Answer) (rest : List Http.Answer) (status : Nat) (body : List UInt8)
        (headers others : List Http.Header) (token other : Token),
      Token.IsOffered headers token → Token.IsOffered others other →
      let run (headers : List Http.Header) :=
        runIn (.start (.ofScript (listing :: .reply ⟨status, headers, body⟩ :: rest))
          (.ofScript providerAnswers) observer) repository.runAll
      (run headers).1 = (run others).1 ∧
      (run headers).2.provider.sent = (run others).2.provider.sent ∧
      (run headers).2.events = (run others).2.events ∧
      (run headers).2.log = (run others).2.log ∧
      List.Forall₂
        (fun request another => request = another ∨
          request.method = .post ∧ another.method = .post ∧
            request.AlikeBut "x-csrf-token" another)
        (run headers).2.system.sent (run others).2.system.sent) := by
  refine ⟨?_, ?_, ?_⟩
  · intro username password other token world order run
    have same := repository.rollback_pulling_eq ⟨username, password⟩ ⟨username, other⟩ commit token
    exact ⟨congrArg (runIn world) same, rfl, fun _ => rfl⟩
  · intro token other filled otherFilled run
    have alike := repository.resolve_alike filled otherFilled commit _ _
      (World.Alike.start (Http.Answer.Alike.forall₂_refl answers)
        (Http.Answer.Alike.forall₂_refl providerAnswers) observer)
    rcases alike with ⟨ends, worlds⟩
    exact ⟨ends.eq, List.forall₂_eq_eq_eq ▸ (worlds.lines .system).sent, worlds.events,
      worlds.log, (worlds.lines .provider).sent⟩
  · intro listing rest status body headers others token other offered otherOffered run
    have given : Token.ofReply? ⟨status, headers, body⟩ = some token :=
      Token.ofReply?_eq_some_iff.mpr offered
    have otherGiven : Token.ofReply? ⟨status, others, body⟩ = some other :=
      Token.ofReply?_eq_some_iff.mpr otherOffered
    have discovery : Http.Answer.Alike (.reply ⟨status, headers, body⟩)
        (.reply ⟨status, others, body⟩) :=
      .reply ⟨rfl, rfl, by rw [given, otherGiven]; rfl⟩
    have alike := repository.runAll_alike _ _
      (World.Alike.start
        (.cons (.refl listing) (.cons discovery (Http.Answer.Alike.forall₂_refl rest)))
        (Http.Answer.Alike.forall₂_refl providerAnswers) observer)
    rcases alike with ⟨ends, worlds⟩
    exact ⟨ends.eq, List.forall₂_eq_eq_eq ▸ (worlds.lines .provider).sent, worlds.events,
      worlds.log, (worlds.lines .system).sent⟩

end Repository

end ChangeTransport
