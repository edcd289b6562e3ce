import Mathlib.Data.List.DropRight
import ChangeTransport.CommandLine.Command
import ChangeTransport.Deploy.Order
import ChangeTransport.Proofs.CommandLine.Options

/-!
# The words of a deploy order

The command line that carries out an order says to the program what the order says, whatever the
environment, unless one of its values is taken for an option: each value stands in a word of its
own.
-/

namespace ChangeTransport

open CommandLine

/-- A repository is not changed by making it anew. -/
theorem Repository.of_host (host client name : String) :
    Repository.of (Repository.of host client name).host client name = .of host client name := by
  unfold of Text.stripEndWhere
  simp only [String.toList_ofList, List.reverse_reverse, List.dropWhile_idempotent]

namespace DeployOrder

/-- The options by which an order is given, each with its value. -/
def options (order : DeployOrder) : List (String × String) :=
  [ ("username", order.credentials.username),
    ("password", order.credentials.password),
    ("host", order.repository.host),
    ("client", order.repository.client),
    ("repository", order.repository.name),
    ("commit", order.commit) ]

/-- The words of an order name the command that deploys, and its options. -/
theorem words_eq (order : DeployOrder) :
    ∃ options, order.words = CommandKind.deploy.name :: options ∧
      options.map Word.of = Reading.optionWords order.options := by
  refine ⟨_, rfl, ?_⟩
  have username : Word.of "--username" = .long "username" none := by decide
  have password : Word.of "--password" = .long "password" none := by decide
  have host : Word.of "--host" = .long "host" none := by decide
  have client : Word.of "--client" = .long "client" none := by decide
  have repository : Word.of "--repository" = .long "repository" none := by decide
  have commit : Word.of "--commit" = .long "commit" none := by decide
  simp only [List.map_cons, List.map_nil, username, password, host, client, repository, commit]
  rfl

theorem hasValue_options (order : DeployOrder) :
    ∀ option ∈ order.options, Reading.HasValue CommandKind.deploy.rules option.1 := by
  have all : ∀ name ∈ order.options.map Prod.fst,
      Reading.HasValue CommandKind.deploy.rules name := by
    have required (name source : String)
        (found : CommandKind.deploy.rules.find? (fun rule => rule.name == name) =
          some (.required name source)) :
        Reading.HasValue CommandKind.deploy.rules name := ⟨_, _, _, found, rfl⟩
    simp only [options, List.map_cons, List.map_nil, List.forall_mem_cons]
    refine ⟨required _ "GCTS_USERNAME" ?_, required _ "GCTS_PASSWORD" ?_,
      required _ "GCTS_HOST" ?_, required _ "GCTS_CLIENT" ?_, required _ "GCTS_REPOSITORY" ?_,
      ⟨.optional "commit" (some "GCTS_COMMIT"), _, _, ?_, rfl⟩, ?_⟩
    all_goals first | decide | simp
  intro option member
  exact all option.1 (List.mem_map_of_mem member)

theorem nodup_options (order : DeployOrder) : (order.options.map Prod.fst).Nodup := by
  simp [options]

/-- The options of an order, once they have been read. -/
def reading (order : DeployOrder) : Reading :=
  { Reading.start with values := order.options.reverse }

/-- The options of an order are read to the end unless one of its values is hyphened. -/
theorem takeAll_options (order : DeployOrder) :
    ((∀ option ∈ order.options, ¬ IsHyphened option.2) →
      Reading.start.takeAll CommandKind.deploy.rules (Reading.optionWords order.options) =
        .ok order.reading) ∧
    ((∃ option ∈ order.options, IsHyphened option.2) →
      ∃ refusal,
        Reading.start.takeAll CommandKind.deploy.rules (Reading.optionWords order.options) =
          .error refusal) := by
  have fresh : ∀ option ∈ order.options, Reading.start.values.lookup option.1 = none :=
    fun _ _ => rfl
  have settled : Reading.start.settle = .ok .start := rfl
  have course := Reading.takeAll_optionWords order.options settled rfl
    order.hasValue_options fresh order.nodup_options
  simpa [reading, Reading.start] using course

/-- Options that have been read leave nothing to the environment. -/
theorem allValues_reading (order : DeployOrder) (environment : Environment) :
    order.reading.allValues environment CommandKind.deploy.rules =
      [ ("host", order.repository.host),
        ("client", order.repository.client),
        ("repository", order.repository.name),
        ("username", order.credentials.username),
        ("password", order.credentials.password),
        ("commit", order.commit) ] := by
  simp [Reading.allValues, Reading.valueOf?, reading, options, List.lookup_cons, CommandKind.rules,
    CommandKind.ownRules, logRules, helpRule, connectionRules, OptionRule.required,
    OptionRule.optional]

theorem requireAll_reading (order : DeployOrder) (environment : Environment) :
    order.reading.requireAll environment CommandKind.deploy.rules = .ok () := by
  simp [Reading.requireAll, Reading.valueOf?, reading, options, List.lookup_cons, CommandKind.rules,
    CommandKind.ownRules, logRules, helpRule, connectionRules, OptionRule.required,
    OptionRule.optional]

/-- What a command line says that says what an order says, and nothing else. -/
def invocation (order : DeployOrder) : Invocation where
  verbose := false
  json := false
  connection :=
    { host := order.repository.host
      client := order.repository.client
      repository := order.repository.name
      username := order.credentials.username
      password := order.credentials.password }
  command := .deploy (some order.commit)

/-- The words of an order are read as the order, or refused for a value that is hyphened. -/
theorem read_words (order : DeployOrder) (environment : Environment) :
    ((∀ option ∈ order.options, ¬ IsHyphened option.2) →
      CommandLine.read environment order.words = .ok order.invocation) ∧
    ((∃ option ∈ order.options, IsHyphened option.2) →
      ∃ refusal, CommandLine.read environment order.words = .error refusal) := by
  rcases order.words_eq with ⟨words, named, formed⟩
  have front : CommandLine.read environment order.words =
      readCommand environment [] .deploy words := by
    rw [named]
    rfl
  constructor
  · intro plain
    rw [front, readCommand, formed, order.takeAll_options.1 plain, ok_bind,
      requireAll_reading, ok_bind, allValues_reading]
    rfl
  · intro hyphened
    rcases order.takeAll_options.2 hyphened with ⟨refusal, refused⟩
    exact ⟨refusal, by rw [front, readCommand, formed, refused, error_bind]⟩

/--
The words of an order say to the program what the order says, whatever the environment, exactly if
none of its values is hyphened; otherwise the command line is refused.
-/
theorem words_carry_order_iff_no_value_hyphened
    (host client name username password commit : String) (environment : Environment) :
    let order : DeployOrder := ⟨.of host client name, ⟨username, password⟩, commit⟩
    let values := [username, password, order.repository.host, client, name, commit]
    ((∃ invocation, CommandLine.read environment order.words = .ok invocation ∧
        invocation.verbose = false ∧ invocation.json = false ∧
        invocation.connection.target = order.repository ∧
        invocation.connection.credentials = order.credentials ∧
        invocation.command = .deploy (some order.commit)) ↔
      ∀ value ∈ values, ¬ IsHyphened value) ∧
    ((∃ value ∈ values, IsHyphened value) →
      ∃ refusal, CommandLine.read environment order.words = .error refusal) := by
  intro order values
  have sameValues : values = order.options.map Prod.snd := rfl
  have refused : (∃ value ∈ values, IsHyphened value) →
      ∃ refusal, CommandLine.read environment order.words = .error refusal := by
    rintro ⟨value, member, hyphened⟩
    rw [sameValues, List.mem_map] at member
    rcases member with ⟨option, listed, rfl⟩
    exact (order.read_words environment).2 ⟨option, listed, hyphened⟩
  refine ⟨⟨?_, ?_⟩, refused⟩
  · rintro ⟨invocation, accepted, -⟩ value member hyphened
    rcases refused ⟨value, member, hyphened⟩ with ⟨refusal, failed⟩
    rw [accepted] at failed
    cases failed
  · intro plain
    have accepted : CommandLine.read environment order.words = .ok order.invocation := by
      apply (order.read_words environment).1
      intro option listed
      exact plain option.2 (sameValues ▸ List.mem_map_of_mem listed)
    exact ⟨order.invocation, accepted, rfl, rfl, Repository.of_host host client name, rfl, rfl⟩

/-- A password that begins with a hyphen is taken for options, and the command line is refused. -/
theorem words_of_hyphened_password_refused :
    let order : DeployOrder :=
      ⟨.of "http://testHost.com:50000" "000" "testRepo", ⟨"testUser", "-x"⟩, "c1"⟩
    CommandLine.read [] order.words = .error .unknownOption := by
  rfl

end DeployOrder

end ChangeTransport
