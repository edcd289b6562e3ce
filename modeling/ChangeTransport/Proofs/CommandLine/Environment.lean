import ChangeTransport.CommandLine.Command
import ChangeTransport.Proofs.Checks

/-!
# Connections that are taken from the environment

A connection consists of five texts, and each of them has its variable.  The command line takes them
from the variables wherever these are set, and so does a caller who asks for the repository and for
the credentials.  But for the caller a variable that is empty is not set, while on the command line
an empty text is a text like any other.
-/

namespace ChangeTransport

namespace CommandLine

/-- The variables that hold a connection. -/
def connectionVariables : List String :=
  ["GCTS_HOST", "GCTS_CLIENT", "GCTS_REPOSITORY", "GCTS_USERNAME", "GCTS_PASSWORD"]

/-- The texts of a connection, in the order of their variables. -/
def Connection.texts (connection : Connection) : List String :=
  [connection.host, connection.client, connection.repository, connection.username,
    connection.password]

end CommandLine

open CommandLine

namespace Environment

variable (environment : Environment)

/-- The variables of an environment hold the texts of a connection. -/
def Holds (connection : Connection) : Prop :=
  connectionVariables.map environment.value? = connection.texts.map some

/-- All variables that hold a connection are set. -/
def IsComplete : Prop := ∀ name ∈ connectionVariables, (environment.value? name).isSome

/-- One of the variables that hold a connection is set to the empty text. -/
def HasEmpty : Prop := ∃ name ∈ connectionVariables, environment.value? name = some ""

variable {environment}

theorem holds_iff {connection : Connection} :
    environment.Holds connection ↔
      environment.value? "GCTS_HOST" = some connection.host ∧
      environment.value? "GCTS_CLIENT" = some connection.client ∧
      environment.value? "GCTS_REPOSITORY" = some connection.repository ∧
      environment.value? "GCTS_USERNAME" = some connection.username ∧
      environment.value? "GCTS_PASSWORD" = some connection.password := by
  simp only [Holds, connectionVariables, Connection.texts, List.map_cons, List.map_nil,
    List.cons.injEq, and_true]

theorem isComplete_iff_exists_holds :
    environment.IsComplete ↔ ∃ connection, environment.Holds connection := by
  constructor
  · intro complete
    simp only [IsComplete, connectionVariables, List.forall_mem_cons, Option.isSome_iff_exists]
      at complete
    rcases complete with
      ⟨⟨host, one⟩, ⟨client, two⟩, ⟨repository, three⟩, ⟨username, four⟩, ⟨password, five⟩, -⟩
    exact ⟨⟨host, client, repository, username, password⟩,
      holds_iff.mpr ⟨one, two, three, four, five⟩⟩
  · rintro ⟨connection, holds⟩ name member
    have listed : environment.value? name ∈ connection.texts.map some :=
      holds ▸ List.mem_map_of_mem member
    rcases List.mem_map.mp listed with ⟨text, -, held⟩
    rw [← held]
    rfl

/-- An empty variable is an empty text of the connection. -/
theorem hasEmpty_iff_of_holds {connection : Connection} (holds : environment.Holds connection) :
    environment.HasEmpty ↔ "" ∈ connection.texts := by
  have same : some "" ∈ connectionVariables.map environment.value? ↔ "" ∈ connection.texts := by
    rw [holds]
    simp
  rw [← same, List.mem_map]
  rfl

theorem required_eq_ok_iff {name value : String} :
    environment.required name = .ok value ↔ environment.value? name = some value ∧ value ≠ "" := by
  unfold required
  cases environment.value? name with
  | none => simp
  | some text =>
      by_cases empty : text = ""
      · simp [empty]
      · simp [empty]
        rintro rfl
        exact empty

end Environment

variable {environment : Environment}

/-- A caller knows the repository and the credentials if no text of the connection is empty. -/
theorem ofEnvironment_eq_ok_iff {repository : Repository} {credentials : Credentials} :
    Repository.ofEnvironment environment = .ok repository ∧
        Credentials.ofEnvironment environment = .ok credentials ↔
      ∃ connection, environment.Holds connection ∧ "" ∉ connection.texts ∧
        connection.target = repository ∧ connection.credentials = credentials := by
  simp only [Repository.ofEnvironment, Credentials.ofEnvironment, bind_eq_ok_iff,
    Environment.required_eq_ok_iff]
  constructor
  · rintro ⟨⟨host, ⟨one, host_ne⟩, client, ⟨two, client_ne⟩, name, ⟨three, name_ne⟩, target⟩,
      username, ⟨four, username_ne⟩, password, ⟨five, password_ne⟩, known⟩
    refine ⟨⟨host, client, name, username, password⟩,
      Environment.holds_iff.mpr ⟨one, two, three, four, five⟩, ?_, Except.ok.inj target,
      Except.ok.inj known⟩
    simp [Connection.texts, Ne.symm host_ne, Ne.symm client_ne, Ne.symm name_ne,
      Ne.symm username_ne, Ne.symm password_ne]
  · rintro ⟨connection, holds, filled, rfl, rfl⟩
    rcases Environment.holds_iff.mp holds with ⟨one, two, three, four, five⟩
    simp only [Connection.texts, List.mem_cons, List.not_mem_nil, or_false, not_or] at filled
    rcases filled with ⟨host, client, name, username, password⟩
    exact ⟨⟨_, ⟨one, Ne.symm host⟩, _, ⟨two, Ne.symm client⟩, _, ⟨three, Ne.symm name⟩, rfl⟩,
      _, ⟨four, Ne.symm username⟩, _, ⟨five, Ne.symm password⟩, rfl⟩

namespace CommandLine

/-! ## The command line -/

/-- The options that a command must have are given where nothing is said exactly if all are set. -/
theorem requireAll_clone (environment : Environment) :
    Reading.start.requireAll environment CommandKind.clone.rules = .ok () ↔
      environment.IsComplete := by
  simp [Reading.requireAll, Reading.valueOf?, Reading.start, CommandKind.rules,
    CommandKind.ownRules, logRules, helpRule, connectionRules, OptionRule.required,
    Environment.IsComplete, connectionVariables, Option.isSome_iff_ne_none]

theorem ofValues_clone {connection : Connection} (holds : environment.Holds connection) :
    Connection.ofValues (Reading.start.allValues environment CommandKind.clone.rules) =
      connection := by
  rcases Environment.holds_iff.mp holds with ⟨one, two, three, four, five⟩
  simp [Connection.ofValues, valueOr, Reading.allValues, Reading.valueOf?, Reading.start,
    List.lookup_cons, CommandKind.rules, CommandKind.ownRules, logRules, helpRule, connectionRules,
    OptionRule.required, one, two, three, four, five]

/-- Without further words a connection is taken from the variables. -/
theorem read_clone_eq_ok_iff {invocation : Invocation} :
    read environment [CommandKind.clone.name] = .ok invocation ↔
      ∃ connection, environment.Holds connection ∧
        invocation = ⟨false, false, connection, .clone⟩ := by
  have front : read environment [CommandKind.clone.name] =
      Reading.start.requireAll environment CommandKind.clone.rules >>= fun _ =>
        .ok ⟨false, false,
          .ofValues (Reading.start.allValues environment CommandKind.clone.rules), .clone⟩ := rfl
  have complete := requireAll_clone environment
  rw [Environment.isComplete_iff_exists_holds] at complete
  rw [front, bind_eq_ok_iff]
  constructor
  · rintro ⟨⟨⟩, given, same⟩
    rcases complete.mp given with ⟨connection, holds⟩
    exact ⟨connection, holds, by rw [← Except.ok.inj same, ofValues_clone holds]⟩
  · rintro ⟨connection, holds, rfl⟩
    exact ⟨(), complete.mpr ⟨connection, holds⟩, by rw [ofValues_clone holds]⟩

/--
The command line and a caller read the same repository and the same credentials out of an
environment, and neither of them reads anything where the other does not, exactly unless all
variables are set and one of them is empty.
-/
theorem readings_agree_exactly_unless_empty (environment : Environment) :
    let accepted := ∃ invocation, read environment [CommandKind.clone.name] = .ok invocation
    let known := (∃ repository, Repository.ofEnvironment environment = .ok repository) ∧
      ∃ credentials, Credentials.ofEnvironment environment = .ok credentials
    (accepted ↔ environment.IsComplete) ∧
    (known ↔ environment.IsComplete ∧ ¬ environment.HasEmpty) ∧
    ((accepted ↔ known) ↔ ¬ (environment.IsComplete ∧ environment.HasEmpty)) ∧
    ∀ repository credentials,
      Repository.ofEnvironment environment = .ok repository ∧
          Credentials.ofEnvironment environment = .ok credentials ↔
        ¬ environment.HasEmpty ∧ ∃ connection,
          read environment [CommandKind.clone.name] = .ok ⟨false, false, connection, .clone⟩ ∧
          connection.target = repository ∧ connection.credentials = credentials := by
  intro accepted known
  have whole : accepted ↔ environment.IsComplete := by
    simp only [accepted, read_clone_eq_ok_iff, Environment.isComplete_iff_exists_holds]
    exact ⟨fun ⟨_, connection, holds, _⟩ => ⟨connection, holds⟩,
      fun ⟨connection, holds⟩ => ⟨_, connection, holds, rfl⟩⟩
  have same (repository : Repository) (credentials : Credentials) :
      Repository.ofEnvironment environment = .ok repository ∧
          Credentials.ofEnvironment environment = .ok credentials ↔
        ¬ environment.HasEmpty ∧ ∃ connection,
          read environment [CommandKind.clone.name] = .ok ⟨false, false, connection, .clone⟩ ∧
          connection.target = repository ∧ connection.credentials = credentials := by
    rw [ofEnvironment_eq_ok_iff]
    constructor
    · rintro ⟨connection, holds, filled, target, credentials⟩
      rw [Environment.hasEmpty_iff_of_holds holds]
      exact ⟨filled, connection, read_clone_eq_ok_iff.mpr ⟨connection, holds, rfl⟩, target,
        credentials⟩
    · rintro ⟨filled, connection, taken, target, credentials⟩
      rcases read_clone_eq_ok_iff.mp taken with ⟨other, holds, equal⟩
      cases equal
      rw [Environment.hasEmpty_iff_of_holds holds] at filled
      exact ⟨connection, holds, filled, target, credentials⟩
  have filled : known ↔ environment.IsComplete ∧ ¬ environment.HasEmpty := by
    constructor
    · rintro ⟨⟨repository, target⟩, credentials, user⟩
      rcases (same repository credentials).mp ⟨target, user⟩ with ⟨filled, connection, taken, -⟩
      exact ⟨whole.mp ⟨_, taken⟩, filled⟩
    · rintro ⟨complete, filled⟩
      rcases Environment.isComplete_iff_exists_holds.mp complete with ⟨connection, holds⟩
      have taken := read_clone_eq_ok_iff.mpr ⟨connection, holds, rfl⟩
      rcases (same _ _).mpr ⟨filled, connection, taken, rfl, rfl⟩ with ⟨target, user⟩
      exact ⟨⟨_, target⟩, _, user⟩
  refine ⟨whole, filled, ?_, same⟩
  rw [whole, filled, iff_self_and, not_and]

/-- An empty host is taken by the command line, which then asks for an address without a host. -/
theorem empty_host_taken_by_command_line_only :
    let environment : Environment :=
      [ ("GCTS_HOST", ""), ("GCTS_CLIENT", "000"), ("GCTS_REPOSITORY", "testRepo"),
        ("GCTS_USERNAME", "testUser"), ("GCTS_PASSWORD", "testPassword") ]
    (read environment [CommandKind.clone.name]).map (fun invocation =>
        invocation.connection.target.actionUrl "clone") =
        .ok "/sap/bc/cts_abapvcs/repository/testRepo/clone?sap-client=000" ∧
      Repository.ofEnvironment environment = .error (.configuration "GCTS_HOST is not set") := by
  exact ⟨by rfl, by rfl⟩

end CommandLine

end ChangeTransport
