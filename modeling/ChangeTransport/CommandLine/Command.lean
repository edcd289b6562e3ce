import ChangeTransport.CommandLine.Options
import ChangeTransport.Repository.Create

/-!
# Commands

The program carries out one of five commands on a repository.  What it is to do is said by a
command line and by the environment; a value on the command line goes before one of the
environment.
-/

namespace ChangeTransport.CommandLine

/-- The connection to a repository, as it is given. -/
structure Connection where
  host : String
  client : String
  repository : String
  username : String
  password : String
  deriving Repr, DecidableEq

/-- The repository of a connection. -/
def Connection.target (connection : Connection) : Repository :=
  .of connection.host connection.client connection.repository

/-- The credentials of a connection. -/
def Connection.credentials (connection : Connection) : Credentials :=
  ⟨connection.username, connection.password⟩

/-- What is to be done. -/
inductive Command where
  | create (options : CreateOptions)
  | clone
  | deploy (commit : Option String)
  | rollback (commit token : Option String)
  | runUnitTests
  deriving Repr, DecidableEq

/-- The commands, without what else is said about them. -/
inductive CommandKind where
  | create
  | clone
  | deploy
  | rollback
  | runUnitTests
  deriving Repr, DecidableEq

namespace CommandKind

/-- All commands. -/
def all : List CommandKind := [create, clone, deploy, rollback, runUnitTests]

/-- The word that names a command. -/
def name : CommandKind → String
  | create => "create-repository"
  | clone => "clone-repository"
  | deploy => "deploy-commit"
  | rollback => "rollback-commit"
  | runUnitTests => "run-unit-tests"

/-- The command that a word names. -/
def ofName? (word : String) : Option CommandKind :=
  all.find? (fun kind => kind.name == word)

/-- The options that only this command has. -/
def ownRules : CommandKind → List OptionRule
  | create =>
    [ .required "remote-url" "GCTS_REMOTE_URL",
      .optional "role" none,
      .optional "type" none,
      .optional "vsid" (some "GCTS_VSID") ]
  | clone => []
  | deploy => [.optional "commit" (some "GCTS_COMMIT")]
  | rollback =>
    [ .optional "commit" (some "GCTS_COMMIT"),
      .optional "github-token" (some "GCTS_GITHUB_TOKEN") ]
  | runUnitTests => []

end CommandKind

/-- The command without what else is said about it. -/
def Command.kind : Command → CommandKind
  | create _ => .create
  | clone => .clone
  | deploy _ => .deploy
  | rollback _ _ => .rollback
  | runUnitTests => .runUnitTests

/-- The options that say how much is logged, and in which form. -/
def logRules : List OptionRule :=
  [⟨"verbose", some 'v', .flag⟩, ⟨"json", none, .flag⟩]

/-- The option that asks for help. -/
def helpRule : OptionRule := ⟨"help", some 'h', .help⟩

/-- The options in front of a command. -/
def frontRules : List OptionRule :=
  logRules ++ [helpRule, ⟨"version", some 'V', .version⟩]

/-- The options that every command has. -/
def connectionRules : List OptionRule :=
  [ .required "host" "GCTS_HOST",
    .required "client" "GCTS_CLIENT",
    .required "repository" "GCTS_REPOSITORY",
    .required "username" "GCTS_USERNAME",
    .required "password" "GCTS_PASSWORD" ]

/-- The options behind a command. -/
def CommandKind.rules (kind : CommandKind) : List OptionRule :=
  logRules ++ [helpRule] ++ connectionRules ++ kind.ownRules

/-- What a command line and the environment say. -/
structure Invocation where
  verbose : Bool
  json : Bool
  connection : Connection
  command : Command
  deriving Repr, DecidableEq

/-! ## Reading -/

/-- A value, or the text that stands for it. -/
def valueOr (values : List (String × String)) (name default : String) : String :=
  (values.lookup name).getD default

/-- The connection that values give; each of them is required. -/
def Connection.ofValues (values : List (String × String)) : Connection :=
  ⟨valueOr values "host" "", valueOr values "client" "", valueOr values "repository" "",
    valueOr values "username" "", valueOr values "password" ""⟩

/-- The command that values give. -/
def CommandKind.withValues (values : List (String × String)) : CommandKind → Command
  | .create => .create
      { role := valueOr values "role" CreateOptions.default.role
        kind := valueOr values "type" CreateOptions.default.kind
        vsid := valueOr values "vsid" CreateOptions.default.vsid
        remoteUrl := valueOr values "remote-url" "" }
  | .clone => .clone
  | .deploy => .deploy (values.lookup "commit")
  | .rollback => .rollback (values.lookup "commit") (values.lookup "github-token")
  | .runUnitTests => .runUnitTests

/-- Read the words behind a command; `front` holds the flags in front of it. -/
def readCommand (environment : Environment) (front : List String) (kind : CommandKind)
    (words : List String) : Except Refusal Invocation := do
  let reading ← Reading.start.takeAll kind.rules (words.map Word.of)
  reading.requireAll environment kind.rules
  let values := reading.allValues environment kind.rules
  let flags := front ++ reading.flags
  pure
    { verbose := flags.contains "verbose"
      json := flags.contains "json"
      connection := .ofValues values
      command := kind.withValues values }

/-- The word that asks for help about the words behind it. -/
def helpWord : String := "help"

/-- Whether a word can stand for a command. -/
def isCommandWord (word : String) : Bool :=
  word == helpWord || (CommandKind.ofName? word).isSome

/-- What comes of asking for help about commands; no command has commands of its own. -/
def helpAbout : List String → Refusal
  | [] => .helpWanted
  | [word] => if isCommandWord word then .helpWanted else .unknownCommand
  | _ => .unknownCommand

/-- What comes of a command line that names no command. -/
def withoutCommand (reading : Reading) : Refusal :=
  if reading.flags.isEmpty then .nothingGiven else .commandMissing

/-- What comes of words behind two hyphens in front of every command. -/
def behindEnding (reading : Reading) : List String → Refusal
  | [] => withoutCommand reading
  | word :: _ => if isCommandWord word then .unknownOption else .unknownCommand

/-- Read the words of a command line. -/
def readFront (environment : Environment) (reading : Reading) :
    List String → Except Refusal Invocation
  | [] => .error (withoutCommand reading)
  | word :: rest =>
    if word = helpWord then
      .error (helpAbout rest)
    else
      match CommandKind.ofName? word with
      | some kind => readCommand environment reading.flags kind rest
      | none =>
        match Word.of word with
        | .ending => .error (behindEnding reading rest)
        | .plain _ => .error .unknownCommand
        | .long name value => do
          let reading ← reading.takeLong frontRules name value
          readFront environment reading rest
        | .letters letters => do
          let reading ← reading.takeLetters frontRules letters
          readFront environment reading rest

/-- What a command line and the environment say. -/
def read (environment : Environment) (words : List String) : Except Refusal Invocation :=
  readFront environment .start words

end ChangeTransport.CommandLine
