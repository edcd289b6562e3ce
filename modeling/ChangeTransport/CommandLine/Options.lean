import ChangeTransport.Repository.Reference

/-!
# Options

A command line is a list of words.  A word that begins with two hyphens names an option, perhaps
with its value behind an equals sign; a word that begins with one hyphen holds letters that stand
for options without a value.  An option with a value takes the next word if none is attached.

An option counts as given once something follows it or the command line ends; so an option that
waits for its value in vain is found out then, and so is one that is given twice.
-/

namespace ChangeTransport.CommandLine

/-- Why a command line is not carried out. -/
inductive Refusal where
  | helpWanted
  | versionWanted
  | unknownCommand
  | unknownOption
  | valueUnwanted
  | valueMissing
  | givenTwice
  | optionMissing
  | commandMissing
  | nothingGiven
  deriving Repr, DecidableEq

/-- The status with which a program ends that refuses its command line. -/
def Refusal.status : Refusal → Nat
  | .helpWanted => 0
  | .versionWanted => 0
  | _ => 2

/-! ## Words -/

/-- What a word is by its form. -/
inductive Word where
  /-- Two hyphens: no word behind them is an option. -/
  | ending
  | long (name : String) (value : Option String)
  | letters (letters : List Char)
  | plain (text : String)
  deriving Repr, DecidableEq

/-- The option named behind two hyphens. -/
def Word.ofLong (characters : List Char) : Word :=
  let (name, value) := characters.span (fun character => character != '=')
  match value with
  | _ :: value => .long (String.ofList name) (some (String.ofList value))
  | [] => .long (String.ofList name) none

/-- The form of a word. -/
def Word.of (text : String) : Word :=
  match text.toList with
  | ['-', '-'] => .ending
  | '-' :: '-' :: rest => .ofLong rest
  | '-' :: first :: rest => .letters (first :: rest)
  | _ => .plain text

/-! ## Rules -/

/-- What an option does. -/
inductive OptionEffect where
  | flag
  | help
  | version
  /-- The option has a value, which may also come from a variable of the environment. -/
  | value (source : Option String) (isRequired : Bool)
  deriving Repr, DecidableEq

/-- An option that may be given. -/
structure OptionRule where
  name : String
  letter : Option Char
  effect : OptionEffect
  deriving Repr, DecidableEq

/-- An option without a letter that must have a value. -/
def OptionRule.required (name source : String) : OptionRule :=
  ⟨name, none, .value (some source) true⟩

/-- An option without a letter that may have a value. -/
def OptionRule.optional (name : String) (source : Option String) : OptionRule :=
  ⟨name, none, .value source false⟩

/-! ## Reading -/

/-- An option that has been named last. -/
inductive Pending where
  | nothing
  | waiting (name : String)
  | filled (name value : String)
  deriving Repr, DecidableEq

/-- The options read so far: those that are given, by name, and the one named last. -/
structure Reading where
  flags : List String
  values : List (String × String)
  pending : Pending
  deriving Repr, DecidableEq

namespace Reading

/-- No option yet. -/
def start : Reading := ⟨[], [], .nothing⟩

/-- A flag is given. -/
def giveFlag (reading : Reading) (name : String) : Except Refusal Reading :=
  if reading.flags.contains name then
    .error .givenTwice
  else
    .ok { reading with flags := name :: reading.flags }

/-- A value is given. -/
def giveValue (reading : Reading) (name value : String) : Except Refusal Reading :=
  if (reading.values.lookup name).isSome then
    .error .givenTwice
  else
    .ok { reading with values := (name, value) :: reading.values }

/-- The option named last is given. -/
def settle (reading : Reading) : Except Refusal Reading :=
  match reading.pending with
  | .nothing => .ok reading
  | .waiting _ => .error .valueMissing
  | .filled name value => giveValue { reading with pending := .nothing } name value

/-- An option without a value is named. -/
def takeFlag (reading : Reading) (rule : OptionRule) : Except Refusal Reading := do
  let reading ← reading.settle
  match rule.effect with
  | .help => throw .helpWanted
  | .version => throw .versionWanted
  | _ => reading.giveFlag rule.name

/-- An option is named by a word of its own. -/
def takeLong (rules : List OptionRule) (reading : Reading) (name : String)
    (value : Option String) : Except Refusal Reading :=
  match rules.find? (fun rule => rule.name == name) with
  | none => .error .unknownOption
  | some rule =>
    match rule.effect, value with
    | .value _ _, some value => do
      let reading ← reading.settle
      reading.giveValue name value
    | .value _ _, none => do
      let reading ← reading.settle
      pure { reading with pending := .waiting name }
    | _, some _ => .error .valueUnwanted
    | _, none => reading.takeFlag rule

/-- Options are named by letters. -/
def takeLetters (rules : List OptionRule) (reading : Reading) :
    List Char → Except Refusal Reading
  | [] => .ok reading
  | letter :: rest =>
    match rules.find? (fun rule => rule.letter == some letter) with
    | none => .error .unknownOption
    | some rule => do
      let reading ← reading.takeFlag rule
      reading.takeLetters rules rest

/-- Read the words behind a command, none of which is a command. -/
def takeAll (rules : List OptionRule) : Reading → List Word → Except Refusal Reading
  | reading, [] => reading.settle
  | reading, [.ending] => reading.settle
  | _, .ending :: _ => .error .unknownOption
  | reading, .long name value :: rest => do
    let reading ← reading.takeLong rules name value
    reading.takeAll rules rest
  | reading, .letters letters :: rest => do
    let reading ← reading.takeLetters rules letters
    reading.takeAll rules rest
  | reading, .plain text :: rest =>
    match reading.pending with
    | .waiting name => takeAll rules { reading with pending := .filled name text } rest
    | _ => .error .unknownOption

/-- The value that a variable of the environment gives to an option that has none. -/
def valueOf? (environment : Environment) (reading : Reading) (rule : OptionRule) :
    Option String :=
  match reading.values.lookup rule.name, rule.effect with
  | some value, _ => some value
  | none, .value (some source) _ => environment.value? source
  | none, _ => none

/-- Insist on a value for every option that must have one. -/
def requireAll (environment : Environment) (reading : Reading) (rules : List OptionRule) :
    Except Refusal Unit :=
  if rules.all (fun rule => match rule.effect with
      | .value _ true => (reading.valueOf? environment rule).isSome
      | _ => true) then
    .ok ()
  else
    .error .optionMissing

/-- The values of all options, by name. -/
def allValues (environment : Environment) (reading : Reading) (rules : List OptionRule) :
    List (String × String) :=
  rules.filterMap (fun rule =>
    (reading.valueOf? environment rule).map (fun value => (rule.name, value)))

end Reading

end ChangeTransport.CommandLine
