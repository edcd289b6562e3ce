/-!
# Log entries

An entry has a level, the part of the program that it comes from, perhaps a text, and fields with
names and values.
-/

namespace ChangeTransport.Log

/-- How much an entry matters; the first level matters most. -/
inductive Level where
  | error
  | warn
  | info
  | debug
  | trace
  deriving Repr, DecidableEq

/-- The name of a level. -/
def Level.name : Level → String
  | error => "ERROR"
  | warn => "WARN"
  | info => "INFO"
  | debug => "DEBUG"
  | trace => "TRACE"

/-- How much detail an entry of a level gives. -/
def Level.detail : Level → Nat
  | error => 1
  | warn => 2
  | info => 3
  | debug => 4
  | trace => 5

/-- A part of the program from which entries come. -/
inductive Origin where
  | discovery
  | packages
  | testRun
  | deploy
  /-- What a child process has printed. -/
  | child
  | history
  | hosting
  | progress
  | repository
  | rollback
  | transport
  deriving Repr, DecidableEq

/-- The path by which a part of the program is known to filters. -/
def Origin.path : Origin → String
  | discovery => "gcts_core::aunit::discovery"
  | packages => "gcts_core::aunit::packages"
  | testRun => "gcts_core::aunit::executor"
  | deploy => "gcts_core::deploy"
  | child => "gcts::deploy"
  | history => "gcts_core::history"
  | hosting => "gcts_core::hosting"
  | progress => "gcts_core::observer"
  | repository => "gcts_core::repository"
  | rollback => "gcts_core::rollback"
  | transport => "gcts_core::transport"

/-- The value of a field. -/
inductive Value where
  /-- A text that is put between quotes in a line. -/
  | quoted (text : String)
  /-- A text that stands in a line as it is. -/
  | shown (text : String)
  | number (value : Nat)
  | flag (value : Bool)
  deriving Repr, DecidableEq

/-- A field: its name and its value. -/
abbrev Field := String × Value

/-- A field that holds a text. -/
def Field.shown (name text : String) : Field := (name, .shown text)

/-- A field that holds a truth value. -/
def Field.flag (name : String) (value : Bool) : Field := (name, .flag value)

/-- A field that holds a number. -/
def Field.number (name : String) (value : Nat) : Field := (name, .number value)

/-- An entry. -/
structure Entry where
  level : Level
  origin : Origin
  text : Option String
  fields : List Field
  deriving Repr, DecidableEq

/-- All fields of an entry; its text comes first, under the name `message`. -/
def Entry.allFields (entry : Entry) : List Field :=
  match entry.text with
  | some text => .shown "message" text :: entry.fields
  | none => entry.fields

/-- The fields of an entry in the order of their names. -/
def Entry.sortedFields (entry : Entry) : List Field :=
  entry.allFields.mergeSort (fun first second => first.1 ≤ second.1)

end ChangeTransport.Log
