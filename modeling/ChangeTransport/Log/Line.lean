import ChangeTransport.Json.Quoted
import ChangeTransport.Log.Entry
import ChangeTransport.Text.Quoted

/-!
# Log lines

An entry is written as a line for readers, or as an object for programs.  Neither holds a time.
-/

namespace ChangeTransport.Log

/-- A value in a line. -/
def Value.lineText : Value → String
  | quoted text => Text.quote text
  | shown text => text
  | number value => toString value
  | flag value => if value then "true" else "false"

/-- A field in a line; the one named `message` stands without its name. -/
def fieldText (field : Field) : String :=
  if field.1 = "message" then field.2.lineText else field.1 ++ "=" ++ field.2.lineText

/-- A level in a line, with blanks in front of it so that all levels end in one column. -/
def Level.column (level : Level) : String :=
  String.ofList (List.replicate (5 - level.name.length) ' ') ++ level.name

/-- An entry as a line. -/
def Entry.line (entry : Entry) : String :=
  " ".intercalate (entry.level.column :: entry.allFields.map fieldText)

/-- A value in an object. -/
def Value.objectText : Value → List Char
  | quoted text => Json.quoted text
  | shown text => Json.quoted text
  | number value => (toString value).toList
  | flag value => (if value then "true" else "false").toList

/-- An entry as an object. -/
def Entry.object (entry : Entry) : String :=
  String.ofList
    ("\x7b\"level\":".toList ++ Json.quoted entry.level.name ++ ",\"fields\":\x7b".toList ++
      [','].intercalate
        (entry.allFields.map (fun field => Json.quoted field.1 ++ ':' :: field.2.objectText)) ++
      "\x7d\x7d".toList)

end ChangeTransport.Log
