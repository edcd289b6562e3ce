import ChangeTransport.Text.Blank
import ChangeTransport.Text.Lines
import ChangeTransport.Text.Utf8

/-!
# Child processes

A child process is started from a path with a list of words.  It may not start at all, for a reason
that the files on the path decide; if it starts, it prints bytes on two channels and ends with a
status from 0 to 255.
-/

namespace ChangeTransport.Child

/-! ## Starting -/

/-- What stands at a place in the tree of files. -/
inductive Place where
  | folder
  /-- A file that cannot be run. -/
  | document
  deriving Repr, DecidableEq

/-- The folders and documents that every machine has, by their paths without the first slash. -/
def commonPlaces : List (String × Place) :=
  [ ("", .folder), ("bin", .folder), ("dev", .folder), ("etc", .folder), ("home", .folder),
    ("lib", .folder), ("opt", .folder), ("proc", .folder), ("root", .folder), ("run", .folder),
    ("sbin", .folder), ("sys", .folder), ("tmp", .folder), ("usr", .folder), ("var", .folder),
    ("usr/bin", .folder), ("usr/lib", .folder), ("usr/local", .folder), ("usr/share", .folder),
    ("var/log", .folder), ("var/tmp", .folder), ("dev/null", .document), ("dev/zero", .document),
    ("etc/group", .document), ("etc/hostname", .document), ("etc/hosts", .document),
    ("etc/passwd", .document), ("etc/shadow", .document) ]

/-- What stands at a path below the root; the parts of the path have no slashes. -/
def placeAt? (parts : List String) : Option Place :=
  commonPlaces.lookup ("/".intercalate parts)

/-- Why a path does not lead to a program. -/
inductive Obstacle where
  | missing
  | denied
  | notFolder
  | nameTooLong
  | zeroByte
  deriving Repr, DecidableEq

/-- The text that names an obstacle. -/
def Obstacle.message : Obstacle → String
  | .missing => "No such file or directory (os error 2)"
  | .denied => "Permission denied (os error 13)"
  | .notFolder => "Not a directory (os error 20)"
  | .nameTooLong => "File name too long (os error 36)"
  | .zeroByte => "nul byte found in provided data"

/-- Walk down the tree of files; `before` is the path so far, the last part first. -/
def obstacleFrom (before : List String) : List String → Obstacle
  | [] => .denied
  | part :: rest =>
    if 255 < part.utf8ByteSize then
      .nameTooLong
    else
      let path :=
        if part = "" ∨ part = "." then before
        else if part = ".." then before.tail
        else part :: before
      match placeAt? path.reverse with
      | none => .missing
      | some .folder => obstacleFrom path rest
      | some .document => if rest.isEmpty then .denied else .notFolder

/-- Why a path that leads to no program cannot be started with the given words. -/
def obstacle (path : String) (words : List String) : Obstacle :=
  if (path :: words).any (fun word => word.toList.contains '\x00') then
    .zeroByte
  else if 4095 < path.utf8ByteSize then
    .nameTooLong
  else
    match Text.piecesAt '/' path.toList with
    | [] :: first :: parts => obstacleFrom [] ((first :: parts).map String.ofList)
    | [name] =>
      if name = ['.'] ∨ name = ['.', '.'] then .denied
      else if 255 < path.utf8ByteSize then .nameTooLong
      else .missing
    | parts =>
      if parts.any (fun part => 255 < (String.ofList part).utf8ByteSize) then .nameTooLong
      else if parts.all (fun part => part.isEmpty || part == ['.'] || part == ['.', '.']) then
        .denied
      else .missing

/-! ## Ending -/

/-- How a child process has ended. -/
structure Exit where
  status : Nat
  /-- What it has printed as its result. -/
  output : List UInt8
  /-- What it has printed about its errors. -/
  complaint : List UInt8
  deriving Repr, DecidableEq

namespace Exit

/-- Whether a process has ended well. -/
def isSuccess (exit : Exit) : Bool := exit.status % 256 == 0

/-- The lines that a process has printed. -/
def printed (exit : Exit) : List String :=
  Text.lines (Text.Utf8.toTextLossy exit.output)

/-- The end of a process as text: its status and its complaint. -/
def text (exit : Exit) : String :=
  "exit status: " ++ toString (exit.status % 256) ++ " (" ++
    Text.trimBlanks (Text.Utf8.toTextLossy exit.complaint) ++ ")"

end Exit

end ChangeTransport.Child
