import ChangeTransport.Text.Blank
import ChangeTransport.Url.Host
import ChangeTransport.Url.Path

/-!
# Addresses

An address has a scheme, an authority or none, a path, and perhaps a query and a fragment.
Reading brings every part into its normal form, so that the text of an address is the same however
it was written.

The common schemes always have a host and a path of at least one segment, and take a backslash for
a slash.  The scheme of files has a path and sometimes a host.  Every other scheme may have a path
without segments, which is taken as it is.
-/

namespace ChangeTransport.Url

/-- The port that belongs to a common scheme. -/
def defaultPort? (scheme : List Char) : Option Nat :=
  if scheme = "http".toList ∨ scheme = "ws".toList then some 80
  else if scheme = "https".toList ∨ scheme = "wss".toList then some 443
  else if scheme = "ftp".toList then some 21
  else none

/-- What the scheme says about the parts behind it. -/
inductive Kind where
  | common
  | file
  | other
  deriving Repr, DecidableEq

/-- The kind of a scheme. -/
def Kind.ofScheme (scheme : List Char) : Kind :=
  if (defaultPort? scheme).isSome then .common
  else if scheme = "file".toList then .file
  else .other

/-- A character that stands between the segments of a path. -/
def Kind.isSlash (kind : Kind) (character : Char) : Bool :=
  character == '/' || (kind != .other && character == '\\')

/-- Whether a character cannot stand in an authority. -/
def Kind.endsAuthority (kind : Kind) (character : Char) : Bool :=
  kind.isSlash character || character == '?' || character == '#'

/-- The user named in an authority, with the characters that are barred there escaped. -/
structure User where
  name : List Char
  password : List Char
  deriving Repr, DecidableEq

/-- A user who is not named. -/
def User.nobody : User := ⟨[], []⟩

/-- The user whose name and password stand at the two sides of the first colon. -/
def User.read (characters : List Char) : User :=
  ⟨escapeWhere isBarredInUser (characters.takeWhile (fun character => character != ':')),
    escapeWhere isBarredInUser
      ((characters.dropWhile (fun character => character != ':')).drop 1)⟩

/-- A user as text, with the sign behind it. -/
def User.text (user : User) : List Char :=
  if user.name.isEmpty && user.password.isEmpty then
    []
  else
    user.name ++ (if user.password.isEmpty then [] else ':' :: user.password) ++ ['@']

/-- Whom and what an address is about. -/
structure Authority where
  user : User
  host : Option Host
  /-- The port, if it is not the one of the scheme. -/
  port : Option Nat
  deriving Repr, DecidableEq

/-- The authority of an address that names nobody and nothing. -/
def Authority.none : Authority := ⟨.nobody, Option.none, Option.none⟩

/-- An authority as text. -/
def Authority.text (authority : Authority) : List Char :=
  authority.user.text ++
    (match authority.host with
      | some host => host.text
      | Option.none => []) ++
    (match authority.port with
      | some port => ':' :: (toString port).toList
      | Option.none => [])

/-- The path of an address. -/
inductive Path where
  | segments (parts : List (List Char))
  /-- A path that does not begin with a slash and has no segments. -/
  | plain (characters : List Char)
  deriving Repr, DecidableEq

/-- A path as text. -/
def Path.text : Path → List Char
  | .segments parts => segmentsText parts
  | .plain characters => characters

end ChangeTransport.Url

namespace ChangeTransport

/-- An address in its normal form. -/
structure Url where
  scheme : List Char
  authority : Option Url.Authority
  path : Url.Path
  query : Option (List Char)
  fragment : Option (List Char)
  deriving Repr, DecidableEq

namespace Url

/-- The host of an address. -/
def host? (url : Url) : Option Host :=
  url.authority.bind Authority.host

/-- The path of an address as text. -/
def pathText (url : Url) : List Char := url.path.text

/-- A path behind a scheme: without an authority it must not look like one. -/
def behindScheme (authority : Option Authority) (path : List Char) : List Char :=
  match authority with
  | some authority => '/' :: '/' :: (authority.text ++ path)
  | none => if "//".toList.isPrefixOf path then '/' :: '.' :: path else path

/-- An address as text. -/
def text (url : Url) : String :=
  String.ofList
    (url.scheme ++ ':' :: behindScheme url.authority url.pathText ++
      (match url.query with
        | some query => '?' :: query
        | none => []) ++
      (match url.fragment with
        | some fragment => '#' :: fragment
        | none => []))

/-- An address that names no user. -/
def withoutUser (url : Url) : Url :=
  { url with authority := url.authority.map fun authority => { authority with user := .nobody } }

/-! ## Reading -/

/-- Whether a character is dropped at the ends of a text. -/
def isOuterBlank (character : Char) : Bool := character.toNat ≤ 0x20

/-- Whether a character is dropped wherever it stands. -/
def isBreak (character : Char) : Bool :=
  character == '\t' || character == '\n' || character == '\r'

/-- The characters of a text that count. -/
def clean (text : String) : List Char :=
  (Text.stripWhere isOuterBlank text.toList).filter (fun character => !isBreak character)

/-- Whether a character may stand in a scheme. -/
def isOfScheme (character : Char) : Bool :=
  isLetter character || Text.isDigit character || character == '+' || character == '-' ||
    character == '.'

/-- The scheme of a text, in small letters, and what stands behind its colon. -/
def scheme? (characters : List Char) : Option (List Char × List Char) :=
  match characters.span isOfScheme with
  | (first :: others, ':' :: rest) =>
    if isLetter first then some ((first :: others).map Text.lowerAscii, rest) else none
  | _ => none

/-- A text cut where its query begins, and the query and the fragment. -/
structure Tail where
  before : List Char
  query : Option (List Char)
  fragment : Option (List Char)
  deriving Repr, DecidableEq

/-- What stands behind the path. -/
def Tail.read (kind : Kind) (characters : List Char) : Tail :=
  let (before, fragment) := characters.span (fun character => character != '#')
  let (path, query) := before.span (fun character => character != '?')
  { before := path
    query :=
      match query with
      | _ :: rest => some (escapeWhere (isBarredInQuery (kind != .other)) rest)
      | [] => none
    fragment :=
      match fragment with
      | _ :: rest => some (escapeWhere isBarredInFragment rest)
      | [] => none }

/-- A path without the slash in front of it. -/
def withoutSlash (kind : Kind) : List Char → List Char
  | first :: rest => if kind.isSlash first then rest else first :: rest
  | [] => []

/-- The authority cut at the last `@`: the user, if there is one, and what stands behind. -/
def cutUser (characters : List Char) : Option (List Char) × List Char :=
  let (reversed, before) := characters.reverse.span (fun character => character != '@')
  match before with
  | _ :: user => (some user.reverse, reversed.reverse)
  | [] => (none, characters)

/-- A host cut at the first colon outside brackets; the colon stays with the port. -/
def cutPort (inBrackets : Bool) : List Char → List Char × List Char
  | [] => ([], [])
  | character :: rest =>
    if character == ':' && !inBrackets then
      ([], character :: rest)
    else
      let inBrackets :=
        if character == '[' then true else if character == ']' then false else inBrackets
      let (host, port) := cutPort inBrackets rest
      (character :: host, port)

/-- The port behind a colon, and what stands behind its digits, which can only be a backslash. -/
def readPort (default : Option Nat) : List Char → Except Fault (Option Nat × List Char)
  | [] => .ok (none, [])
  | _ :: rest =>
    let (digits, behind) := rest.span Text.isDigit
    match behind with
    | [] | '\\' :: _ =>
      match Text.digitsValue? 10 0 digits with
      | some port =>
        if 65535 < port then .error .badPort
        else if digits.isEmpty ∨ some port = default then .ok (none, behind)
        else .ok (some port, behind)
      | none => .error .badPort
    | _ => .error .badPort

/-- The host in an authority. -/
def readHost (kind : Kind) (characters port : List Char) : Except Fault (Option Host) :=
  match kind with
  | .other => do
    let host ← Host.ofOther? characters
    if host.isNone ∧ !port.isEmpty then throw .emptyHost else pure host
  | _ => if characters.isEmpty then .error .emptyHost else (Host.ofCommon characters).map some

/-- The authority in front of a path, and the characters of it that belong to the path. -/
def readAuthority (scheme characters path : List Char) :
    Except Fault (Authority × List Char) := do
  let kind := Kind.ofScheme scheme
  let (user?, rest) := cutUser characters
  if user? = some [] ∧ rest.isEmpty ∧ !path.isEmpty then throw .emptyHost
  let user := (user?.map User.read).getD .nobody
  let (host, port) := cutPort false rest
  let host ← readHost kind host port
  let (port, behind) ← readPort (defaultPort? scheme) port
  if host.isNone ∧ !user.text.isEmpty then throw .emptyHost
  pure (⟨user, host, port⟩, behind)

/-- Read what stands behind the slashes of a scheme that is not the one of files. -/
def readBehindSlashes (scheme characters : List Char) : Except Fault Url := do
  let kind := Kind.ofScheme scheme
  let (front, rest) := characters.span (fun character => !kind.endsAuthority character)
  let (authority, behind) ← readAuthority scheme front rest
  let tail := Tail.read kind (behind ++ rest)
  let path :=
    if kind = .other ∧ tail.before.isEmpty then
      []
    else
      normalSegments kind.isSlash (withoutSlash kind tail.before)
  pure ⟨scheme, some authority, .segments path, tail.query, tail.fragment⟩

/-- Read what stands behind a scheme that is not common and has no two slashes behind it. -/
def readPlain (scheme characters : List Char) : Url :=
  let tail := Tail.read .other characters
  let path :=
    match tail.before with
    | '/' :: rest => Path.segments (normalSegments (Kind.isSlash .other) rest)
    | characters => Path.plain (escapeWhere isControl characters)
  ⟨scheme, none, path, tail.query, tail.fragment⟩

/-- The host of a file: none if it is a drive, which belongs to the path, or this machine. -/
def readFileHost (characters : List Char) : Except Fault (Option Host) :=
  if characters.isEmpty ∨ isDrive characters then
    .ok none
  else do
    let host ← Host.ofCommon characters
    pure (if host = .name "localhost".toList then none else some host)

/-- The address of a file with the given host and the given text behind it. -/
def ofFile (scheme : List Char) (host : Option Host) (characters : List Char) : Url :=
  let tail := Tail.read .file characters
  let segments := normalFileSegments (Kind.isSlash .file) (withoutSlash .file tail.before)
  let host := if beginsWithDrive segments then none else host
  ⟨scheme, some ⟨.nobody, host, none⟩, .segments (withoutEmptyFront segments), tail.query,
    tail.fragment⟩

/-- Read what stands behind the scheme of files. -/
def readFile (scheme characters : List Char) : Except Fault Url :=
  match characters with
  | first :: second :: rest =>
    if Kind.isSlash .file first && Kind.isSlash .file second then do
      let (host, path) := rest.span (fun character => !Kind.endsAuthority .file character)
      let path := if isDrive host then rest else path
      pure (ofFile scheme (← readFileHost host) path)
    else
      .ok (ofFile scheme none characters)
  | _ => .ok (ofFile scheme none characters)

/-- Read what stands behind a scheme. -/
def readBehindScheme (scheme characters : List Char) : Except Fault Url :=
  match Kind.ofScheme scheme with
  | .common => readBehindSlashes scheme (characters.dropWhile (Kind.isSlash .common))
  | .file => readFile scheme characters
  | .other =>
    match characters with
    | '/' :: '/' :: rest => readBehindSlashes scheme rest
    | _ => .ok (readPlain scheme characters)

/-- The address that a text spells. -/
def parse (text : String) : Except Fault Url :=
  match scheme? (clean text) with
  | some (scheme, rest) => readBehindScheme scheme rest
  | none => .error .relative

end Url

end ChangeTransport
