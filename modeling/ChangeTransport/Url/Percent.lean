import ChangeTransport.Text.Digit
import ChangeTransport.Text.Utf8

/-!
# Percent encoding

A character that may not stand in a part of an address is written as the bytes of its UTF-8 form,
each behind a percent sign.  Every part has its own set of such characters; no character outside
ASCII may stand in any of them.
-/

namespace ChangeTransport.Url

/-- Whether a character is a control of ASCII or lies outside ASCII. -/
def isControl (character : Char) : Bool :=
  character.toNat < 0x20 || 0x7F ≤ character.toNat

/-- The characters that may not stand in a fragment. -/
def isBarredInFragment (character : Char) : Bool :=
  isControl character || character == ' ' || character == '"' || character == '<' ||
    character == '>' || character.toNat == 0x60

/-- The characters that may not stand in a query; a common scheme also bars the apostrophe. -/
def isBarredInQuery (common : Bool) (character : Char) : Bool :=
  isControl character || character == ' ' || character == '"' || character == '#' ||
    character == '<' || character == '>' || (common && character == '\'')

/-- The characters that may not stand in a segment of a path. -/
def isBarredInPath (character : Char) : Bool :=
  isBarredInFragment character || character == '#' || character == '?' ||
    character == '\x7b' || character == '\x7d'

/-- The characters that may not stand in the name or the password of a user. -/
def isBarredInUser (character : Char) : Bool :=
  isBarredInPath character || character == '/' || character == ':' || character == ';' ||
    character == '=' || character == '@' || character == '[' || character == '\\' ||
    character == ']' || character == '^' || character == '|'

/-- A byte behind a percent sign. -/
def escapeByte (byte : UInt8) : List Char :=
  ['%', Text.largeHexDigit (byte.toNat / 16), Text.largeHexDigit (byte.toNat % 16)]

/-- One character where those of a set are barred. -/
def escapeCharacter (barred : Char → Bool) (character : Char) : List Char :=
  if barred character then
    (String.utf8EncodeChar character).flatMap escapeByte
  else
    [character]

/-- Characters where those of a set are barred. -/
def escapeWhere (barred : Char → Bool) (characters : List Char) : List Char :=
  characters.flatMap (escapeCharacter barred)

/--
The bytes for which bytes with percent signs stand; a percent sign without two digits behind it
stands for itself.
-/
def unescapeBytes : List UInt8 → List UInt8
  | 0x25 :: first :: second :: rest =>
    match Text.hexValue? first, Text.hexValue? second with
    | some large, some small => UInt8.ofNat (large * 16 + small) :: unescapeBytes rest
    | _, _ => 0x25 :: unescapeBytes (first :: second :: rest)
  | byte :: rest => byte :: unescapeBytes rest
  | [] => []

/-- The bytes for which characters with percent signs stand. -/
def unescape (characters : List Char) : List UInt8 :=
  unescapeBytes (Text.Utf8.encode characters)

end ChangeTransport.Url
