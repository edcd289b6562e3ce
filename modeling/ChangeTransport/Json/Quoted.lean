import ChangeTransport.Text.Digit
import ChangeTransport.Text.Utf8

/-!
# Texts between quotes

Writing puts a backslash before the quote and the backslash, names the common controls by a
letter and writes every other control by its number.  Reading takes what stands between the quotes
and gives the text back; it also says how far an unfinished text can be read.
-/

namespace ChangeTransport.Json

/-- How one character stands between quotes. -/
def escape (character : Char) : List Char :=
  match character with
  | '"' => ['\\', '"']
  | '\\' => ['\\', '\\']
  | '\x08' => ['\\', 'b']
  | '\x0c' => ['\\', 'f']
  | '\n' => ['\\', 'n']
  | '\r' => ['\\', 'r']
  | '\t' => ['\\', 't']
  | _ =>
    if character.toNat < 0x20 then
      ['\\', 'u', '0', '0', Text.hexDigit (character.toNat / 16),
        Text.hexDigit (character.toNat % 16)]
    else
      [character]

/-- A text between quotes. -/
def quoted (text : String) : List Char :=
  '"' :: (text.toList.flatMap escape ++ ['"'])

/-- The value of four hexadecimal digits. -/
def hexUnit? (first second third fourth : UInt8) : Option Nat := do
  let first ← Text.hexValue? first
  let second ← Text.hexValue? second
  let third ← Text.hexValue? third
  let fourth ← Text.hexValue? fourth
  pure (((first * 16 + second) * 16 + third) * 16 + fourth)

/-- The byte that a letter after a backslash stands for. -/
def escapedByte? (byte : UInt8) : Option UInt8 :=
  if byte = 0x22 ∨ byte = 0x5C ∨ byte = 0x2F then some byte
  else if byte = 0x62 then some 0x08
  else if byte = 0x66 then some 0x0C
  else if byte = 0x6E then some 0x0A
  else if byte = 0x72 then some 0x0D
  else if byte = 0x74 then some 0x09
  else none

/-- Whether a unit is the first of a pair. -/
def isLeadingUnit (unit : Nat) : Bool := 0xD800 ≤ unit && unit ≤ 0xDBFF

/-- Whether a unit is the second of a pair. -/
def isTrailingUnit (unit : Nat) : Bool := 0xDC00 ≤ unit && unit ≤ 0xDFFF

/-- The character that a pair of units stands for. -/
def pairCharacter (leading trailing : Nat) : Char :=
  Char.ofNat ((leading - 0xD800) * 0x400 + (trailing - 0xDC00) + 0x10000)

/-- What reading the inside of quotes comes to. -/
inductive Contents where
  /-- The bytes for which it stands, the last one first. -/
  | bytes (before : List UInt8)
  /-- The text ends inside an escape. -/
  | unfinished
  /-- An escape that stands for nothing. -/
  | unreadable
  deriving Repr, DecidableEq

/-- Add the bytes of a character to those read. -/
def pushCharacter (before : List UInt8) (character : Char) : List UInt8 :=
  (String.utf8EncodeChar character).reverse ++ before

/--
Read the inside of quotes.  A unit that is the first of a pair needs the second directly behind it,
and neither can stand alone.
-/
def readContents (before : List UInt8) : List UInt8 → Contents
  | [] => .bytes before
  | 0x5C :: [] => .unfinished
  | 0x5C :: 0x75 :: first :: second :: third :: fourth :: rest =>
    match hexUnit? first second third fourth with
    | none => .unreadable
    | some unit =>
      if isTrailingUnit unit then
        .unreadable
      else if isLeadingUnit unit then
        match rest with
        | [] => .unfinished
        | 0x5C :: [] => .unfinished
        | 0x5C :: 0x75 :: first :: second :: third :: fourth :: rest =>
          match hexUnit? first second third fourth with
          | none => .unreadable
          | some trailing =>
            if isTrailingUnit trailing then
              readContents (pushCharacter before (pairCharacter unit trailing)) rest
            else
              .unreadable
        | 0x5C :: 0x75 :: _ => .unfinished
        | _ => .unreadable
      else
        readContents (pushCharacter before (Char.ofNat unit)) rest
  | 0x5C :: 0x75 :: _ => .unfinished
  | 0x5C :: letter :: rest =>
    match escapedByte? letter with
    | none => .unreadable
    | some byte => readContents (byte :: before) rest
  | byte :: rest => readContents (byte :: before) rest

/-- The text that stands between quotes; none when it stands for no text. -/
def readQuoted? (inside : List UInt8) : Option String :=
  match readContents [] inside with
  | .bytes before =>
    match Text.Utf8.toText before.reverse with
    | .ok text => some text
    | .error _ => none
  | _ => none

/-- Whether the inside of quotes that are never closed can be read up to its end. -/
def isReadableSoFar (inside : List UInt8) : Bool :=
  match readContents [] inside with
  | .unreadable => false
  | _ => true

end ChangeTransport.Json
