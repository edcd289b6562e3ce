import ChangeTransport.Json.Number
import ChangeTransport.Json.Quoted

/-!
# Tokens

Bytes are cut into tokens by a machine that takes one byte at a time, so that the tokens of a text
begin with those of each of its beginnings.

A value may be read for what it stands for or only passed over, and the two do not refuse the same
texts: what stands between the quotes of a passed text need not be readable, and a number may be
too large.  A token therefore says both whether it has the form of a value and, if it stands for
one, for which.  Where the form itself breaks off, the last token holds the fault of either way.
-/

namespace ChangeTransport.Json

/-- Why a text is refused. -/
inductive Fault where
  /-- A character that cannot stand where it stands. -/
  | malformed
  /-- The text ends before the value does. -/
  | cutShort
  /-- A value of another type, out of range, or given twice. -/
  | mismatch
  deriving Repr, DecidableEq

/-- The text that names a fault. -/
def Fault.message : Fault → String
  | .malformed => "malformed text"
  | .cutShort => "the text ends too early"
  | .mismatch => "a value does not fit its place"

/-- What breaks off: the fault met by reading it, and the fault met by passing over it. -/
structure Break where
  read : Fault
  passed : Fault
  deriving Repr, DecidableEq

/-- A place where no character of this kind can stand. -/
def Break.malformed : Break := ⟨.malformed, .malformed⟩

/-- A place where the text ends too early. -/
def Break.cutShort : Break := ⟨.cutShort, .cutShort⟩

/-- The pieces of which texts consist. -/
inductive Token where
  | openArray
  | closeArray
  | openObject
  | closeObject
  | colon
  | comma
  | null
  | boolean (value : Bool)
  /-- A number; without a value when it is too large. -/
  | number (value : Option Number)
  /-- A text between quotes; without a value when it stands for none. -/
  | text (value : Option String)
  /-- A text between quotes that breaks off. -/
  | brokenText (fault : Break)
  /-- Anything else that breaks off. -/
  | broken (fault : Break)
  deriving Repr, DecidableEq

/-- The parts of a number text, named for what was read last. -/
inductive NumberPart where
  | sign
  | zero
  | whole
  | point
  | fraction
  | letter
  | powerSign
  | power
  deriving Repr, DecidableEq

/-- The parts of a text between quotes. -/
inductive TextPart where
  | plain
  | backslash
  /-- So many hexadecimal digits are still to come; those read stand behind, the last one first. -/
  | unit (missing : Nat) (read : List UInt8)
  deriving Repr, DecidableEq

/-- Where the machine stands between two bytes. -/
inductive Place where
  | between
  | word (missing : List UInt8) (token : Token)
  | number (part : NumberPart) (digits : Digits)
  | text (part : TextPart) (before : List UInt8)
  | stopped
  deriving Repr, DecidableEq

/-- The tokens read so far, the last one first, and the place behind them. -/
structure Scanner where
  before : List Token
  place : Place
  deriving Repr, DecidableEq

namespace Scanner

/-- Nothing read yet. -/
def start : Scanner := ⟨[], .between⟩

/-- A complete token. -/
def emit (scanner : Scanner) (token : Token) : Scanner :=
  ⟨token :: scanner.before, .between⟩

/-- A token that breaks off; nothing is read after it. -/
def stop (scanner : Scanner) (token : Token) : Scanner :=
  ⟨token :: scanner.before, .stopped⟩

/-- The scanner at another place. -/
def moveTo (scanner : Scanner) (place : Place) : Scanner :=
  { scanner with place }

end Scanner

/-- The blanks between tokens. -/
def isGap (byte : UInt8) : Bool :=
  byte == 0x20 || byte == 0x0A || byte == 0x0D || byte == 0x09

/-- The value of a decimal digit. -/
def digit? (byte : UInt8) : Option Nat :=
  if 0x30 ≤ byte ∧ byte ≤ 0x39 then some (byte.toNat - 0x30) else none

/-- Take a byte that stands between two tokens. -/
def Scanner.begin (scanner : Scanner) (byte : UInt8) : Scanner :=
  if isGap byte then scanner.moveTo .between
  else if byte = 0x5B then scanner.emit .openArray
  else if byte = 0x5D then scanner.emit .closeArray
  else if byte = 0x7B then scanner.emit .openObject
  else if byte = 0x7D then scanner.emit .closeObject
  else if byte = 0x3A then scanner.emit .colon
  else if byte = 0x2C then scanner.emit .comma
  else if byte = 0x22 then scanner.moveTo (.text .plain [])
  else if byte = 0x6E then scanner.moveTo (.word [0x75, 0x6C, 0x6C] .null)
  else if byte = 0x74 then scanner.moveTo (.word [0x72, 0x75, 0x65] (.boolean true))
  else if byte = 0x66 then scanner.moveTo (.word [0x61, 0x6C, 0x73, 0x65] (.boolean false))
  else if byte = 0x2D then scanner.moveTo (.number .sign (.start true))
  else
    match digit? byte with
    | some 0 => scanner.moveTo (.number .zero (.start false))
    | some digit => scanner.moveTo (.number .whole ((Digits.start false).pushWhole digit))
    | none => scanner.stop (.broken .malformed)

/-- Whether a byte is the letter before a power of ten. -/
def isPowerLetter (byte : UInt8) : Bool := byte == 0x65 || byte == 0x45

/-- Take a byte that stands directly behind a part of a number. -/
def Scanner.number (scanner : Scanner) (digits : Digits) (byte : UInt8) :
    NumberPart → Scanner
  | .sign =>
    match digit? byte with
    | some 0 => scanner.moveTo (.number .zero digits)
    | some digit => scanner.moveTo (.number .whole (digits.pushWhole digit))
    | none => scanner.stop (.broken .malformed)
  | .zero =>
    if (digit? byte).isSome then scanner.stop (.broken .malformed)
    else if byte = 0x2E then scanner.moveTo (.number .point digits.beginFraction)
    else if isPowerLetter byte then scanner.moveTo (.number .letter digits.beginPower)
    else (scanner.emit (.number digits.number?)).begin byte
  | .whole =>
    match digit? byte with
    | some digit => scanner.moveTo (.number .whole (digits.pushWhole digit))
    | none =>
      if byte = 0x2E then scanner.moveTo (.number .point digits.beginFraction)
      else if isPowerLetter byte then scanner.moveTo (.number .letter digits.beginPower)
      else (scanner.emit (.number digits.number?)).begin byte
  | .point =>
    match digit? byte with
    | some digit => scanner.moveTo (.number .fraction (digits.pushFraction digit))
    | none => scanner.stop (.broken .malformed)
  | .fraction =>
    match digit? byte with
    | some digit => scanner.moveTo (.number .fraction (digits.pushFraction digit))
    | none =>
      if isPowerLetter byte then scanner.moveTo (.number .letter digits.beginPower)
      else (scanner.emit (.number digits.number?)).begin byte
  | .letter =>
    if byte = 0x2B then scanner.moveTo (.number .powerSign digits)
    else if byte = 0x2D then
      scanner.moveTo (.number .powerSign { digits with negativePower := true })
    else
      match digit? byte with
      | some digit => scanner.moveTo (.number .power (digits.pushPower digit))
      | none => scanner.stop (.broken .malformed)
  | .powerSign =>
    match digit? byte with
    | some digit => scanner.moveTo (.number .power (digits.pushPower digit))
    | none => scanner.stop (.broken .malformed)
  | .power =>
    match digit? byte with
    | some digit => scanner.moveTo (.number .power (digits.pushPower digit))
    | none => (scanner.emit (.number digits.number?)).begin byte

/-- Take a byte that stands inside quotes; `before` holds the bytes behind it. -/
def Scanner.text (scanner : Scanner) (before : List UInt8) (byte : UInt8) :
    TextPart → Scanner
  | .plain =>
    if byte = 0x22 then scanner.emit (.text (readQuoted? before.reverse))
    else if byte = 0x5C then scanner.moveTo (.text .backslash (byte :: before))
    else if byte < 0x20 then scanner.stop (.brokenText .malformed)
    else scanner.moveTo (.text .plain (byte :: before))
  | .backslash =>
    if byte = 0x75 then scanner.moveTo (.text (.unit 4 []) (byte :: before))
    else if (escapedByte? byte).isSome then scanner.moveTo (.text .plain (byte :: before))
    else scanner.stop (.brokenText .malformed)
  | .unit missing read =>
    if missing ≤ 1 then
      if (byte :: read).all (fun digit => (Text.hexValue? digit).isSome) then
        scanner.moveTo (.text .plain (byte :: before))
      else
        scanner.stop (.brokenText .malformed)
    else
      scanner.moveTo (.text (.unit (missing - 1) (byte :: read)) (byte :: before))

/-- Take one byte. -/
def Scanner.step (scanner : Scanner) (byte : UInt8) : Scanner :=
  match scanner.place with
  | .between => scanner.begin byte
  | .word [] token => (scanner.emit token).begin byte
  | .word (expected :: missing) token =>
    if byte = expected then
      if missing.isEmpty then scanner.emit token else scanner.moveTo (.word missing token)
    else
      scanner.stop (.broken .malformed)
  | .number part digits => scanner.number digits byte part
  | .text part before => scanner.text before byte part
  | .stopped => scanner

/-- The token that the end of the text leaves unfinished or completes. -/
def Place.atEnd : Place → Option Token
  | .between => none
  | .word _ _ => some (.broken .cutShort)
  | .number part digits =>
    match part with
    | .zero | .whole | .fraction | .power => some (.number digits.number?)
    | .sign | .point | .letter | .powerSign => some (.broken ⟨.cutShort, .malformed⟩)
  | .text _ before =>
    some (.brokenText ⟨if isReadableSoFar before.reverse then .cutShort else .malformed,
      .cutShort⟩)
  | .stopped => none

/-- All tokens, once the text has ended. -/
def Scanner.finish (scanner : Scanner) : List Token :=
  match scanner.place.atEnd with
  | some token => (token :: scanner.before).reverse
  | none => scanner.before.reverse

/-- The tokens of a text. -/
def tokens (bytes : List UInt8) : List Token :=
  (bytes.foldl Scanner.step .start).finish

end ChangeTransport.Json
