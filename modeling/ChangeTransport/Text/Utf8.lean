/-!
# UTF-8

Bytes are read as characters by a machine that takes one byte at a time.  It is either between
two characters or inside a sequence whose next byte must lie between two bounds; the bounds rule
out overlong forms, surrogates and values past the last code point.

`decode` refuses ill-formed bytes and says where they stand.  `lossy` puts U+FFFD in the place of
every maximal part that cannot belong to a well-formed sequence.
-/

namespace ChangeTransport.Text.Utf8

/-- A sequence of several bytes of which the last has not been seen. -/
structure Sequence where
  /-- The number that the bytes seen so far spell. -/
  value : Nat
  /-- How many bytes have been seen, the first included. -/
  seen : Nat
  /-- How many bytes are still to come. -/
  missing : Nat
  /-- The least byte that may come next. -/
  least : UInt8
  /-- The greatest byte that may come next. -/
  greatest : UInt8
  deriving Repr, DecidableEq

/-- What a byte means when it stands where a character begins. -/
inductive Lead where
  | whole (character : Char)
  | opens (sequence : Sequence)
  | never
  deriving Repr, DecidableEq

/-- The meaning of a first byte, by the table of well-formed sequences. -/
def lead (byte : UInt8) : Lead :=
  if byte < 0x80 then
    .whole (Char.ofNat byte.toNat)
  else if byte < 0xC2 then
    .never
  else if byte < 0xE0 then
    .opens ⟨byte.toNat % 0x20, 1, 1, 0x80, 0xBF⟩
  else if byte < 0xF0 then
    .opens ⟨byte.toNat % 0x10, 1, 2,
      if byte = 0xE0 then 0xA0 else 0x80,
      if byte = 0xED then 0x9F else 0xBF⟩
  else if byte < 0xF5 then
    .opens ⟨byte.toNat % 0x08, 1, 3,
      if byte = 0xF0 then 0x90 else 0x80,
      if byte = 0xF4 then 0x8F else 0xBF⟩
  else
    .never

/-- What a further byte does to a sequence. -/
inductive Continuation where
  | complete (character : Char)
  | longer (sequence : Sequence)
  | broken
  deriving Repr, DecidableEq

/-- A further byte must lie between the bounds; after it every byte from 80 to BF may follow. -/
def Sequence.continueWith (sequence : Sequence) (byte : UInt8) : Continuation :=
  if sequence.least ≤ byte ∧ byte ≤ sequence.greatest then
    let value := sequence.value * 0x40 + byte.toNat % 0x40
    if sequence.missing ≤ 1 then
      .complete (Char.ofNat value)
    else
      .longer ⟨value, sequence.seen + 1, sequence.missing - 1, 0x80, 0xBF⟩
  else
    .broken

/-- Where bytes stop being well formed. -/
structure Invalid where
  /-- How many bytes before the fault form whole characters. -/
  index : Nat
  /-- How many bytes are at fault; none when the bytes end inside a sequence. -/
  length : Option Nat
  deriving Repr, DecidableEq

/-- The text that names a fault. -/
def Invalid.message (fault : Invalid) : String :=
  match fault.length with
  | some length =>
    "invalid utf-8 sequence of " ++ toString length ++ " bytes from index " ++ toString fault.index
  | none =>
    "incomplete utf-8 byte sequence from index " ++ toString fault.index

/--
Read on from a place where `index` bytes are behind; `before` holds the characters read, the
last one first, and `open?` the sequence that has begun.
-/
def decodeFrom (index : Nat) (before : List Char) :
    Option Sequence → List UInt8 → Except Invalid (List Char)
  | none, [] => .ok before.reverse
  | some sequence, [] => .error ⟨index - sequence.seen, none⟩
  | none, byte :: rest =>
    match lead byte with
    | .whole character => decodeFrom (index + 1) (character :: before) none rest
    | .opens sequence => decodeFrom (index + 1) before (some sequence) rest
    | .never => .error ⟨index, some 1⟩
  | some sequence, byte :: rest =>
    match sequence.continueWith byte with
    | .complete character => decodeFrom (index + 1) (character :: before) none rest
    | .longer sequence => decodeFrom (index + 1) before (some sequence) rest
    | .broken => .error ⟨index - sequence.seen, some sequence.seen⟩

/-- The characters that the bytes spell, or the place of the first fault. -/
def decode (bytes : List UInt8) : Except Invalid (List Char) :=
  decodeFrom 0 [] none bytes

/-- The character that stands for bytes which spell nothing. -/
def replacement : Char := '\uFFFD'

/-- Read one byte between two characters, with a replacement for a byte that begins nothing. -/
def lossyLead (before : List Char) (byte : UInt8) : List Char × Option Sequence :=
  match lead byte with
  | .whole character => (character :: before, none)
  | .opens sequence => (before, some sequence)
  | .never => (replacement :: before, none)

/-- Read on like `decodeFrom`, with one replacement for every part that is at fault. -/
def lossyFrom (before : List Char) : Option Sequence → List UInt8 → List Char
  | none, [] => before.reverse
  | some _, [] => (replacement :: before).reverse
  | none, byte :: rest =>
    let (before, sequence) := lossyLead before byte
    lossyFrom before sequence rest
  | some sequence, byte :: rest =>
    match sequence.continueWith byte with
    | .complete character => lossyFrom (character :: before) none rest
    | .longer sequence => lossyFrom before (some sequence) rest
    | .broken =>
      let (before, sequence) := lossyLead (replacement :: before) byte
      lossyFrom before sequence rest

/-- The characters that the bytes spell, with U+FFFD for what they do not spell. -/
def lossy (bytes : List UInt8) : List Char :=
  lossyFrom [] none bytes

/-- The bytes that spell a list of characters. -/
def encode (characters : List Char) : List UInt8 :=
  characters.flatMap String.utf8EncodeChar

/-- The bytes that spell a text. -/
def ofText (text : String) : List UInt8 :=
  encode text.toList

/-- The text that the bytes spell, or the place of the first fault. -/
def toText (bytes : List UInt8) : Except Invalid String :=
  (decode bytes).map String.ofList

/-- The text that the bytes spell, with U+FFFD for what they do not spell. -/
def toTextLossy (bytes : List UInt8) : String :=
  String.ofList (lossy bytes)

end ChangeTransport.Text.Utf8
