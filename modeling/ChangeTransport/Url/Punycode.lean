import ChangeTransport.Text.Ascii
import ChangeTransport.Text.Digit

/-!
# Punycode

A label of a domain name that holds characters outside ASCII is written with letters, digits and
hyphens: first its ASCII characters, then, behind the last hyphen, one number for every other
character.  The numbers say in ascending order of code points how far to move on through all
places at which a character could be inserted.

A number is written in 36 digits, the least first.  Every place has a threshold below which a digit
is the last one; the thresholds follow a bias that adapts to the numbers seen.
-/

namespace ChangeTransport.Url.Punycode

/-- The digit of a value below 36. -/
def digitOf (value : Nat) : Char :=
  if value < 26 then Char.ofNat (value + 97) else Char.ofNat (value + 22)

/-- The value of a digit. -/
def valueOf? (character : Char) : Option Nat :=
  let character := Text.lowerAscii character
  if 'a' ≤ character ∧ character ≤ 'z' then some (character.toNat - 97)
  else if Text.isDigit character then some (character.toNat - 22)
  else none

/-- The threshold of the digit at a position, which counts on from 36 in steps of 36. -/
def threshold (position bias : Nat) : Nat :=
  if position ≤ bias then 1
  else if bias + 26 ≤ position then 26
  else position - bias

theorem one_le_threshold (position bias : Nat) : 1 ≤ threshold position bias := by
  unfold threshold
  split
  · exact Nat.le_refl 1
  · split <;> omega

/-- Divide a step by 35 until it is at most 455, and count on by 36 each time. -/
def shrink (step count : Nat) : Nat × Nat :=
  if 455 < step then shrink (step / 35) (count + 36) else (step, count)
termination_by step
decreasing_by exact Nat.div_lt_self (by omega) (by omega)

/-- The bias after a step, when that many characters are placed. -/
def adapt (step placed : Nat) (isFirst : Bool) : Nat :=
  let halved := if isFirst then step / 700 else step / 2
  let (small, count) := shrink (halved + halved / placed) 0
  count + 36 * small / (small + 38)

/-! ## Writing -/

/-- The digits of a number, from the given position on. -/
def digits (bias position value : Nat) : List Char :=
  let least := threshold position bias
  if value < least then
    [digitOf value]
  else
    digitOf (least + (value - least) % (36 - least)) ::
      digits bias (position + 36) ((value - least) / (36 - least))
termination_by value
decreasing_by
  have positive := one_le_threshold position bias
  exact Nat.lt_of_le_of_lt (Nat.div_le_self _ _) (by omega)

/-- What has been written of the characters outside ASCII. -/
structure Writer where
  /-- The digits written, the last number first. -/
  before : List (List Char)
  /-- The places passed since the last character. -/
  step : Nat
  bias : Nat
  /-- How many characters are placed. -/
  placed : Nat
  /-- Whether no number has been written. -/
  isFirst : Bool

/-- Pass or place one character of the label, when those of the given code point are placed. -/
def Writer.see (point : Nat) (writer : Writer) (character : Char) : Writer :=
  if character.toNat < point then
    { writer with step := writer.step + 1 }
  else if character.toNat = point then
    { before := digits writer.bias 36 writer.step :: writer.before
      step := 0
      bias := adapt writer.step (writer.placed + 1) writer.isFirst
      placed := writer.placed + 1
      isFirst := false }
  else
    writer

/-- Place the characters of one code point; `next` is the first code point not passed before. -/
def Writer.place (label : List Char) (writer : Writer) (next point : Nat) : Writer :=
  let moved := { writer with step := writer.step + (point - next) * (writer.placed + 1) }
  let placed := label.foldl (Writer.see point) moved
  { placed with step := placed.step + 1 }

/-- Place the characters of every code point of an ascending list. -/
def Writer.placeAll (label : List Char) : Writer → Nat → List Nat → Writer
  | writer, _, [] => writer
  | writer, next, point :: points =>
    Writer.placeAll label (writer.place label next point) (point + 1) points

/-- Whether a character is one of ASCII. -/
def isAscii (character : Char) : Bool := character.toNat < 0x80

/-- The code points outside ASCII in a label, in ascending order, each once. -/
def pointsOutside (label : List Char) : List Nat :=
  ((label.filter (fun character => !isAscii character)).map Char.toNat).mergeSort.eraseDups

/-- A label without the mark that it is encoded. -/
def encode (label : List Char) : List Char :=
  let plain := label.filter isAscii
  let writer := Writer.placeAll label ⟨[], 0, 72, plain.length, true⟩ 0x80 (pointsOutside label)
  plain ++ (if plain.isEmpty then [] else ['-']) ++ writer.before.reverse.flatten

/-! ## Reading -/

/-- A label of which the characters outside ASCII are being read. -/
structure Reader where
  label : List Char
  /-- The code point of the last character placed. -/
  point : Nat
  /-- The place behind the last character placed, and what the present number adds to it. -/
  place : Nat
  /-- The place at which the present number begins. -/
  start : Nat
  bias : Nat
  weight : Nat
  position : Nat

/-- Nothing read behind the ASCII characters. -/
def Reader.begin (plain : List Char) : Reader :=
  ⟨plain, 0x80, 0, 0, 72, 1, 36⟩

/-- The number has ended: place a character. -/
def Reader.insert? (reader : Reader) (place : Nat) : Option Reader :=
  let count := reader.label.length + 1
  let point := reader.point + place / count
  let place := place % count
  if valid : point.isValidChar then
    some
      { label := reader.label.take place ++ Char.ofNatAux point valid :: reader.label.drop place
        point
        place := place + 1
        start := place + 1
        bias := adapt (reader.place - reader.start) count (reader.start == 0)
        weight := 1
        position := 36 }
  else
    none

/-- Read one digit. -/
def Reader.read? (reader : Reader) (character : Char) : Option Reader := do
  let value ← valueOf? character
  let place := reader.place + value * reader.weight
  let least := threshold reader.position reader.bias
  if value < least then
    Reader.insert? { reader with place } place
  else
    pure
      { reader with
        place
        weight := reader.weight * (36 - least)
        position := reader.position + 36 }

/-- Whether a character is not a hyphen. -/
def isNoHyphen (character : Char) : Bool := character != '-'

/-- What stands before the last hyphen, if there is one. -/
def plainPart (encoded : List Char) : List Char :=
  ((encoded.reverse.dropWhile isNoHyphen).drop 1).reverse

/-- The digits: what stands behind the last hyphen, or everything if nothing stands before it. -/
def digitPart (encoded : List Char) : List Char :=
  if (plainPart encoded).isEmpty then
    encoded
  else
    (encoded.reverse.takeWhile isNoHyphen).reverse

/-- The label for which an encoded label without its mark stands. -/
def decode? (encoded : List Char) : Option (List Char) := do
  let plain := plainPart encoded
  guard (plain.all isAscii)
  let reader ← (digitPart encoded).foldlM Reader.read? (Reader.begin plain)
  guard (reader.position = 36)
  pure reader.label

end ChangeTransport.Url.Punycode
