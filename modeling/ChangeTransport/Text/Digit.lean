/-!
# Digits

The digits of a number in a radix of at most sixteen, and the values for which they stand.
-/

namespace ChangeTransport.Text

/-- One hexadecimal digit, written small. -/
def hexDigit (value : Nat) : Char :=
  if value < 10 then Char.ofNat (value + 48) else Char.ofNat (value + 87)

/-- One hexadecimal digit, written large. -/
def largeHexDigit (value : Nat) : Char :=
  if value < 10 then Char.ofNat (value + 48) else Char.ofNat (value + 55)

/-- The hexadecimal digits of a number, the last one first, at most `digits` of them. -/
def hexReversed : (digits : Nat) → Nat → List Char
  | 0, _ => []
  | digits + 1, value =>
    hexDigit (value % 16) :: if value < 16 then [] else hexReversed digits (value / 16)

/-- The hexadecimal digits of a code point, without leading zeros. -/
def hexOfPoint (point : Nat) : List Char :=
  (hexReversed 8 point).reverse

/-- The value of a hexadecimal digit, of either case, given by its byte. -/
def hexValue? (byte : UInt8) : Option Nat :=
  if 0x30 ≤ byte ∧ byte ≤ 0x39 then some (byte.toNat - 0x30)
  else if 0x41 ≤ byte ∧ byte ≤ 0x46 then some (byte.toNat - 0x37)
  else if 0x61 ≤ byte ∧ byte ≤ 0x66 then some (byte.toNat - 0x57)
  else none

/-- The value of a digit in a radix of at most sixteen. -/
def digitValue? (radix : Nat) (character : Char) : Option Nat :=
  let value? : Option Nat :=
    if '0' ≤ character ∧ character ≤ '9' then some (character.toNat - 48)
    else if 'a' ≤ character ∧ character ≤ 'f' then some (character.toNat - 87)
    else if 'A' ≤ character ∧ character ≤ 'F' then some (character.toNat - 55)
    else none
  value?.filter (fun value => value < radix)

/-- The value of digits behind those that add up to `value`. -/
def digitsValue? (radix value : Nat) : List Char → Option Nat
  | [] => some value
  | character :: rest => do
    let digit ← digitValue? radix character
    digitsValue? radix (value * radix + digit) rest

/-- Whether a character is one of the ten digits of ASCII. -/
def isDigit (character : Char) : Bool :=
  '0' ≤ character && character ≤ '9'

end ChangeTransport.Text
