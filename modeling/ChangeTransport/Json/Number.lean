/-!
# Numbers

What the digits of a number text add up to.  A text without fraction and power stands for an
integer if it fits into 64 bits, signed or unsigned; every other text stands for a decimal, of
which only the magnitude matters here: one that is too large for a double is no number at all.

A decimal keeps as many leading digits as fit into 64 bits.  The digits after those are dropped;
those before the point still count towards the power of ten.
-/

namespace ChangeTransport.Json

/-- A number as far as this library uses it: an integer of at most 64 bits, or anything else. -/
inductive Number where
  | integer (value : Int)
  | decimal
  deriving Repr, DecidableEq

/-- The digits of a number text, read from the left. -/
structure Digits where
  negative : Bool
  /-- The leading digits that fit into 64 bits. -/
  significand : Nat
  /-- The power of ten that belongs to the significand, before the written power. -/
  shift : Int
  /-- Whether digits of the present part are being dropped. -/
  dropping : Bool
  /-- Whether there is neither a fraction nor a power nor a dropped digit. -/
  integral : Bool
  negativePower : Bool
  power : Nat
  deriving Repr, DecidableEq

namespace Digits

/-- No digit yet. -/
def start (negative : Bool) : Digits :=
  ⟨negative, 0, 0, false, true, false, 0⟩

/-- The greatest significand. -/
def greatest : Nat := 0xffffffffffffffff

/-- One more digit before the point. -/
def pushWhole (digits : Digits) (digit : Nat) : Digits :=
  if digits.dropping ∨ greatest < digits.significand * 10 + digit then
    { digits with dropping := true, integral := false, shift := digits.shift + 1 }
  else
    { digits with significand := digits.significand * 10 + digit }

/-- The point. -/
def beginFraction (digits : Digits) : Digits :=
  { digits with dropping := false, integral := false }

/-- One more digit after the point. -/
def pushFraction (digits : Digits) (digit : Nat) : Digits :=
  if digits.dropping ∨ greatest < digits.significand * 10 + digit then
    { digits with dropping := true }
  else
    { digits with
      significand := digits.significand * 10 + digit
      shift := digits.shift - 1 }

/-- The letter that begins the power. -/
def beginPower (digits : Digits) : Digits :=
  { digits with integral := false }

/-- One more digit of the power. -/
def pushPower (digits : Digits) (digit : Nat) : Digits :=
  { digits with power := digits.power * 10 + digit }

/-- The power of ten of the significand, the written power included. -/
def exponent (digits : Digits) : Int :=
  if digits.negativePower then digits.shift - digits.power else digits.shift + digits.power

end Digits

/-- A natural number rounded to 53 binary digits, a half to the even neighbour. -/
def roundToDouble (value : Nat) : Nat :=
  let width := value.log2 + 1
  if width ≤ 53 then
    value
  else
    let unit := 1 <<< (width - 53)
    let quotient := value / unit
    let remainder := value % unit
    if unit < 2 * remainder ∨ (unit = 2 * remainder ∧ quotient % 2 = 1) then
      (quotient + 1) * unit
    else
      quotient * unit

/-- The least product that a double rounds up to infinity. -/
def doubleLimit : Nat := 1 <<< 1024 - 1 <<< 970

/-- Whether a significand times a power of ten is too large for a double. -/
def exceedsDouble (significand : Nat) (exponent : Int) : Bool :=
  if significand = 0 ∨ exponent < 0 then
    false
  else if 308 < exponent then
    true
  else
    doubleLimit ≤ roundToDouble significand * roundToDouble (Nat.pow 10 exponent.toNat)

/-- The number that the digits stand for; none when it is too large for a double. -/
def Digits.number? (digits : Digits) : Option Number :=
  if digits.integral then
    if digits.negative then
      if 0 < digits.significand ∧ digits.significand ≤ 0x8000000000000000 then
        some (.integer (-digits.significand))
      else
        some .decimal
    else
      some (.integer digits.significand)
  else if exceedsDouble digits.significand digits.exponent then
    none
  else
    some .decimal

end ChangeTransport.Json
