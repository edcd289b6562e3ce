import ChangeTransport.Text.Digit

/-!
# Points in time

A point in time is written as a number whose decimal digits are those of year, month, day, hour,
minute and second.  The number is read from the left: the year takes up to four digits and each of
the others up to two, and none must be left.
-/

namespace ChangeTransport

/-- A point in time. -/
structure TimePoint where
  year : Nat
  month : Nat
  day : Nat
  hour : Nat
  minute : Nat
  /-- At most 60, for a second that is inserted. -/
  second : Nat
  deriving Repr, DecidableEq

namespace TimePoint

/-- Whether a year has a day more. -/
def isLeapYear (year : Nat) : Bool :=
  year % 4 == 0 && (year % 100 != 0 || year % 400 == 0)

/-- How many days a month has. -/
def daysInMonth (year month : Nat) : Nat :=
  if month = 2 then
    if isLeapYear year then 29 else 28
  else if month = 4 ∨ month = 6 ∨ month = 9 ∨ month = 11 then
    30
  else
    31

/-- Whether the parts of a point in time are in their ranges. -/
def isValid (time : TimePoint) : Bool :=
  1 ≤ time.month && time.month ≤ 12 && 1 ≤ time.day &&
    time.day ≤ daysInMonth time.year time.month && time.hour ≤ 23 && time.minute ≤ 59 &&
    time.second ≤ 60

/-- The number that at least one and at most `width` digits at the left spell, and the rest. -/
def field? (width : Nat) (digits : List Char) : Option (Nat × List Char) := do
  let front := (digits.take width).takeWhile Text.isDigit
  guard (!front.isEmpty)
  let value ← Text.digitsValue? 10 0 front
  pure (value, digits.drop front.length)

/-- The point in time that a number spells. -/
def ofNumber? (number : Int) : Option TimePoint := do
  let (year, rest) ← field? 4 (toString number).toList
  let (month, rest) ← field? 2 rest
  let (day, rest) ← field? 2 rest
  let (hour, rest) ← field? 2 rest
  let (minute, rest) ← field? 2 rest
  let (second, rest) ← field? 2 rest
  guard rest.isEmpty
  let time : TimePoint := ⟨year, month, day, hour, minute, second⟩
  guard time.isValid
  pure time

/-- A number with zeros in front of it, so that it has at least `width` digits. -/
def padded (width value : Nat) : String :=
  let digits := (toString value).toList
  String.ofList (List.replicate (width - digits.length) '0' ++ digits)

/-- A point in time as text. -/
def text (time : TimePoint) : String :=
  padded 4 time.year ++ "-" ++ padded 2 time.month ++ "-" ++ padded 2 time.day ++ " " ++
    padded 2 time.hour ++ ":" ++ padded 2 time.minute ++ ":" ++ padded 2 time.second

end TimePoint

end ChangeTransport
