import Mathlib.Data.Fintype.Basic
import Mathlib.Tactic.FinCases
import ChangeTransport.Json.Token

/-!
# Numerals

A numeral is what a number looks like: digits with a sign before them, a fraction and a power of ten
behind them.  Without fraction and power it stands for an integer, if that fits into 64 bits; every
other numeral stands for a decimal, and for no number if the digits that are kept of it make up more
than a double can hold.

The scanner cannot know that a numeral has ended before it has seen what stands behind it.  Until
then it holds the number back.
-/

namespace ChangeTransport.Json

/-! ## How numbers are written -/

/-- One digit or more. -/
structure Figures where
  first : Fin 10
  others : List (Fin 10)
  deriving Repr, DecidableEq

namespace Figures

/-- The byte of a digit. -/
def byte (digit : Fin 10) : UInt8 := UInt8.ofNat (0x30 + digit.val)

variable (figures : Figures)

/-- All the digits. -/
def digits : List (Fin 10) := figures.first :: figures.others

/-- How digits are written. -/
def bytes : List UInt8 := figures.digits.map byte

/-- The number that digits stand for. -/
def value : Nat := figures.digits.foldl (fun value digit => value * 10 + digit.val) 0

end Figures

/-- A power of ten. -/
structure PowerOfTen where
  capital : Bool
  /-- The sign, if there is one; `true` stands for a minus. -/
  sign : Option Bool
  figures : Figures
  deriving Repr, DecidableEq

/-- How a power of ten is written. -/
def PowerOfTen.bytes (power : PowerOfTen) : List UInt8 :=
  let sign : List UInt8 :=
    match power.sign with
    | none => []
    | some false => [0x2B]
    | some true => [0x2D]
  (if power.capital then 0x45 else 0x65) :: (sign ++ power.figures.bytes)

/-- A number as it is written.  No other digit follows a zero at the front. -/
structure Numeral where
  negative : Bool
  whole : Figures
  canonical : whole.first = 0 → whole.others = []
  fraction : Option Figures
  power : Option PowerOfTen

namespace Numeral

variable (numeral : Numeral)

/-- How a numeral is written. -/
def bytes : List UInt8 :=
  let fraction : List UInt8 :=
    match numeral.fraction with
    | none => []
    | some figures => 0x2E :: figures.bytes
  (if numeral.negative then [0x2D] else []) ++ numeral.whole.bytes ++ fraction ++
    (numeral.power.map PowerOfTen.bytes).getD []

/-- The integer for which a numeral stands, if it is written as one and fits into 64 bits. -/
def integer? : Option Int :=
  if numeral.fraction = none ∧ numeral.power = none then
    if numeral.negative then
      if 0 < numeral.whole.value ∧ numeral.whole.value ≤ 0x8000000000000000 then
        some (-numeral.whole.value)
      else
        none
    else if numeral.whole.value ≤ 0xffffffffffffffff then
      some numeral.whole.value
    else
      none
  else
    none

/-- The digits before the point, as far as they are kept. -/
def keptWhole : Digits :=
  numeral.whole.digits.foldl (fun digits digit => digits.pushWhole digit.val)
    (.start numeral.negative)

/-- The digits before and behind the point, as far as they are kept. -/
def keptFraction : Digits :=
  match numeral.fraction with
  | none => numeral.keptWhole
  | some figures =>
      figures.digits.foldl (fun digits digit => digits.pushFraction digit.val)
        numeral.keptWhole.beginFraction

/-- The digits of a numeral, as far as they are kept. -/
def kept : Digits :=
  match numeral.power with
  | none => numeral.keptFraction
  | some power =>
      power.figures.digits.foldl (fun digits digit => digits.pushPower digit.val)
        (if power.sign = some true then
          { numeral.keptFraction.beginPower with negativePower := true }
        else numeral.keptFraction.beginPower)

/-- Whether the digits that are kept make up more than a double can hold. -/
def exceeds : Bool := exceedsDouble numeral.kept.significand numeral.kept.exponent

/-- The number for which a numeral stands. -/
def meaning : Option Number :=
  match numeral.integer? with
  | some value => some (.integer value)
  | none => if numeral.exceeds then none else some .decimal

end Numeral

/-! ## What the digits add up to -/

theorem roundToDouble_le (value : Nat) : roundToDouble value ≤ 2 * value := by
  unfold roundToDouble
  dsimp only
  split
  · omega
  · rename_i wide
    have small : 1 <<< (value.log2 + 1 - 53) ≤ value := by
      rw [Nat.one_shiftLeft]
      calc 2 ^ (value.log2 + 1 - 53)
          ≤ 2 ^ value.log2 := Nat.pow_le_pow_right (by omega) (by omega)
        _ ≤ value := Nat.log2_self_le (by rintro rfl; exact wide (by decide))
    generalize 1 <<< (value.log2 + 1 - 53) = unit at *
    have below := Nat.div_mul_le_self value unit
    split
    · rw [Nat.add_mul]
      omega
    · omega

/-- No integer of 64 bits is too large for a double. -/
theorem exceedsDouble_zero {significand : Nat} (fits : significand ≤ Digits.greatest) :
    exceedsDouble significand 0 = false := by
  have one : roundToDouble (Nat.pow 10 (0 : Int).toNat) = 1 := by decide
  have rounded := roundToDouble_le significand
  have limit : 2 * Digits.greatest < doubleLimit := by decide
  rw [exceedsDouble, one, Nat.mul_one]
  split
  · rfl
  · rw [if_neg (by omega), decide_eq_false_iff_not]
    omega

namespace Digits

theorem integral_foldl_pushWhole {digits : Digits} (mixed : digits.integral = false)
    (others : List (Fin 10)) :
    (others.foldl (fun digits digit => digits.pushWhole digit.val) digits).integral = false := by
  induction others generalizing digits with
  | nil => exact mixed
  | cons digit others induction =>
      apply induction
      unfold pushWhole
      dsimp only
      split
      · rfl
      · exact mixed

/-- More digits make a number no smaller. -/
theorem le_foldl (others : List (Fin 10)) (value : Nat) :
    value ≤ others.foldl (fun value digit => value * 10 + digit.val) value := by
  induction others generalizing value with
  | nil => exact Nat.le_refl value
  | cons digit others induction =>
      exact Nat.le_trans (by omega) (induction (value * 10 + digit.val))

/-- Digits before the point are kept as long as the number fits into 64 bits. -/
theorem foldl_pushWhole (negative : Bool) (others : List (Fin 10)) {value : Nat}
    (fits : value ≤ greatest) :
    let all := others.foldl (fun digits digit => digits.pushWhole digit.val)
      { start negative with significand := value }
    let total := others.foldl (fun value digit => value * 10 + digit.val) value
    if total ≤ greatest then all = { start negative with significand := total }
    else all.integral = false := by
  induction others generalizing value with
  | nil =>
      dsimp only [List.foldl_nil]
      rw [if_pos fits]
  | cons digit others induction =>
      dsimp only [List.foldl_cons]
      by_cases further : value * 10 + digit.val ≤ greatest
      · have pushed : pushWhole { start negative with significand := value } digit.val =
            { start negative with significand := value * 10 + digit.val } := by
          rw [pushWhole, if_neg]
          simp only [start, Bool.false_eq_true, false_or]
          omega
        rw [pushed]
        exact induction further
      · have grows := le_foldl others (value * 10 + digit.val)
        rw [if_neg (by omega)]
        apply integral_foldl_pushWhole
        rw [pushWhole, if_pos]
        right
        dsimp only
        omega

theorem integral_foldl_pushFraction (digits : Digits) (others : List (Fin 10)) :
    (others.foldl (fun digits digit => digits.pushFraction digit.val) digits).integral =
      digits.integral := by
  induction others generalizing digits with
  | nil => rfl
  | cons digit others induction =>
      rw [List.foldl_cons, induction]
      unfold pushFraction
      split <;> rfl

theorem integral_foldl_pushPower (digits : Digits) (others : List (Fin 10)) :
    (others.foldl (fun digits digit => digits.pushPower digit.val) digits).integral =
      digits.integral := by
  induction others generalizing digits with
  | nil => rfl
  | cons digit others induction => rw [List.foldl_cons, induction]; rfl

end Digits

namespace Numeral

variable (numeral : Numeral)

theorem keptWhole_eq :
    if numeral.whole.value ≤ Digits.greatest then
      numeral.keptWhole = { Digits.start numeral.negative with significand := numeral.whole.value }
    else numeral.keptWhole.integral = false :=
  Digits.foldl_pushWhole numeral.negative numeral.whole.digits (by decide)

theorem integral_kept_of_fraction {figures : Figures} (fraction : numeral.fraction = some figures) :
    numeral.keptFraction.integral = false := by
  rw [keptFraction, fraction]
  exact Digits.integral_foldl_pushFraction _ _

theorem integral_kept_of_power {power : PowerOfTen} (known : numeral.power = some power) :
    numeral.kept.integral = false := by
  rw [kept, known]
  dsimp only
  rw [Digits.integral_foldl_pushPower]
  split <;> rfl

/-- A whole number of 64 bits, of which no digit is dropped. -/
theorem number?_of_keptWhole (fraction : numeral.fraction = none) (power : numeral.power = none)
    (fits : numeral.whole.value ≤ Digits.greatest)
    (known : numeral.kept =
      { Digits.start numeral.negative with significand := numeral.whole.value }) :
    numeral.kept.number? = numeral.meaning := by
  have within : numeral.exceeds = false := by
    rw [exceeds, known]
    exact exceedsDouble_zero fits
  have digits : numeral.kept.number? =
      if numeral.negative then
        if 0 < numeral.whole.value ∧ numeral.whole.value ≤ 0x8000000000000000 then
          some (.integer (-numeral.whole.value))
        else some .decimal
      else some (.integer numeral.whole.value) := by
    rw [known]
    rfl
  have integer : numeral.integer? =
      if numeral.negative then
        if 0 < numeral.whole.value ∧ numeral.whole.value ≤ 0x8000000000000000 then
          some (-(numeral.whole.value : Int))
        else none
      else some (numeral.whole.value : Int) := by
    rw [integer?, if_pos (And.intro fraction power), if_pos (show _ ≤ 0xffffffffffffffff from fits)]
  rw [digits, meaning, integer, within]
  cases numeral.negative with
  | false => rfl
  | true =>
      by_cases range : 0 < numeral.whole.value ∧ numeral.whole.value ≤ 0x8000000000000000
      · simp only [if_pos range, if_true]
      · simp only [if_neg range, if_true]
        rfl

/-- A numeral stands for the number that its digits add up to. -/
theorem number?_kept : numeral.kept.number? = numeral.meaning := by
  have mixed (other : numeral.kept.integral = false) (none : numeral.integer? = none) :
      numeral.kept.number? = numeral.meaning := by
    rw [Digits.number?, meaning, other, none]
    rfl
  cases power : numeral.power with
  | some given =>
      exact mixed (numeral.integral_kept_of_power power) (by simp [integer?, power])
  | none =>
      have kept_eq : numeral.kept = numeral.keptFraction := by
        rw [kept, power]
      cases fraction : numeral.fraction with
      | some figures =>
          exact mixed (by rw [kept_eq, numeral.integral_kept_of_fraction fraction])
            (by simp [integer?, fraction])
      | none =>
          have kept_eq : numeral.kept = numeral.keptWhole := by
            rw [kept_eq, keptFraction, fraction]
          have known := numeral.keptWhole_eq
          by_cases fits : numeral.whole.value ≤ Digits.greatest
          · rw [if_pos fits] at known
            exact numeral.number?_of_keptWhole fraction power fits (kept_eq.trans known)
          · rw [if_neg fits] at known
            apply mixed (by rw [kept_eq, known])
            rw [integer?, if_pos ⟨fraction, power⟩]
            unfold Digits.greatest at fits
            split
            · rw [if_neg (by omega)]
            · rfl

end Numeral

/-! ## How numerals are scanned -/

theorem digit?_byte (digit : Fin 10) : digit? (Figures.byte digit) = some digit.val := by
  decide +revert

/-- A part of a number behind which the number may end. -/
def NumberPart.MayEnd (part : NumberPart) : Prop :=
  part = .zero ∨ part = .whole ∨ part = .fraction ∨ part = .power

namespace Scanner

variable (before : List Token)

/-- Digits that are taken one by one at one part of a number. -/
theorem foldl_step_digits {part : NumberPart} {push : Digits → Nat → Digits}
    (stays : ∀ (digits : Digits) (digit : Fin 10),
      step ⟨before, .number part digits⟩ (Figures.byte digit) =
        ⟨before, .number part (push digits digit.val)⟩)
    (others : List (Fin 10)) (digits : Digits) :
    (others.map Figures.byte).foldl step ⟨before, .number part digits⟩ =
      ⟨before, .number part (others.foldl (fun digits digit => push digits digit.val) digits)⟩ := by
  induction others generalizing digits with
  | nil => rfl
  | cons digit others induction =>
      rw [List.map_cons, List.foldl_cons, List.foldl_cons, stays, induction]

theorem step_whole (digits : Digits) (digit : Fin 10) :
    step ⟨before, .number .whole digits⟩ (Figures.byte digit) =
      ⟨before, .number .whole (digits.pushWhole digit.val)⟩ := by
  simp [step, number, digit?_byte, moveTo]

theorem step_point (digits : Digits) (digit : Fin 10) :
    step ⟨before, .number .point digits⟩ (Figures.byte digit) =
      ⟨before, .number .fraction (digits.pushFraction digit.val)⟩ := by
  simp [step, number, digit?_byte, moveTo]

theorem step_fraction (digits : Digits) (digit : Fin 10) :
    step ⟨before, .number .fraction digits⟩ (Figures.byte digit) =
      ⟨before, .number .fraction (digits.pushFraction digit.val)⟩ := by
  simp [step, number, digit?_byte, moveTo]

theorem step_power (digits : Digits) (digit : Fin 10) :
    step ⟨before, .number .power digits⟩ (Figures.byte digit) =
      ⟨before, .number .power (digits.pushPower digit.val)⟩ := by
  simp [step, number, digit?_byte, moveTo]

theorem step_powerSign (digits : Digits) (digit : Fin 10) :
    step ⟨before, .number .powerSign digits⟩ (Figures.byte digit) =
      ⟨before, .number .power (digits.pushPower digit.val)⟩ := by
  simp [step, number, digit?_byte, moveTo]

theorem step_letter (digits : Digits) (digit : Fin 10) :
    step ⟨before, .number .letter digits⟩ (Figures.byte digit) =
      ⟨before, .number .power (digits.pushPower digit.val)⟩ := by
  have unsigned : Figures.byte digit ≠ 0x2B ∧ Figures.byte digit ≠ 0x2D := by
    decide +revert
  simp [step, number, digit?_byte, moveTo, unsigned]

/-- The first digit of a number, with or without a sign before it. -/
theorem step_first (negative : Bool) (digit : Fin 10) {place : Place}
    (begun : place = .between ∧ negative = false ∨ place = .number .sign (.start negative)) :
    step ⟨before, place⟩ (Figures.byte digit) =
      ⟨before, .number (if digit = 0 then .zero else .whole)
        ((Digits.start negative).pushWhole digit.val)⟩ := by
  rcases begun with ⟨rfl, rfl⟩ | rfl
  · fin_cases digit <;> rfl
  · fin_cases digit <;> rfl

/-- The digits before the point. -/
theorem foldl_step_whole (figures : Figures) (negative : Bool)
    (canonical : figures.first = 0 → figures.others = []) {place : Place}
    (begun : place = .between ∧ negative = false ∨ place = .number .sign (.start negative)) :
    ∃ part : NumberPart, (part = .zero ∨ part = .whole) ∧
      figures.bytes.foldl step ⟨before, place⟩ =
        ⟨before, .number part (figures.digits.foldl
          (fun digits digit => digits.pushWhole digit.val) (.start negative))⟩ := by
  rcases figures with ⟨first, others⟩
  simp only [Figures.bytes, Figures.digits, List.map_cons, List.foldl_cons]
  rw [step_first before negative first begun]
  by_cases zero : first = 0
  · have alone := canonical zero
    dsimp only at alone
    subst alone
    exact ⟨.zero, .inl rfl, by rw [if_pos zero]; rfl⟩
  · refine ⟨.whole, .inr rfl, ?_⟩
    rw [if_neg zero, foldl_step_digits before (step_whole before)]

theorem step_sign :
    step ⟨before, .between⟩ 0x2D = ⟨before, .number .sign (.start true)⟩ := rfl

/-- The digits before the point, with their sign. -/
theorem foldl_step_keptWhole (numeral : Numeral) :
    ∃ part : NumberPart, (part = .zero ∨ part = .whole) ∧
      ((if numeral.negative then [0x2D] else []) ++ numeral.whole.bytes).foldl step
          ⟨before, .between⟩ =
        ⟨before, .number part numeral.keptWhole⟩ := by
  unfold Numeral.keptWhole
  cases numeral.negative with
  | false =>
      exact foldl_step_whole before numeral.whole false numeral.canonical (.inl ⟨rfl, rfl⟩)
  | true =>
      rw [if_pos rfl, List.singleton_append, List.foldl_cons, step_sign]
      exact foldl_step_whole before numeral.whole true numeral.canonical (.inr rfl)

theorem step_begin_fraction {part : NumberPart} (front : part = .zero ∨ part = .whole)
    (digits : Digits) :
    step ⟨before, .number part digits⟩ 0x2E = ⟨before, .number .point digits.beginFraction⟩ := by
  rcases front with rfl | rfl <;> rfl

theorem step_begin_power {part : NumberPart}
    (front : part = .zero ∨ part = .whole ∨ part = .fraction) (digits : Digits)
    (capital : Bool) :
    step ⟨before, .number part digits⟩ (if capital then 0x45 else 0x65) =
      ⟨before, .number .letter digits.beginPower⟩ := by
  rcases front with rfl | rfl | rfl <;> cases capital <;> rfl

/-- A power behind a number. -/
theorem foldl_step_powerOfTen (power : PowerOfTen) {part : NumberPart}
    (front : part = .zero ∨ part = .whole ∨ part = .fraction) (digits : Digits) :
    power.bytes.foldl step ⟨before, .number part digits⟩ =
      ⟨before, .number .power (power.figures.digits.foldl
        (fun digits digit => digits.pushPower digit.val)
        (if power.sign = some true then { digits.beginPower with negativePower := true }
        else digits.beginPower))⟩ := by
  rcases power with ⟨capital, sign, first, others⟩
  simp only [PowerOfTen.bytes, Figures.bytes, Figures.digits, List.map_cons, List.foldl_cons]
  rw [step_begin_power before front]
  rcases sign with _ | _ | _
  · rw [List.nil_append, List.foldl_cons, step_letter,
      foldl_step_digits before (step_power before)]
    rfl
  · have signed : step ⟨before, .number .letter digits.beginPower⟩ 0x2B =
        ⟨before, .number .powerSign digits.beginPower⟩ := rfl
    rw [List.singleton_append, List.foldl_cons, signed, List.foldl_cons, step_powerSign,
      foldl_step_digits before (step_power before)]
    rfl
  · have signed : step ⟨before, .number .letter digits.beginPower⟩ 0x2D =
        ⟨before, .number .powerSign { digits.beginPower with negativePower := true }⟩ := rfl
    rw [List.singleton_append, List.foldl_cons, signed, List.foldl_cons, step_powerSign,
      foldl_step_digits before (step_power before)]
    rfl

/-- The digits before and behind the point. -/
theorem foldl_step_fraction (fraction : Option Figures) {reached : NumberPart}
    (front : reached = .zero ∨ reached = .whole) (digits : Digits) :
    ∃ part : NumberPart, (part = .zero ∨ part = .whole ∨ part = .fraction) ∧
      (match fraction with
        | none => ([] : List UInt8)
        | some figures => 0x2E :: figures.bytes).foldl step ⟨before, .number reached digits⟩ =
        ⟨before, .number part
          (match fraction with
          | none => digits
          | some figures => figures.digits.foldl
              (fun digits digit => digits.pushFraction digit.val) digits.beginFraction)⟩ := by
  cases fraction with
  | none =>
      refine ⟨reached, ?_, rfl⟩
      rcases front with rfl | rfl
      · exact .inl rfl
      · exact .inr (.inl rfl)
  | some figures =>
      refine ⟨.fraction, .inr (.inr rfl), ?_⟩
      rcases figures with ⟨first, others⟩
      dsimp only [Figures.bytes, Figures.digits]
      rw [List.foldl_cons, step_begin_fraction before front, List.map_cons, List.foldl_cons,
        step_point, foldl_step_digits before (step_fraction before), List.foldl_cons]

/-- A numeral leaves the scanner at the end of a number that it does not know to be complete. -/
theorem exists_part_of_numeral (numeral : Numeral) :
    ∃ part, NumberPart.MayEnd part ∧
      numeral.bytes.foldl step ⟨before, .between⟩ = ⟨before, .number part numeral.kept⟩ := by
  rcases foldl_step_keptWhole before numeral with ⟨first, front, scanned⟩
  rcases foldl_step_fraction before numeral.fraction front numeral.keptWhole with
    ⟨part, further, goes⟩
  have upTo : (numeral.bytes).foldl step ⟨before, .between⟩ =
      ((numeral.power.map PowerOfTen.bytes).getD []).foldl step
        ⟨before, .number part numeral.keptFraction⟩ := by
    rw [Numeral.bytes, List.foldl_append, List.foldl_append, scanned, goes, Numeral.keptFraction]
  rw [upTo, Numeral.kept]
  cases numeral.power with
  | none =>
      refine ⟨part, ?_, rfl⟩
      rcases further with rfl | rfl | rfl
      · exact .inl rfl
      · exact .inr (.inl rfl)
      · exact .inr (.inr (.inl rfl))
  | some power =>
      exact ⟨.power, .inr (.inr (.inr rfl)), foldl_step_powerOfTen before power further _⟩

/-- The bytes that may stand within a number. -/
def IsFigure (byte : UInt8) : Prop :=
  (digit? byte).isSome ∨ byte = 0x2E ∨ isPowerLetter byte = true

/-- A byte that cannot belong to a number completes it. -/
theorem step_of_mayEnd {part : NumberPart} (ends : part.MayEnd) (digits : Digits) {byte : UInt8}
    (other : ¬ IsFigure byte) :
    step ⟨before, .number part digits⟩ byte =
      step ⟨.number digits.number? :: before, .between⟩ byte := by
  simp only [IsFigure, not_or, Bool.not_eq_true, Option.isSome_eq_false_iff,
    Option.isNone_iff_eq_none] at other
  rcases other with ⟨digit, point, letter⟩
  rcases ends with rfl | rfl | rfl | rfl <;>
    simp [step, number, digit, point, letter, emit]

/-- The end of the text completes a number. -/
theorem finish_of_mayEnd {part : NumberPart} (ends : part.MayEnd) (digits : Digits) :
    finish ⟨before, .number part digits⟩ = before.reverse ++ [.number digits.number?] := by
  rcases ends with rfl | rfl | rfl | rfl <;> simp [finish, Place.atEnd]

end Scanner

end ChangeTransport.Json
