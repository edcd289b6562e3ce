import Mathlib.Data.List.TakeWhile
import Mathlib.Data.Option.Basic
import ChangeTransport.History.Transport
import ChangeTransport.Proofs.Text.Digit

/-!
# The time of a pull

A stamp is a number of fourteen digits: four for the year, and two each for month, day, hour, minute
and second, which together are a point in time on the calendar.  Every stamp is read as the point in
time that it spells, and writing that gives the stamp back.

The last field may also have one digit.  A number of thirteen digits is therefore read as if there
were a zero in front of its last digit.  No other number that is not a stamp is read.
-/

namespace ChangeTransport

namespace TimePoint

open Text

/-! ## Stamps -/

/-- A point in time with a date on the calendar and a time of the day. -/
structure IsOnCalendar (time : TimePoint) : Prop where
  month : 1 ≤ time.month ∧ time.month ≤ 12
  day : 1 ≤ time.day ∧ time.day ≤ 31
  short : time.month ∈ [4, 6, 9, 11] → time.day ≤ 30
  february : time.month = 2 → time.day ≤ 29
  leap : time.month = 2 → time.day = 29 → 4 ∣ time.year ∧ (100 ∣ time.year → 400 ∣ time.year)
  hour : time.hour ≤ 23
  minute : time.minute ≤ 59
  second : time.second ≤ 60

/-- The point in time whose parts stand at fixed places: four digits, and then two for each part. -/
def atPlaces (digits : List Char) : TimePoint where
  year := Nat.ofDigitChars 10 (digits.take 4) 0
  month := Nat.ofDigitChars 10 ((digits.drop 4).take 2) 0
  day := Nat.ofDigitChars 10 ((digits.drop 6).take 2) 0
  hour := Nat.ofDigitChars 10 ((digits.drop 8).take 2) 0
  minute := Nat.ofDigitChars 10 ((digits.drop 10).take 2) 0
  second := Nat.ofDigitChars 10 ((digits.drop 12).take 2) 0

/-- Fourteen digits that spell a point in time. -/
structure IsStamp (digits : List Char) : Prop where
  length : digits.length = 14
  each : ∀ digit ∈ digits, isDigit digit = true
  onCalendar : (atPlaces digits).IsOnCalendar

/-- Digits that would be a stamp with a zero in front of the last one. -/
def LacksZero (digits : List Char) : Prop :=
  ∃ front last, digits = front ++ [last] ∧ IsStamp (front ++ ['0', last])

/-- A point in time as a stamp is written. -/
def stamp (time : TimePoint) : String :=
  padded 4 time.year ++ padded 2 time.month ++ padded 2 time.day ++ padded 2 time.hour ++
    padded 2 time.minute ++ padded 2 time.second

theorem isLeapYear_iff {year : Nat} :
    isLeapYear year = true ↔ 4 ∣ year ∧ (100 ∣ year → 400 ∣ year) := by
  simp only [isLeapYear, Bool.and_eq_true, Bool.or_eq_true, beq_iff_eq, bne_iff_ne,
    Nat.dvd_iff_mod_eq_zero, ne_eq, ← imp_iff_not_or]

theorem isValid_iff {time : TimePoint} : time.isValid = true ↔ time.IsOnCalendar := by
  have days : time.day ≤ daysInMonth time.year time.month ↔
      time.day ≤ 31 ∧ (time.month ∈ [4, 6, 9, 11] → time.day ≤ 30) ∧
        (time.month = 2 → time.day ≤ 29) ∧
        (time.month = 2 → time.day = 29 → isLeapYear time.year = true) := by
    simp only [List.mem_cons, List.not_mem_nil, or_false]
    unfold daysInMonth
    cases isLeapYear time.year <;> grind
  rw [isLeapYear_iff] at days
  simp only [isValid, Bool.and_eq_true, decide_eq_true_eq, days]
  constructor
  · rintro ⟨⟨⟨⟨⟨⟨first, last⟩, day⟩, long, short, february, leap⟩, hour⟩, minute⟩, second⟩
    exact ⟨⟨first, last⟩, ⟨day, long⟩, short, february, leap, hour, minute, second⟩
  · rintro ⟨⟨first, last⟩, ⟨day, long⟩, short, february, leap, hour, minute, second⟩
    exact ⟨⟨⟨⟨⟨⟨first, last⟩, day⟩, long, short, february, leap⟩, hour⟩, minute⟩, second⟩

/-! ## Writing -/

theorem toList_padded (width value : Nat) :
    (padded width value).toList =
      List.replicate (width - (Nat.toDigits 10 value).length) '0' ++ Nat.toDigits 10 value := by
  simp only [padded, Nat.toString_eq_repr, Nat.toList_repr, String.toList_ofList]

/-- A number with zeros in front is written with the digits that spell it. -/
theorem toList_padded_ofDigitChars {digits : List Char} (holds : digits ≠ [])
    (each : ∀ digit ∈ digits, isDigit digit = true) :
    (padded digits.length (Nat.ofDigitChars 10 digits 0)).toList = digits := by
  induction digits with
  | nil => exact absurd rfl holds
  | cons digit rest induction =>
      have is := each digit List.mem_cons_self
      have others := fun other member => each other (List.mem_cons_of_mem digit member)
      have range := isDigit_iff.mp is
      have value : 10 * 0 + (digit.toNat - '0'.toNat) = digit.toNat - 48 := by simp
      rw [Nat.ofDigitChars_cons, value, List.length_cons, toList_padded]
      by_cases zero : digit = '0'
      · subst zero
        rcases eq_or_ne rest [] with rfl | more
        · decide
        · have spelled := induction more others
          rw [toList_padded] at spelled
          have length := congrArg List.length spelled
          rw [List.length_append, List.length_replicate] at length
          have further : rest.length + 1 - (Nat.toDigits 10 (Nat.ofDigitChars 10 rest 0)).length =
              rest.length - (Nat.toDigits 10 (Nat.ofDigitChars 10 rest 0)).length + 1 := by
            omega
          have same : '0'.toNat - 48 = 0 := rfl
          rw [same, further, List.replicate_succ, List.cons_append, spelled]
      · have other : digit.toNat ≠ 48 := fun same => zero (Char.toNat_inj.mp same)
        have written := toDigits_ofDigitChars others (digit.toNat - 48) (by omega)
        have single : Nat.toDigits 10 (digit.toNat - 48) = [digit] := by
          rw [Nat.toDigits_of_lt_base (by omega), digitChar_of_isDigit is]
        rw [written, single]
        simp

/-- Fourteen digits are written as they stand. -/
theorem toList_stamp_atPlaces {digits : List Char} (length : digits.length = 14)
    (each : ∀ digit ∈ digits, isDigit digit = true) :
    (stamp (atPlaces digits)).toList = digits := by
  have part (start width : Nat) (positive : 0 < width) (inside : start + width ≤ 14) :
      (padded width (Nat.ofDigitChars 10 ((digits.drop start).take width) 0)).toList =
        (digits.drop start).take width := by
    have size : ((digits.drop start).take width).length = width := by
      rw [List.length_take, List.length_drop, length]
      omega
    have holds : (digits.drop start).take width ≠ [] := by
      rw [← List.length_pos_iff, size]
      exact positive
    have spelled := toList_padded_ofDigitChars holds fun digit member =>
      each digit (List.mem_of_mem_drop (List.mem_of_mem_take member))
    rwa [size] at spelled
  have joined (start : Nat) {next width : Nat} (sum : start + width = next) :
      (digits.drop start).take width ++ digits.drop next = digits.drop start := by
    rw [← sum, ← List.drop_drop]
    exact List.take_append_drop width _
  have front := part 0 4 (by decide) (by decide)
  have last : (digits.drop 12).take 2 = digits.drop 12 :=
    List.take_of_length_le (by simp [length])
  rw [List.drop_zero] at front
  simp only [stamp, atPlaces, String.toList_append, front, part 4 2 (by decide) (by decide),
    part 6 2 (by decide) (by decide), part 8 2 (by decide) (by decide),
    part 10 2 (by decide) (by decide), part 12 2 (by decide) (by decide), List.append_assoc]
  rw [last, joined 10 rfl, joined 8 rfl, joined 6 rfl, joined 4 rfl, List.take_append_drop]

/-! ## Reading -/

/-- A field takes as many digits as it can. -/
theorem field?_eq_some_iff {digits : List Char}
    (each : ∀ digit ∈ digits, isDigit digit = true) {width : Nat} (positive : 0 < width)
    (value : Nat) (rest : List Char) :
    field? width digits = some (value, rest) ↔
      digits ≠ [] ∧ Nat.ofDigitChars 10 (digits.take width) 0 = value ∧
        digits.drop width = rest := by
  have among : ∀ digit ∈ digits.take width, isDigit digit = true :=
    fun digit member => each digit (List.mem_of_mem_take member)
  have front : (digits.take width).takeWhile isDigit = digits.take width :=
    List.takeWhile_eq_self_iff.mpr among
  have left : digits.drop (digits.take width).length = digits.drop width := by
    rw [List.length_take]
    rcases Nat.le_total width digits.length with le | le
    · rw [Nat.min_eq_left le]
    · rw [Nat.min_eq_right le, List.drop_length, List.drop_of_length_le le]
  have nonempty : digits.take width = [] ↔ digits = [] := by
    rw [List.take_eq_nil_iff, or_iff_right (Nat.ne_of_gt positive)]
  unfold field?
  simp only [front, left, digitsValue?_of_isDigit among]
  by_cases empty : digits = []
  · simp [empty]
  · simp [empty, nonempty]

/-- A number is read if the last of the six fields has at least one digit, and none is left. -/
theorem ofNumber?_eq_some_iff_of_digits {number : Int} {digits : List Char}
    (written : (toString number).toList = digits)
    (each : ∀ digit ∈ digits, isDigit digit = true) {time : TimePoint} :
    ofNumber? number = some time ↔
      12 < digits.length ∧ digits.length ≤ 14 ∧ atPlaces digits = time ∧ time.IsOnCalendar := by
  have behind (start : Nat) : ∀ digit ∈ digits.drop start, isDigit digit = true :=
    fun digit member => each digit (List.mem_of_mem_drop member)
  have read (start width : Nat) (positive : 0 < width) (value : Nat) (rest : List Char) :=
    field?_eq_some_iff (behind start) positive value rest
  have first (value : Nat) (rest : List Char) :=
    field?_eq_some_iff each (by decide : 0 < 4) value rest
  have parts : (⟨_, _, _, _, _, _⟩ : TimePoint) = atPlaces digits := rfl
  unfold ofNumber?
  simp only [written, Option.bind_eq_bind, Option.bind_eq_some_iff, Prod.exists, first,
    read _ 2 (by decide), exists_and_left, List.drop_drop, exists_eq_left', and_assoc,
    Option.guard_eq_some', exists_const, Option.pure_def, Option.some.injEq, ne_eq,
    List.drop_eq_nil_iff, List.isEmpty_iff, Nat.not_le]
  rw [parts, isValid_iff]
  constructor
  · rintro ⟨-, -, -, -, -, some, none, valid, rfl⟩
    exact ⟨some, none, rfl, valid⟩
  · rintro ⟨some, none, rfl, valid⟩
    have holds : digits ≠ [] := by
      rintro rfl
      simp at some
    exact ⟨holds, by omega, by omega, by omega, by omega, some, none, valid, rfl⟩

theorem toList_toString_negSucc (size : Nat) :
    (toString (Int.negSucc size)).toList = '-' :: (Nat.repr (size + 1)).toList := by
  change ("-" ++ Nat.repr (size + 1)).toList = _
  rw [String.toList_append]
  rfl

/-- A number with a sign is not read. -/
theorem ofNumber?_of_negative {number : Int} (negative : number < 0) :
    ofNumber? number = none := by
  rcases Int.eq_negSucc_of_lt_zero negative with ⟨size, rfl⟩
  have unread : field? 4 ('-' :: (Nat.repr (size + 1)).toList) = none := by
    have sign : isDigit '-' = false := by decide
    rw [field?, List.take_succ_cons, List.takeWhile_cons_of_neg (by simp [sign])]
    rfl
  rw [ofNumber?, toList_toString_negSucc, unread]
  rfl

theorem toList_toString_ofNat (number : Nat) :
    (toString (number : Int)).toList = Nat.toDigits 10 number :=
  Nat.toList_repr

theorem isDigit_of_mem_toDigits {number : Nat} :
    ∀ digit ∈ Nat.toDigits 10 number, isDigit digit = true := by
  intro digit member
  have known := Nat.isDigit_of_mem_toDigits (by decide) (by decide) member
  simpa [isDigit, Char.isDigit, Char.le_def] using known

/-- The zero that is missing does not change the point in time. -/
theorem atPlaces_concat {front : List Char} (length : front.length = 12) (last : Char) :
    atPlaces (front ++ ['0', last]) = atPlaces (front ++ [last]) := by
  have taken (start width : Nat) (inside : start + width ≤ 12) (back : List Char) :
      ((front ++ back).drop start).take width = (front.drop start).take width := by
    rw [List.drop_append_of_le_length (by omega), List.take_append_of_le_length]
    rw [List.length_drop]
    omega
  have year (back : List Char) : (front ++ back).take 4 = front.take 4 :=
    List.take_append_of_le_length (by omega)
  have left (back : List Char) : (front ++ back).drop 12 = back := by
    rw [← length, List.drop_left]
  have zero : Nat.ofDigitChars 10 ['0', last] 0 = Nat.ofDigitChars 10 [last] 0 := rfl
  simp only [atPlaces, year, left, taken _ 2 (by decide : 4 + 2 ≤ 12),
    taken _ 2 (by decide : 6 + 2 ≤ 12), taken _ 2 (by decide : 8 + 2 ≤ 12),
    taken _ 2 (by decide : 10 + 2 ≤ 12), List.take_succ_cons, List.take_nil, zero]

theorem lacksZero_iff {digits : List Char} :
    LacksZero digits ↔ digits.length = 13 ∧ (∀ digit ∈ digits, isDigit digit = true) ∧
      (atPlaces digits).IsOnCalendar := by
  constructor
  · rintro ⟨front, last, rfl, length, each, onCalendar⟩
    have twelve : front.length = 12 := by simpa using length
    refine ⟨by simp [twelve], ?_, ?_⟩
    · intro digit member
      apply each digit
      rw [List.mem_append] at member ⊢
      exact member.imp_right (List.mem_cons_of_mem _)
    · rwa [atPlaces_concat twelve] at onCalendar
  · rintro ⟨length, each, onCalendar⟩
    rcases digits.eq_nil_or_concat with rfl | ⟨front, last, rfl⟩
    · cases length
    · rw [List.concat_eq_append] at *
      have twelve : front.length = 12 := by simpa using length
      refine ⟨front, last, rfl, by simp [twelve], ?_, ?_⟩
      · have zero : isDigit '0' = true := by decide
        simp only [List.mem_append, List.mem_cons, List.not_mem_nil, or_false] at each ⊢
        rintro digit (among | rfl | rfl)
        · exact each digit (.inl among)
        · exact zero
        · exact each digit (.inr rfl)
      · rwa [atPlaces_concat twelve]

/-- A number is read exactly if it is a stamp, or one without a zero in front of its last digit. -/
theorem ofNumber?_eq_some_iff {number : Int} {time : TimePoint} :
    ofNumber? number = some time ↔
      (IsStamp (toString number).toList ∨ LacksZero (toString number).toList) ∧
        atPlaces (toString number).toList = time := by
  rcases Int.lt_or_le number 0 with negative | unsigned
  · rw [ofNumber?_of_negative negative]
    have sign : '-' ∈ (toString number).toList := by
      rcases Int.eq_negSucc_of_lt_zero negative with ⟨size, rfl⟩
      rw [toList_toString_negSucc]
      exact List.mem_cons_self
    have noDigit : ¬ isDigit '-' = true := by decide
    constructor
    · rintro ⟨⟩
    · rintro ⟨stamp | lacking, -⟩
      · exact absurd (stamp.each '-' sign) noDigit
      · exact absurd ((lacksZero_iff.mp lacking).2.1 '-' sign) noDigit
  · rcases Int.eq_ofNat_of_zero_le unsigned with ⟨size, rfl⟩
    have each : ∀ digit ∈ (toString (size : Int)).toList, isDigit digit = true := by
      rw [toList_toString_ofNat]
      exact isDigit_of_mem_toDigits
    rw [ofNumber?_eq_some_iff_of_digits rfl each, lacksZero_iff]
    constructor
    · rintro ⟨more, most, rfl, onCalendar⟩
      refine ⟨?_, rfl⟩
      rcases Nat.lt_or_eq_of_le most with less | fourteen
      · exact .inr ⟨by omega, each, onCalendar⟩
      · exact .inl ⟨fourteen, each, onCalendar⟩
    · rintro ⟨⟨fourteen, -, onCalendar⟩ | ⟨thirteen, -, onCalendar⟩, rfl⟩
      · exact ⟨by omega, by omega, rfl, onCalendar⟩
      · exact ⟨by omega, by omega, rfl, onCalendar⟩

end TimePoint

namespace TransportEntry

open TimePoint

/--
When a pull has been done is known exactly if its number is a stamp, and the point in time is then
written as that stamp, but for the numbers that lack a zero in front of their last digit: they are
no stamps, and yet a point in time is known, which is written otherwise.
-/
theorem time_misread_exactly_if_zero_lacks (entry : TransportEntry) :
    let digits := (toString entry.checkoutTime).toList
    (¬ LacksZero digits →
      ((∃ time, entry.checkedOutAt? = some time) ↔ IsStamp digits) ∧
      ∀ time, entry.checkedOutAt? = some time →
        time = atPlaces digits ∧ time.IsOnCalendar ∧
          time.stamp = toString entry.checkoutTime) ∧
    (LacksZero digits → ∃ time, entry.checkedOutAt? = some time ∧
      ¬ IsStamp digits ∧ time.stamp ≠ toString entry.checkoutTime) := by
  intro digits
  have read (time : TimePoint) : entry.checkedOutAt? = some time ↔
      (IsStamp digits ∨ LacksZero digits) ∧ atPlaces digits = time := ofNumber?_eq_some_iff
  constructor
  · intro complete
    simp only [read, complete, or_false]
    refine ⟨⟨fun ⟨_, stamp, _⟩ => stamp, fun stamp => ⟨_, stamp, rfl⟩⟩, ?_⟩
    rintro time ⟨stamp, rfl⟩
    refine ⟨rfl, stamp.onCalendar, ?_⟩
    exact String.toList_inj.mp (toList_stamp_atPlaces stamp.length stamp.each)
  · rintro ⟨front, last, written, stamp⟩
    have twelve : front.length = 12 := by simpa using stamp.length
    have thirteen : digits.length = 13 := by rw [written]; simp [twelve]
    refine ⟨_, (read _).mpr ⟨.inr ⟨front, last, written, stamp⟩, rfl⟩, ?_, ?_⟩
    · intro also
      rw [also.length] at thirteen
      cases thirteen
    · intro same
      have spelled := toList_stamp_atPlaces stamp.length stamp.each
      rw [atPlaces_concat twelve, ← written, same] at spelled
      have fourteen := stamp.length
      rw [← spelled, thirteen] at fourteen
      cases fourteen

/-- The last digit of a number of thirteen digits is taken for the seconds. -/
theorem time_known_of_thirteen_digits :
    let entry : TransportEntry := { blank with checkoutTime := 2024111213141 }
    entry.checkedOutAt? = some ⟨2024, 11, 12, 13, 14, 1⟩ ∧
      ¬ IsStamp (toString entry.checkoutTime).toList ∧
      (TimePoint.mk 2024 11 12 13 14 1).stamp = "20241112131401" := by
  intro entry
  refine ⟨by decide +kernel, ?_, by decide +kernel⟩
  intro stamp
  have fourteen := stamp.length
  revert fourteen
  decide +kernel

end TransportEntry

end ChangeTransport
