import Mathlib.Tactic.Common
import ChangeTransport.Text.Digit

/-!
# Decimal digits

Decimal digits spell a number.  Where the first of them is not zero, they are the digits with which
the number is written.
-/

namespace ChangeTransport.Text

theorem isDigit_iff {character : Char} :
    isDigit character = true ↔ 48 ≤ character.toNat ∧ character.toNat ≤ 57 := by
  simp only [isDigit, Bool.and_eq_true, decide_eq_true_eq, Char.le_def, UInt32.le_iff_toNat_le]
  rfl

theorem digitValue?_of_isDigit {character : Char} (digit : isDigit character = true) :
    digitValue? 10 character = some (character.toNat - 48) := by
  have range := isDigit_iff.mp digit
  have inside : '0' ≤ character ∧ character ≤ '9' := by
    simpa [isDigit] using digit
  simp only [digitValue?, inside, and_self, if_true]
  exact Option.filter_eq_some_iff.mpr ⟨rfl, by simp; omega⟩

theorem digitChar_of_isDigit {digit : Char} (is : isDigit digit = true) :
    Nat.digitChar (digit.toNat - 48) = digit := by
  have range := isDigit_iff.mp is
  apply Char.toNat_inj.mp
  rw [Nat.toNat_digitChar_of_lt_ten (by omega)]
  omega

section Digits

variable {digits : List Char} (each : ∀ digit ∈ digits, isDigit digit = true)

include each

theorem digitsValue?_of_isDigit (value : Nat) :
    digitsValue? 10 value digits = some (Nat.ofDigitChars 10 digits value) := by
  induction digits generalizing value with
  | nil => rfl
  | cons digit rest induction =>
      have first := digitValue?_of_isDigit (each digit List.mem_cons_self)
      have others := induction (fun other member => each other (List.mem_cons_of_mem _ member))
        (value * 10 + (digit.toNat - 48))
      rw [digitsValue?, first, Nat.ofDigitChars_cons, Nat.mul_comm 10 value]
      exact others

/-- Digits behind those of a number are the last ones of the number that they all spell. -/
theorem toDigits_ofDigitChars (value : Nat) (positive : 0 < value) :
    Nat.toDigits 10 (Nat.ofDigitChars 10 digits value) = Nat.toDigits 10 value ++ digits := by
  induction digits generalizing value with
  | nil => simp
  | cons digit rest induction =>
      have is := each digit List.mem_cons_self
      have range := isDigit_iff.mp is
      have small : digit.toNat - 48 < 10 := by omega
      have last := Nat.toDigits_append_toDigits (b := 10) (by decide) positive small
      rw [Nat.toDigits_of_lt_base small, digitChar_of_isDigit is] at last
      have others := induction (fun other member => each other (List.mem_cons_of_mem _ member))
        (10 * value + (digit.toNat - 48)) (by omega)
      rw [Nat.ofDigitChars_cons]
      refine others.trans ?_
      rw [← last, List.append_assoc, List.singleton_append]

end Digits

end ChangeTransport.Text
