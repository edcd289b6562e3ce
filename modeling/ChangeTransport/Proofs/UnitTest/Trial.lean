import ChangeTransport.Error
import ChangeTransport.Proofs.Checks
import ChangeTransport.Proofs.UnitTest.Verdict

/-!
# Trials of packages

A package makes a trial: it has passed if its result can be read and no method of it has raised an
alert.  A list of trials comes to the verdicts on all packages, or ends with an error at the first
trial that has not passed.
-/

namespace ChangeTransport

/-- A package, and what the answer to the request for its tests says. -/
structure Trial where
  package : String
  result : Except Error RunResult

namespace Trial

/-- Whether the tests go on behind a trial. -/
def passed (trial : Trial) : Bool :=
  match trial.result with
  | .ok result => result.methods.all fun method => method.alerts.isEmpty
  | .error _ => false

/-- The verdict that a trial adds to the summary, or the error with which the tests end. -/
def verdict (trial : Trial) : Except Error PackageVerdict :=
  match trial.result with
  | .ok result =>
      if result.failures = 0 then .ok (result.verdict trial.package)
      else .error (.unitTestsFailed trial.package result.failures)
  | .error error => .error error

theorem passed_read (package : String) (result : RunResult) :
    Trial.passed ⟨package, .ok result⟩ = (result.failures == 0) := by
  rw [Bool.eq_iff_iff, beq_iff_eq, RunResult.failures_eq_zero_iff]
  simp [passed]

variable {trial : Trial}

theorem passed_iff :
    trial.passed = true ↔ ∃ result, trial.result = .ok result ∧ result.failures = 0 := by
  rcases trial with ⟨package, error | result⟩
  · simp [passed]
  · simp [passed_read]

theorem verdict_eq_ok_iff {verdict : PackageVerdict} :
    trial.verdict = .ok verdict ↔
      ∃ result, trial.result = .ok result ∧ result.failures = 0 ∧
        result.verdict trial.package = verdict := by
  rcases trial with ⟨package, error | result⟩
  · simp [Trial.verdict]
  · by_cases clean : result.failures = 0 <;> simp [Trial.verdict, clean]

theorem verdict_eq_error_iff {error : Error} :
    trial.verdict = .error error ↔
      trial.result = .error error ∨
        ∃ result, trial.result = .ok result ∧ 1 ≤ result.failures ∧
          .unitTestsFailed trial.package result.failures = error := by
  rcases trial with ⟨package, cause | result⟩
  · simp [Trial.verdict]
  · by_cases clean : result.failures = 0
    · simp [Trial.verdict, clean]
    · simp [Trial.verdict, clean, Nat.one_le_iff_ne_zero]

theorem passed_iff_verdict :
    trial.passed = true ↔ ∃ verdict, trial.verdict = .ok verdict := by
  simp only [passed_iff, verdict_eq_ok_iff]
  constructor
  · rintro ⟨result, read, clean⟩
    exact ⟨_, result, read, clean, rfl⟩
  · rintro ⟨verdict, result, read, clean, made⟩
    exact ⟨result, read, clean⟩

/-- The trials end with an error at the first of them that has not passed. -/
theorem mapM_verdict_eq_error_iff {trials : List Trial} {error : Error} :
    trials.mapM verdict = .error error ↔
      ∃ (index : Nat) (trial : Trial), trials[index]? = some trial ∧
        (∀ earlier < index, ∃ trial, trials[earlier]? = some trial ∧ trial.passed = true) ∧
        trial.verdict = .error error := by
  simp only [mapM_eq_error_iff, passed_iff_verdict]
  constructor
  · rintro ⟨index, trial, here, ended, before⟩
    refine ⟨index, trial, here, ?_, ended⟩
    intro earlier less
    rcases before earlier less with ⟨passed, verdict, found, known⟩
    exact ⟨passed, found, verdict, known⟩
  · rintro ⟨index, trial, here, before, ended⟩
    refine ⟨index, trial, here, ended, ?_⟩
    intro earlier less
    rcases before earlier less with ⟨passed, found, verdict, known⟩
    exact ⟨passed, verdict, found, known⟩

/-! ## Trials that are made -/

/-- The trials that are made: those up to and including the first that has not passed. -/
def made : List Trial → List Trial
  | [] => []
  | trial :: rest => trial :: if trial.passed then made rest else []

theorem made_prefix (trials : List Trial) : made trials <+: trials := by
  induction trials with
  | nil => exact List.prefix_rfl
  | cons trial rest induction =>
      unfold made
      split
      · exact (List.prefix_cons_inj trial).mpr induction
      · exact (List.prefix_cons_inj trial).mpr List.nil_prefix

/-- Behind a trial that has not passed none is made. -/
theorem passed_of_mem_dropLast_made {trials : List Trial} :
    ∀ trial ∈ (made trials).dropLast, trial.passed = true := by
  induction trials with
  | nil =>
      intro trial impossible
      cases impossible
  | cons first rest induction =>
      intro trial among
      cases success : first.passed with
      | false =>
          rw [made, success] at among
          cases among
      | true =>
          rw [made, if_pos success] at among
          cases others : made rest with
          | nil =>
              rw [others] at among
              cases among
          | cons second later =>
              rw [others, List.dropLast_cons_cons, ← others] at among
              cases among with
              | head => exact success
              | tail _ among => exact induction trial among

/-- The trials end with the error of the last one that is made. -/
theorem mapM_verdict_eq_error_iff_getLast? {trials : List Trial} {error : Error} :
    trials.mapM verdict = .error error ↔
      ∃ trial, (made trials).getLast? = some trial ∧ trial.verdict = .error error := by
  induction trials with
  | nil => simp [made, pure, Except.pure]
  | cons first rest induction =>
      rw [List.mapM_cons, made]
      cases checked : first.verdict with
      | error cause =>
          have failed : first.passed = false := by
            rw [← Bool.not_eq_true, passed_iff_verdict, checked]
            rintro ⟨verdict, impossible⟩
            cases impossible
          rw [error_bind, failed]
          simp [checked]
      | ok value =>
          have success : first.passed = true := passed_iff_verdict.mpr ⟨value, checked⟩
          have step : (do return value :: (← rest.mapM verdict)) = Except.error error ↔
              rest.mapM verdict = .error error := by
            cases rest.mapM verdict <;> simp [pure, Except.pure]
          rw [ok_bind, if_pos success, step, induction]
          cases others : made rest with
          | nil => simp [checked]
          | cons second later => simp

end Trial

end ChangeTransport
