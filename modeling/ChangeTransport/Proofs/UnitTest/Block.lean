import ChangeTransport.Proofs.UnitTest.Trial

/-!
# Blocks of events

Of a package it is reported that its tests begin.  If they come to a result, every method of it is
reported, in the order of the result, and then the package with what its methods have come to.  The
events about one package make a block.
-/

namespace ChangeTransport

namespace Event

/-- Whether an event tells of a method. -/
def isOfMethod : Event → Bool
  | methodResult _ _ => true
  | _ => false

/-- Whether an event tells of a method that has not passed. -/
def isFailure : Event → Bool
  | methodResult _ outcome => !outcome.passed
  | _ => false

end Event

/-- What is reported of a verdict: every method, and then the package. -/
def PackageVerdict.events (verdict : PackageVerdict) : List Event :=
  verdict.methods.map (.methodResult verdict.package) ++ [.packageFinished verdict]

/-- A package of which is reported, and the outcomes of its methods if there is a result. -/
structure Block where
  package : String
  outcomes : Option (List MethodOutcome)

namespace Block

/-- What is reported behind the beginning of the tests. -/
def results (block : Block) : List Event :=
  match block.outcomes with
  | some outcomes => PackageVerdict.events ⟨block.package, outcomes⟩
  | none => []

/-- The events of a block. -/
def events (block : Block) : List Event := .packageStarted block.package :: block.results

/-- Whether a block tells of a result. -/
def isComplete (block : Block) : Bool := block.outcomes.isSome

/-- How many methods a block reports as not passed. -/
def failures (block : Block) : Nat := block.events.countP Event.isFailure

theorem failures_of_outcomes (package : String) (outcomes : List MethodOutcome) :
    failures ⟨package, some outcomes⟩ = PackageVerdict.failedMethods ⟨package, outcomes⟩ := by
  simp [failures, events, results, PackageVerdict.events, Event.isFailure, List.countP_map,
    Function.comp_def, PackageVerdict.failedMethods, ← List.countP_eq_length_filter]

theorem countP_isOfMethod_of_outcomes (package : String) (outcomes : List MethodOutcome) :
    (events ⟨package, some outcomes⟩).countP Event.isOfMethod = outcomes.length := by
  simp [events, results, PackageVerdict.events, Event.isOfMethod, List.countP_map,
    Function.comp_def]

/-- The package is reported with as many failures as methods have been reported as not passed. -/
theorem finished_of_mem {block : Block} {verdict : PackageVerdict}
    (reported : .packageFinished verdict ∈ block.events) :
    verdict.package = block.package ∧ verdict.failedMethods = block.failures ∧
      verdict.passed = decide (block.failures = 0) := by
  rcases block with ⟨package, _ | outcomes⟩
  · simp [events, results] at reported
  · have same : verdict = ⟨package, outcomes⟩ := by
      simpa [events, results, PackageVerdict.events] using reported
    subst same
    rw [failures_of_outcomes]
    exact ⟨rfl, rfl, rfl⟩

end Block

namespace Trial

/-- What is reported of a trial. -/
def block (trial : Trial) : Block := ⟨trial.package, trial.result.toOption.map RunResult.outcomes⟩

theorem failures_block_read (package : String) (result : RunResult) :
    (block ⟨package, .ok result⟩).failures = result.failures :=
  (Block.failures_of_outcomes package result.outcomes).trans (result.failedMethods_verdict package)

/-- A trial has passed exactly if its block is complete and without failures. -/
theorem passed_iff_block {trial : Trial} :
    trial.passed = true ↔ trial.block.isComplete = true ∧ trial.block.failures = 0 := by
  rcases trial with ⟨package, error | result⟩
  · simp [passed, block, Block.isComplete, Except.toOption]
  · rw [passed_read, failures_block_read]
    simp [block, Block.isComplete, Except.toOption]

/-- Tests have failed exactly if the block is complete and has failures. -/
theorem verdict_eq_unitTestsFailed_iff
    {trial : Trial} {package : String} {failed : Nat}
    (unread : trial.result ≠ .error (.unitTestsFailed package failed)) :
    trial.verdict = .error (.unitTestsFailed package failed) ↔
      trial.block.package = package ∧ trial.block.isComplete = true ∧
        trial.block.failures = failed ∧ 0 < failed := by
  rw [verdict_eq_error_iff]
  constructor
  · rintro (ended | ⟨result, read, positive, equal⟩)
    · exact absurd ended unread
    · rcases trial with ⟨name, ended⟩
      cases read
      cases equal
      exact ⟨rfl, rfl, failures_block_read _ result, positive⟩
  · rcases trial with ⟨name, error | result⟩
    · rintro ⟨-, impossible, -⟩
      cases impossible
    · rintro ⟨rfl, -, rfl, positive⟩
      rw [failures_block_read] at positive ⊢
      exact .inr ⟨result, rfl, positive, rfl⟩

/-! ## What is reported in the course of trials -/

/-- What is reported of trials that are made one after the other. -/
def reported (trials : List Trial) : List Event := ((made trials).map block).flatMap Block.events

@[simp]
theorem reported_nil : reported [] = [] := rfl

theorem reported_cons (trial : Trial) (rest : List Trial) :
    reported (trial :: rest) =
      trial.block.events ++ if trial.passed then reported rest else [] := by
  rw [reported, made]
  cases trial.passed <;> simp [reported]

/-- The methods of a summary are those that have been reported. -/
theorem countP_isOfMethod_reported
    {trials : List Trial} {verdicts : List PackageVerdict}
    (passed : trials.mapM verdict = .ok verdicts) :
    (reported trials).countP Event.isOfMethod =
      (verdicts.flatMap PackageVerdict.methods).length := by
  rw [mapM_eq_ok_iff] at passed
  induction trials generalizing verdicts with
  | nil =>
      cases verdicts with
      | nil => rfl
      | cons verdict verdicts => cases passed
  | cons first rest induction =>
      cases verdicts with
      | nil => cases passed
      | cons verdict verdicts =>
          rcases List.cons.inj passed with ⟨known, others⟩
          rcases verdict_eq_ok_iff.mp known with ⟨result, read, -, made⟩
          have counted : first.block.events.countP Event.isOfMethod = verdict.methods.length := by
            rw [block, read, ← made]
            exact Block.countP_isOfMethod_of_outcomes first.package result.outcomes
          rw [reported_cons, if_pos (passed_iff_verdict.mpr ⟨verdict, known⟩), List.countP_append,
            counted, induction others, List.flatMap_cons, List.length_append]

end Trial

end ChangeTransport
