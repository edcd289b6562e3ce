import ChangeTransport.Json.Token

/-!
# Scanning goes on

A scanner never takes back a token, and what it does with further bytes depends on nothing but the
place where it stands.  So the tokens of a text whose front ends between two tokens are those of the
front and those of the rest.

A scanner that stands inside a token has something to show for it, sooner or later: only blanks
leave no token behind.
-/

namespace ChangeTransport.Json

namespace Scanner

variable (scanner : Scanner) (front : List Token) (byte : UInt8)

/-! ## What has been read before -/

/-- The scanner with more tokens read before. -/
def after : Scanner := ⟨scanner.before ++ front, scanner.place⟩

theorem emit_after (token : Token) :
    (scanner.after front).emit token = (scanner.emit token).after front := rfl

theorem moveTo_after (place : Place) :
    (scanner.after front).moveTo place = (scanner.moveTo place).after front := rfl

theorem ite_after (condition : Prop) [Decidable condition] (first second : Scanner) :
    (if condition then first else second).after front =
      if condition then first.after front else second.after front :=
  apply_ite (after · front) condition first second

theorem begin_after : (scanner.after front).begin byte = (scanner.begin byte).after front := by
  unfold begin
  simp only [ite_after, emit_after, moveTo_after]
  rcases digit? byte with _ | _ | value <;> rfl

theorem number_after (digits : Digits) (part : NumberPart) :
    (scanner.after front).number digits byte part =
      (scanner.number digits byte part).after front := by
  cases part with
  | sign => rcases known : digit? byte with _ | _ | value <;> simp only [number, known] <;> rfl
  | zero =>
      simp only [number, ite_after, emit_after, begin_after]
      rfl
  | whole =>
      cases known : digit? byte <;>
        simp only [number, known, ite_after, emit_after, begin_after] <;> rfl
  | point => cases known : digit? byte <;> simp only [number, known] <;> rfl
  | fraction =>
      cases known : digit? byte <;>
        simp only [number, known, ite_after, emit_after, begin_after] <;> rfl
  | letter => cases known : digit? byte <;> simp only [number, known, ite_after] <;> rfl
  | powerSign => cases known : digit? byte <;> simp only [number, known] <;> rfl
  | power =>
      cases known : digit? byte <;> simp only [number, known, emit_after, begin_after] <;> rfl

theorem text_after (before : List UInt8) (part : TextPart) :
    (scanner.after front).text before byte part = (scanner.text before byte part).after front := by
  cases part <;> simp only [text, ite_after] <;> rfl

/-- What a scanner does with a byte does not depend on the tokens read before. -/
theorem step_after : (scanner.after front).step byte = (scanner.step byte).after front := by
  rcases scanner with ⟨before, place⟩
  cases place with
  | between => exact begin_after _ _ _
  | word missing token =>
      rcases missing with _ | ⟨expected, missing⟩
      · exact begin_after (emit ⟨before, .word [] token⟩ token) front byte
      · change (if byte = expected then if missing.isEmpty then _ else _ else _) =
          (if byte = expected then if missing.isEmpty then _ else _ else _ : Scanner).after front
        simp only [ite_after]
        rfl
  | number part digits => exact number_after _ _ _ _ _
  | text part inside => exact text_after _ _ _ _ _
  | stopped => rfl

theorem foldl_step_after (bytes : List UInt8) :
    bytes.foldl step (scanner.after front) = (bytes.foldl step scanner).after front := by
  induction bytes generalizing scanner with
  | nil => rfl
  | cons byte bytes induction => rw [List.foldl_cons, step_after, induction, List.foldl_cons]

theorem finish_after : (scanner.after front).finish = front.reverse ++ scanner.finish := by
  unfold finish after
  cases scanner.place.atEnd <;> simp

end Scanner

/-- The tokens of a text that begins with whole tokens. -/
theorem tokens_append {front : List UInt8} {read : List Token}
    (whole : front.foldl Scanner.step .start = ⟨read, .between⟩) (behind : List UInt8) :
    tokens (front ++ behind) = read.reverse ++ tokens behind := by
  have split : (⟨read, .between⟩ : Scanner) = Scanner.start.after read := rfl
  rw [tokens, tokens, List.foldl_append, whole, split, Scanner.foldl_step_after,
    Scanner.finish_after]

/-! ## What a byte does -/

/-- A token that breaks off. -/
def Token.IsBroken (token : Token) : Prop :=
  ∃ fault, token = .broken fault ∨ token = .brokenText fault

namespace Scanner

/-- The ways in which a byte can be taken, unless nothing is read any more. -/
inductive Takes (byte : UInt8) : Scanner → Scanner → Prop where
  | blank {scanner : Scanner} (between : scanner.place = .between) (gap : isGap byte = true) :
      Takes byte scanner scanner
  | moves {scanner : Scanner} {place : Place} (inside : place.atEnd ≠ none) :
      Takes byte scanner (scanner.moveTo place)
  | emits {scanner : Scanner} {token : Token} : Takes byte scanner (scanner.emit token)
  | stops {scanner : Scanner} {token : Token} (broken : token.IsBroken) :
      Takes byte scanner (scanner.stop token)
  /-- A token is complete, and the byte is taken as the first one behind it. -/
  | further {scanner next : Scanner} {token : Token} (taken : Takes byte (scanner.emit token) next) :
      Takes byte scanner next

variable {scanner : Scanner} {byte : UInt8}

theorem takes_ite {condition : Prop} [Decidable condition] {first second : Scanner}
    (left : Takes byte scanner first) (right : Takes byte scanner second) :
    Takes byte scanner (if condition then first else second) := by
  split
  · exact left
  · exact right

theorem takes_malformed : Takes byte scanner (scanner.stop (.broken .malformed)) :=
  .stops ⟨_, .inl rfl⟩

theorem takes_malformedText : Takes byte scanner (scanner.stop (.brokenText .malformed)) :=
  .stops ⟨_, .inr rfl⟩

theorem takes_word (missing : List UInt8) (token : Token) :
    Takes byte scanner (scanner.moveTo (.word missing token)) :=
  .moves (by simp [Place.atEnd])

theorem takes_digits (part : NumberPart) (digits : Digits) :
    Takes byte scanner (scanner.moveTo (.number part digits)) :=
  .moves (by cases part <;> simp [Place.atEnd])

theorem takes_inside (part : TextPart) (before : List UInt8) :
    Takes byte scanner (scanner.moveTo (.text part before)) :=
  .moves (by simp [Place.atEnd])

theorem takes_begin (between : scanner.place = .between) :
    Takes byte scanner (scanner.begin byte) := by
  unfold begin
  by_cases gap : isGap byte = true
  · have same : scanner.moveTo .between = scanner := by
      rw [moveTo, ← between]
    rw [if_pos gap, same]
    exact .blank between gap
  · rw [if_neg gap]
    repeat' apply takes_ite
    case right =>
      split
      · exact takes_digits _ _
      · exact takes_digits _ _
      · exact takes_malformed
    all_goals
      first
      | exact .emits
      | exact takes_word _ _
      | exact takes_digits _ _
      | exact takes_inside _ _

theorem takes_emit_begin (token : Token) :
    Takes byte scanner ((scanner.emit token).begin byte) :=
  .further (takes_begin rfl)

theorem takes_number (digits : Digits) (part : NumberPart) :
    Takes byte scanner (scanner.number digits byte part) := by
  cases part <;> unfold number <;> dsimp only <;> repeat' split
  all_goals
    first
    | exact takes_malformed
    | exact takes_digits _ _
    | exact takes_emit_begin _

theorem takes_text (before : List UInt8) (part : TextPart) :
    Takes byte scanner (scanner.text before byte part) := by
  cases part <;> unfold text <;> dsimp only <;> repeat' split
  all_goals
    first
    | exact .emits
    | exact takes_malformedText
    | exact takes_inside _ _

/-- A byte is taken in one of these ways until nothing is read any more. -/
theorem takes_step (going : scanner.place ≠ .stopped) :
    Takes byte scanner (scanner.step byte) := by
  rcases scanner with ⟨before, place⟩
  cases place with
  | between => exact takes_begin rfl
  | word missing token =>
      rcases missing with _ | ⟨expected, missing⟩
      · exact takes_emit_begin _
      · exact takes_ite (takes_ite .emits (takes_word _ _)) takes_malformed
  | number part digits => exact takes_number _ _
  | text part inside => exact takes_text _ _
  | stopped => exact absurd rfl going

theorem step_of_stopped (stopped : scanner.place = .stopped) : scanner.step byte = scanner := by
  unfold step
  rw [stopped]

/-! ## Only blanks leave no token -/

/-- A scanner that has read a token, or is inside one. -/
def HasToken (scanner : Scanner) : Prop :=
  scanner.before ≠ [] ∨ scanner.place.atEnd ≠ none

theorem HasToken.of_takes {next : Scanner} (shown : scanner.HasToken)
    (taken : Takes byte scanner next) : next.HasToken := by
  induction taken with
  | blank => exact shown
  | moves inside => exact .inr inside
  | emits => exact .inl (List.cons_ne_nil _ _)
  | stops => exact .inl (List.cons_ne_nil _ _)
  | further taken induction => exact induction (.inl (List.cons_ne_nil _ _))

/-- A token that has begun is not lost. -/
theorem HasToken.step (shown : scanner.HasToken) (byte : UInt8) : (scanner.step byte).HasToken := by
  by_cases stopped : scanner.place = .stopped
  · rwa [step_of_stopped stopped]
  · exact shown.of_takes (takes_step stopped)

theorem HasToken.foldl_step (shown : scanner.HasToken) (bytes : List UInt8) :
    (bytes.foldl Scanner.step scanner).HasToken := by
  induction bytes generalizing scanner with
  | nil => exact shown
  | cons byte bytes induction => exact induction (shown.step byte)

theorem HasToken.finish (shown : scanner.HasToken) : scanner.finish ≠ [] := by
  unfold Scanner.finish
  rcases shown with read | inside
  · cases scanner.place.atEnd <;> simp [read]
  · cases known : scanner.place.atEnd with
    | none => exact absurd known inside
    | some token => simp

/-- Every byte but a blank begins a token. -/
theorem hasToken_of_takes {next : Scanner} (taken : Takes byte scanner next)
    (visible : isGap byte = false) : next.HasToken := by
  cases taken with
  | blank between gap =>
      rw [visible] at gap
      cases gap
  | moves inside => exact .inr inside
  | emits => exact .inl (List.cons_ne_nil _ _)
  | stops => exact .inl (List.cons_ne_nil _ _)
  | further taken => exact HasToken.of_takes (.inl (List.cons_ne_nil _ _)) taken

end Scanner

/-- A text without tokens holds nothing but blanks. -/
theorem isGap_of_tokens_eq_nil
    {bytes : List UInt8} (none : tokens bytes = []) : ∀ byte ∈ bytes, isGap byte = true := by
  unfold tokens at none
  induction bytes with
  | nil => simp
  | cons byte bytes induction =>
      cases visible : isGap byte with
      | false =>
          have begun := Scanner.hasToken_of_takes (@Scanner.takes_begin .start byte rfl) visible
          exact absurd none (begun.foldl_step bytes).finish
      | true =>
          have stays : Scanner.step .start byte = .start := by
            simp [Scanner.step, Scanner.start, Scanner.begin, visible, Scanner.moveTo]
          rw [List.foldl_cons, stays] at none
          simpa [visible] using induction none

/-! ## Where reading stops -/

namespace Scanner

variable {scanner : Scanner} {byte : UInt8}

/-- A scanner that reads no more has a broken token to show for it. -/
def StopsBroken (scanner : Scanner) : Prop :=
  scanner.place = .stopped → ∃ token read, scanner.before = token :: read ∧ token.IsBroken

theorem stopsBroken_start : start.StopsBroken := by
  intro stopped
  cases stopped

theorem stopsBroken_of_takes {next : Scanner} (taken : Takes byte scanner next) :
    next.StopsBroken := by
  induction taken with
  | blank between =>
      intro stopped
      rw [between] at stopped
      cases stopped
  | moves inside =>
      rintro rfl
      exact absurd rfl inside
  | emits => exact nofun
  | stops broken => exact fun _ => ⟨_, _, rfl, broken⟩
  | further taken induction => exact induction

theorem StopsBroken.foldl_step (started : scanner.StopsBroken) (bytes : List UInt8) :
    (bytes.foldl Scanner.step scanner).StopsBroken := by
  induction bytes generalizing scanner with
  | nil => exact started
  | cons byte bytes induction =>
      rw [List.foldl_cons]
      by_cases stopped : scanner.place = .stopped
      · rw [step_of_stopped stopped]
        exact induction started
      · exact induction (stopsBroken_of_takes (takes_step stopped))

/-- The end of a text completes a number, or breaks a token off. -/
theorem atEnd_eq_some {place : Place} {token : Token} (shown : place.atEnd = some token) :
    token.IsBroken ∨ ∃ value, token = .number value := by
  cases place with
  | between => cases shown
  | word missing expected =>
      cases shown
      exact .inl ⟨_, .inl rfl⟩
  | number part digits =>
      cases part with
      | zero | whole | fraction | power =>
          cases shown
          exact .inr ⟨_, rfl⟩
      | sign | point | letter | powerSign =>
          cases shown
          exact .inl ⟨_, .inl rfl⟩
  | text part before =>
      cases shown
      exact .inl ⟨_, .inr rfl⟩
  | stopped => cases shown

/-- Where the last token is neither broken nor a number, the scanner stands behind it. -/
theorem eq_between_of_finish {last : Token} {front : List Token}
    (stops : scanner.StopsBroken) (finished : scanner.finish = front ++ [last])
    (whole : ¬ last.IsBroken) (other : ∀ value, last ≠ .number value) :
    scanner = ⟨last :: front.reverse, .between⟩ := by
  have unfinished : scanner.place.atEnd = none := by
    cases shown : scanner.place.atEnd with
    | none => rfl
    | some token =>
        rw [finish, shown] at finished
        have same : token = last := by
          simpa using congrArg List.getLast? finished
        subst same
        rcases atEnd_eq_some shown with broken | ⟨value, number⟩
        · exact absurd broken whole
        · exact absurd number (other value)
  rw [finish, unfinished] at finished
  have read : scanner.before = last :: front.reverse := by
    simpa using congrArg List.reverse finished
  rcases scanner with ⟨before, place⟩
  subst read
  cases place with
  | between => rfl
  | stopped =>
      rcases stops rfl with ⟨token, read, same, broken⟩
      cases same
      exact absurd broken whole
  | word missing token => cases unfinished
  | number part digits => cases part <;> cases unfinished
  | text part before => cases unfinished

end Scanner

end ChangeTransport.Json
