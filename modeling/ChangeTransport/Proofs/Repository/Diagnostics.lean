import Mathlib.Logic.Relation
import ChangeTransport.Proofs.Json.Telling
import ChangeTransport.Repository.Clone

/-!
# What diagnostics say

Two things in the diagnostics of an answer decide what is made of it: whether an entry of the log of
errors has a code, and whether the exception has a message.  Both are told here by the value that
has been read.  It does not matter in what order it tells them, what else it logs, and whether the
exception is a text or a record.
-/

namespace ChangeTransport

open Json

/-- Where two lists correspond, what is equivalent of their items is of their having one. -/
theorem exists_mem_iff_of_forall₂ {α β : Type} {relation : α → β → Prop} {p : α → Prop}
    {q : β → Prop} (same : ∀ first second, relation first second → (p first ↔ q second))
    {items : List α} {others : List β} (each : List.Forall₂ relation items others) :
    (∃ other ∈ others, q other) ↔ ∃ item ∈ items, p item := by
  induction each with
  | nil => simp
  | cons first rest induction =>
      rw [List.exists_mem_cons_iff, List.exists_mem_cons_iff, same _ _ first, induction]

/-! ## Entries and exceptions -/

namespace SystemEntry

theorem shows_code : Shows code "code" Decoder.text 6 fields := by
  iterate 6 refine .later ⟨by decide, Field.spares_of fun _ _ => rfl⟩ ?_
  exact .here (fun _ _ => rfl) (List.forall_mem_nil _)

/-- A value is an entry with a code. -/
def HasCode (code : String) (outline : Outline) : Prop := HoldsText "code" 6 code outline

end SystemEntry

namespace SystemException

theorem shows_message : Shows message "message" Decoder.text 0 fields := by
  refine .here (fun _ _ => rfl) ?_
  iterate 2 refine List.forall_mem_cons.mpr ⟨⟨by decide, Field.spares_of fun _ _ => rfl⟩, ?_⟩
  exact List.forall_mem_nil _

/-- A value is an exception with a message: the message alone, an object or an array of fields. -/
def HasMessage (message : String) (outline : Outline) : Prop :=
  outline = .text (some message) ∨ HoldsText "message" 0 message outline

theorem hasMessage_text_iff {message text : String} :
    HasMessage message (.text (some text)) ↔ text = message := by
  simp [HasMessage, HoldsText]

theorem hasMessage_object_iff {message : String} {members : List (String × Outline)} :
    HasMessage message (.object (.ofList members)) ↔
      .text (some message) ∈ named "message" members := by
  rw [HasMessage, or_iff_right nofun, mem_named]
  constructor
  · rintro (⟨others, same, told⟩ | ⟨items, impossible, -⟩)
    · rwa [Members.ofList_injective (Outline.object.inj same)]
    · cases impossible
  · exact fun told => .inl ⟨members, rfl, told⟩

theorem exists_keptDecoder_eq_ok {setting : Setting} {outline : Outline}
    {exception? : Option SystemException} (read : decoder setting outline = .ok exception?)
    (there : outline ≠ .null) :
    ∃ exception, exception? = some exception ∧
      keptDecoder setting.kept outline = .ok exception := by
  rw [decoder] at read
  · rcases exists_of_bind_eq_ok read with ⟨_, -, read⟩
    cases kept : keptDecoder setting.kept outline with
    | error fault =>
        rw [kept] at read
        cases read
    | ok exception =>
        rw [kept] at read
        exact ⟨exception, (Except.ok.inj read).symm, rfl⟩
  · exact there

/-- An exception that is read has the message that its value has. -/
theorem map_message_eq_some_iff {setting : Setting} {outline : Outline}
    {exception? : Option SystemException} (read : decoder setting outline = .ok exception?)
    {text : String} (other : text ≠ "") :
    exception?.map message = some text ↔ HasMessage text outline := by
  cases outline with
  | null =>
      cases read
      simp [HasMessage, HoldsText]
  | text given =>
      rcases exists_keptDecoder_eq_ok read nofun with ⟨exception, rfl, kept⟩
      cases given with
      | none => cases kept
      | some given =>
          cases kept
          rw [hasMessage_text_iff, Option.map_some, Option.some.injEq]
          rfl
  | array items =>
      rcases exists_keptDecoder_eq_ok read nofun with ⟨exception, rfl, kept⟩
      have asRecord : Decoder.record fields (ofMessage "") setting.kept (.array items) =
          .ok exception := kept
      rw [HasMessage, or_iff_right nofun, ← shows_message.view_record_iff asRecord other,
        Option.map_some, Option.some.injEq]
  | object members =>
      rcases exists_keptDecoder_eq_ok read nofun with ⟨exception, rfl, kept⟩
      have asRecord : Decoder.record fields (ofMessage "") setting.kept (.object members) =
          .ok exception := kept
      rw [HasMessage, or_iff_right nofun, ← shows_message.view_record_iff asRecord other,
        Option.map_some, Option.some.injEq]
  | _ =>
      rcases exists_keptDecoder_eq_ok read nofun with ⟨exception, rfl, kept⟩
      cases kept

end SystemException

namespace Diagnostics

theorem shows_errorLog :
    Shows errorLog "errorLog" (Decoder.list SystemEntry.decoder) 1 fields := by
  refine .later ⟨by decide, Field.spares_of fun _ _ => rfl⟩ (.here (fun _ _ => rfl) ?_)
  refine List.forall_mem_cons.mpr ⟨⟨by decide, Field.spares_of fun _ _ => rfl⟩, ?_⟩
  exact List.forall_mem_nil _

theorem shows_exception : Shows exception "exception" SystemException.decoder 2 fields := by
  iterate 2 refine .later ⟨by decide, Field.spares_of fun _ _ => rfl⟩ ?_
  exact .here (fun _ _ => rfl) (List.forall_mem_nil _)

/-- A value is a log of which an entry has a code. -/
def HasEntry (code : String) (outline : Outline) : Prop :=
  ∃ items, outline = .array (.ofList items) ∧ ∃ item ∈ items, SystemEntry.HasCode code item

theorem hasEntry_array_iff {code : String} {items : List Outline} :
    HasEntry code (.array (.ofList items)) ↔ ∃ item ∈ items, SystemEntry.HasCode code item := by
  constructor
  · rintro ⟨others, same, has⟩
    cases Items.ofList_injective (Outline.array.inj same)
    exact has
  · exact fun has => ⟨items, rfl, has⟩

/-- A value logs an error with a code. -/
def LogsCode (code : String) : Outline → Prop := Tells "errorLog" (HasEntry code)

/-- A value raises an exception with a message. -/
def Raises (message : String) : Outline → Prop :=
  Tells "exception" (SystemException.HasMessage message)

variable {setting : Setting} {outline : Outline} {diagnostics : Diagnostics}
  (read : mergedDecoder setting outline = .ok diagnostics)

include read

/-- A code is in the log of errors that is read exactly if the value logs it. -/
theorem exists_code_iff_logsCode {code : String} (other : code ≠ "") :
    (∃ entry ∈ diagnostics.errorLog, entry.code = code) ↔ LogsCode code outline := by
  rcases Decoder.exists_fillKept_of_merged read with ⟨inner, members, rfl, filled⟩
  rw [LogsCode, tells_ofList_iff]
  rcases shows_errorLog.view_fillKept filled with ⟨none, still⟩ | ⟨value, told, known, -⟩
  · rw [none, still]
    simp [blank]
  · rcases Decoder.exists_forall₂_of_list known with ⟨inside, items, rfl, each⟩
    have alike (item : Outline) (entry : SystemEntry)
        (entryRead : SystemEntry.decoder inside item = .ok entry) :
        SystemEntry.HasCode code item ↔ entry.code = code :=
      (SystemEntry.shows_code.view_record_iff entryRead other).symm
    rw [exists_mem_iff_of_forall₂ alike each, told, ← hasEntry_array_iff]
    simp

/-- The exception that is read has a message exactly if the value raises it. -/
theorem map_message_eq_some_iff_raises {message : String} (other : message ≠ "") :
    diagnostics.exception.map SystemException.message = some message ↔
      Raises message outline := by
  rcases Decoder.exists_fillKept_of_merged read with ⟨inner, members, rfl, filled⟩
  rw [Raises, tells_ofList_iff]
  rcases shows_exception.view_fillKept filled with ⟨none, still⟩ | ⟨value, told, known, -⟩
  · rw [none, still]
    simp [blank]
  · rw [told, SystemException.map_message_eq_some_iff known other]
    simp

end Diagnostics

/-! ## Answers in other words -/

namespace Diagnostics

theorem hasEntry_of_reordered {code : String} {value other : Outline}
    (step : Reordered value other) (has : HasEntry code value) : HasEntry code other := by
  rcases has with ⟨items, rfl, item, among, known⟩
  generalize array : Outline.array (.ofList items) = outline at step
  cases step with
  | here order => cases array
  | inMember inside => cases array
  | inItem inside =>
      cases Items.ofList_injective (Outline.array.inj array)
      rcases eq_or_mem_of_mem_replaced among _ with rfl | still
      · exact ⟨_, rfl, _, by simp, known.reordered inside⟩
      · exact ⟨_, rfl, item, still, known⟩

theorem hasMessage_of_reordered {message : String} {value other : Outline}
    (step : Reordered value other) (has : SystemException.HasMessage message value) :
    SystemException.HasMessage message other := by
  rcases has with rfl | holds
  · exact absurd step not_reordered_text
  · exact .inr (holds.reordered step)

/-- Another log in which an entry has a code exactly if one of the first has it. -/
inductive Relogged (code : String) : List Outline → List Outline → Prop
  | permuted {items others : List Outline} (order : items.Perm others) :
      Relogged code items others
  /-- An entry stands there once more, or has another code. -/
  | added {front behind : List Outline} {entry : Outline}
      (harmless : entry ∈ front ++ behind ∨ ¬ SystemEntry.HasCode code entry) :
      Relogged code (front ++ behind) (front ++ entry :: behind)

theorem Relogged.exists_hasCode_iff {code : String} {items others : List Outline}
    (step : Relogged code items others) :
    (∃ item ∈ items, SystemEntry.HasCode code item) ↔
      ∃ item ∈ others, SystemEntry.HasCode code item := by
  cases step with
  | permuted order => exact exists_congr fun item => and_congr_left' order.mem_iff
  | @added front behind entry harmless =>
      constructor
      · rintro ⟨item, among, has⟩
        refine ⟨item, ?_, has⟩
        rw [List.mem_append, List.mem_cons]
        rw [List.mem_append] at among
        exact among.imp_right .inr
      · rintro ⟨item, among, has⟩
        rw [List.mem_append, List.mem_cons, or_left_comm, ← List.mem_append] at among
        rcases among with rfl | among
        · exact ⟨item, harmless.resolve_right (not_not_intro has), has⟩
        · exact ⟨item, among, has⟩

/-- One step to another answer that says the same of what has been done before. -/
inductive Restated : Outline → Outline → Prop
  /-- The members of an object stand in another order. -/
  | reordered {outline other : Outline} (step : Reordered outline other) : Restated outline other
  /-- The log of errors is in another order, or longer. -/
  | relogged {front behind : List (String × Outline)} {items others : List Outline}
      (step : Relogged clonedCode items others) :
      Restated (.object (.ofList (front ++ ("errorLog", .array (.ofList items)) :: behind)))
        (.object (.ofList (front ++ ("errorLog", .array (.ofList others)) :: behind)))
  /-- An exception that is a text is told as an object with this message. -/
  | structured {front behind members : List (String × Outline)} {text : String}
      (told : named "message" members = [.text (some text)]) :
      Restated (.object (.ofList (front ++ ("exception", .text (some text)) :: behind)))
        (.object (.ofList (front ++ ("exception", .object (.ofList members)) :: behind)))
  /-- A log of errors that is not there is told as one without entries. -/
  | logged {members : List (String × Outline)} (unlogged : named "errorLog" members = []) :
      Restated (.object (.ofList members))
        (.object (.ofList (("errorLog", .array (.ofList [])) :: members)))

theorem Restated.logsCode_iff {outline other : Outline} (step : Restated outline other) :
    LogsCode clonedCode outline ↔ LogsCode clonedCode other := by
  cases step with
  | reordered step =>
      exact ⟨step.tells hasEntry_of_reordered, step.symm.tells hasEntry_of_reordered⟩
  | @relogged front behind items others step =>
      have same : HasEntry clonedCode (.array (.ofList items)) ↔
          HasEntry clonedCode (.array (.ofList others)) := by
        rw [hasEntry_array_iff, hasEntry_array_iff, step.exists_hasCode_iff]
      exact ⟨tells_of_replaced fun _ => same.mp, tells_of_replaced fun _ => same.mpr⟩
  | structured told => exact ⟨tells_of_replaced nofun, tells_of_replaced nofun⟩
  | @logged members unlogged =>
      have empty : ¬ HasEntry clonedCode (.array (.ofList [])) := by
        rw [hasEntry_array_iff]
        simp
      unfold LogsCode
      rw [tells_ofList_iff, tells_ofList_iff, named_cons_self, unlogged]
      simpa using empty

theorem Restated.raises_iff {message : String} {outline other : Outline}
    (step : Restated outline other) : Raises message outline ↔ Raises message other := by
  cases step with
  | reordered step =>
      exact ⟨step.tells hasMessage_of_reordered, step.symm.tells hasMessage_of_reordered⟩
  | relogged step => exact ⟨tells_of_replaced nofun, tells_of_replaced nofun⟩
  | @structured front behind members text told =>
      have same : SystemException.HasMessage message (.text (some text)) ↔
          SystemException.HasMessage message (.object (.ofList members)) := by
        rw [SystemException.hasMessage_text_iff, SystemException.hasMessage_object_iff, told]
        simp [eq_comm]
      exact ⟨tells_of_replaced fun _ => same.mp, tells_of_replaced fun _ => same.mpr⟩
  | @logged members unlogged =>
      unfold Raises
      rw [tells_ofList_iff, tells_ofList_iff, named_cons_of_ne (by decide)]

theorem iff_of_eqvGen_restated {p : Outline → Prop}
    (keeps : ∀ {outline other}, Restated outline other → (p outline ↔ p other))
    {outline other : Outline} (steps : Relation.EqvGen Restated outline other) :
    p outline ↔ p other := by
  induction steps with
  | rel _ _ step => exact keeps step
  | refl _ => exact Iff.rfl
  | symm _ _ _ induction => exact induction.symm
  | trans _ _ _ _ _ first second => exact first.trans second

end Diagnostics

end ChangeTransport
