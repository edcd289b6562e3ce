import ChangeTransport.Proofs.Json.Merged
import ChangeTransport.Proofs.Repository.Done
import ChangeTransport.Proofs.Repository.Questions

/-!
# The outcome of a pull

The reply to a pull holds an outcome and diagnostics in one object.  It is read as a whole or not at
all: the outcome is the one that the body tells if the diagnostics can be read as well and whatever
else is there can be kept, and otherwise nothing is known of it.  In neither case is the pull a
failure.
-/

namespace ChangeTransport

open Json Step

/-- Members tell a text by the one member with a name; where there is none, the text is empty. -/
def TellsText (members : List (String × Outline)) (name text : String) : Prop :=
  named name members = [.text (some text)] ∨ named name members = [] ∧ text = ""

/-! ## The two parts -/

namespace DeployOutcome

/-- The names of the members that hold an outcome. -/
def names : List String := ["trkorr", "fromCommit", "toCommit"]

/-- How an outcome is read that stands alone. -/
def decoder : Json.Decoder DeployOutcome := .record (fieldsOf id) blank

/-- What members tell about an outcome. -/
structure IsToldBy (outcome : DeployOutcome) (members : List (String × Outline)) : Prop where
  trkorr : TellsText members "trkorr" outcome.trkorr
  fromCommit : TellsText members "fromCommit" outcome.fromCommit
  toCommit : TellsText members "toCommit" outcome.toCommit

theorem fieldsOf_eq_within {ρ : Type} (change : (DeployOutcome → DeployOutcome) → ρ → ρ) :
    fieldsOf change = (fieldsOf id).map (.within change) := by
  simp only [fieldsOf, Field.text, List.map_cons, List.map_nil, Field.within_of, id]

theorem steady : ∀ field ∈ fieldsOf id, field.IsSteady := by
  iterate 3 refine List.forall_mem_cons.mpr ⟨Field.isSteady_text _ _, ?_⟩
  exact List.forall_mem_nil _

theorem readsKept : ∀ field ∈ fieldsOf id, field.ReadsKept := by
  iterate 3 refine List.forall_mem_cons.mpr ⟨Field.readsKept_text _ _, ?_⟩
  exact List.forall_mem_nil _

/-- The parts of an outcome. -/
def parts : List (RecordPart DeployOutcome) :=
  [.text "trkorr" trkorr, .text "fromCommit" fromCommit, .text "toCommit" toCommit]

theorem fieldsSet : FieldsSet 0 parts (fieldsOf id) parts where
  sets := by
    refine .cons ?_ (.cons ?_ (.cons ?_ .nil))
    all_goals exact Field.sets_text (fun _ _ => rfl) (by simp [LeavesOthers, parts])
  distinct := by decide

theorem shows_trkorr : Shows trkorr "trkorr" Decoder.text 0 (fieldsOf id) := by
  refine .here (fun _ _ => rfl) ?_
  iterate 2 refine List.forall_mem_cons.mpr ⟨⟨by decide, Field.spares_of fun _ _ => rfl⟩, ?_⟩
  exact List.forall_mem_nil _

theorem shows_fromCommit : Shows fromCommit "fromCommit" Decoder.text 1 (fieldsOf id) := by
  refine .later ⟨by decide, Field.spares_of fun _ _ => rfl⟩ (.here (fun _ _ => rfl) ?_)
  refine List.forall_mem_cons.mpr ⟨⟨by decide, Field.spares_of fun _ _ => rfl⟩, ?_⟩
  exact List.forall_mem_nil _

theorem shows_toCommit : Shows toCommit "toCommit" Decoder.text 2 (fieldsOf id) := by
  iterate 2 refine .later ⟨by decide, Field.spares_of fun _ _ => rfl⟩ ?_
  exact .here (fun _ _ => rfl) (List.forall_mem_nil _)

theorem tellsText_of_fillKept {setting : Setting} {outcome : DeployOutcome}
    {members : List (String × Outline)}
    (filled : fillKept setting (fieldsOf id) [] blank members = .ok outcome)
    {view : DeployOutcome → String} {name : String} {place : Nat}
    (shows : Shows view name Decoder.text place (fieldsOf id)) (empty : view blank = "") :
    TellsText members name (view outcome) := by
  rcases shows.view_fillKept filled with ⟨none, still⟩ | ⟨value, told, known, -⟩
  · exact .inr ⟨none, still.trans empty⟩
  · rw [Decoder.text_eq_ok_iff.mp known] at told
    exact .inl told

theorem isDue_of_tellsText {outcome : DeployOutcome} {members : List (String × Outline)}
    {name : String} {view : DeployOutcome → String}
    (told : TellsText members name (view outcome)) (empty : view blank = "") :
    (RecordPart.text name view).IsDue outcome [] blank members := by
  rcases told with told | ⟨none, still⟩
  · exact .inl ⟨_, told, rfl, List.not_mem_nil⟩
  · exact .inr ⟨none, empty.trans still.symm⟩

/-- An outcome is read from members exactly if they tell it. -/
theorem fillKept_eq_ok_iff {setting : Setting} {outcome : DeployOutcome}
    {members : List (String × Outline)} :
    fillKept setting (fieldsOf id) [] blank members = .ok outcome ↔ outcome.IsToldBy members := by
  constructor
  · intro filled
    exact ⟨tellsText_of_fillKept filled shows_trkorr rfl,
      tellsText_of_fillKept filled shows_fromCommit rfl,
      tellsText_of_fillKept filled shows_toCommit rfl⟩
  · intro told
    have due : ∀ part ∈ parts, part.IsDue outcome [] blank members := by
      simp only [parts, List.forall_mem_cons]
      exact ⟨isDue_of_tellsText told.trkorr rfl, isDue_of_tellsText told.fromCommit rfl,
        isDue_of_tellsText told.toCommit rfl, List.forall_mem_nil _⟩
    rcases fieldsSet.exists_fillKept (List.Subset.refl parts) (Nat.zero_le setting.room) due with
      ⟨final, filled, agree, -⟩
    have equal : final = outcome := by
      cases final
      cases outcome
      simpa [parts] using agree
    rw [filled, equal]

/-- An outcome that is read alone is the one that the members tell, whatever else they tell. -/
theorem decoder_only_eq_ok_iff {outcome : DeployOutcome} {members : List (String × Outline)} :
    decoder .outermost (.object (.ofList (only names members))) = .ok outcome ↔
      outcome.IsToldBy members := by
  have alone : decoder .outermost (.object (.ofList (only names members))) = _ :=
    Decoder.record_only (fieldsOf id) blank members
  rw [alone, fillKept_eq_ok_iff]

end DeployOutcome

/-! ## Entries and exceptions -/

namespace SystemEntry

theorem steady : ∀ field ∈ fields, field.IsSteady := by
  refine List.forall_mem_cons.mpr ⟨Field.isSteady_of Decoder.isSteady_integer _ _, ?_⟩
  iterate 6 refine List.forall_mem_cons.mpr ⟨Field.isSteady_text _ _, ?_⟩
  exact List.forall_mem_nil _

theorem readsKept : ∀ field ∈ fields, field.ReadsKept := by
  refine List.forall_mem_cons.mpr ⟨Field.readsKept_of Decoder.readsKept_integer _ _, ?_⟩
  iterate 6 refine List.forall_mem_cons.mpr ⟨Field.readsKept_text _ _, ?_⟩
  exact List.forall_mem_nil _

end SystemEntry

namespace SystemException

theorem decoder_of_ne_null (setting : Setting) {outline : Outline} (there : outline ≠ .null) :
    decoder setting outline = outline.check setting >>= fun _ =>
      match keptDecoder setting.kept outline with
      | .ok exception => pure (some exception)
      | .error _ => throw .mismatch := by
  cases outline with
  | null => exact absurd rfl there
  | _ => rfl

/-- An exception that is read has been kept before. -/
theorem readsKept_decoder : decoder.ReadsKept := by
  intro setting outline exception? read
  by_cases there : outline = .null
  · rw [there]
    rfl
  · rw [decoder_of_ne_null _ there] at read
    rcases exists_of_bind_eq_ok read with ⟨⟨⟩, checked, -⟩
    exact checked

theorem isSteady_decoder : decoder.IsSteady := by
  intro setting outline exception? read surplus
  by_cases there : outline = .null
  · rw [there] at read ⊢
    exact read
  · rw [decoder_of_ne_null _ there] at read ⊢
    rcases exists_of_bind_eq_ok read with ⟨⟨⟩, checked, kept⟩
    rw [outline.check_facing surplus setting checked]
    exact kept

end SystemException

namespace Diagnostics

/-- The names of the members that hold diagnostics. -/
def names : List String := ["log", "errorLog", "exception"]

theorem fieldsOf_eq_within {ρ : Type} (change : (Diagnostics → Diagnostics) → ρ → ρ) :
    fieldsOf change = fields.map (.within change) := by
  simp only [fields, fieldsOf, List.map_cons, List.map_nil, Field.within_of, id]

theorem shows_log : Shows log "log" (Decoder.list SystemEntry.decoder) 0 fields := by
  refine .here (fun _ _ => rfl) ?_
  iterate 2 refine List.forall_mem_cons.mpr ⟨⟨by decide, Field.spares_of fun _ _ => rfl⟩, ?_⟩
  exact List.forall_mem_nil _

theorem steady : ∀ field ∈ fields, field.IsSteady := by
  have entries := Decoder.isSteady_list (Decoder.isSteady_record SystemEntry.steady .blank)
  exact List.forall_mem_cons.mpr ⟨Field.isSteady_of entries _ _,
    List.forall_mem_cons.mpr ⟨Field.isSteady_of entries _ _,
      List.forall_mem_singleton.mpr (Field.isSteady_of SystemException.isSteady_decoder _ _)⟩⟩

end Diagnostics

/-! ## The whole reply -/

namespace DeployReply

/--
What is neither an outcome nor diagnostics can be kept: the members of the reply with other names,
and those of the entries of its logs.
-/
structure KeepsOthers (members : List (String × Outline)) : Prop where
  ofReply : ∀ member ∈ members, member.1 ∉ DeployOutcome.names ++ Diagnostics.names →
    member.2.check .outermostMember = .ok ()
  ofEntries : ∀ member ∈ members, member.1 = "log" ∨ member.1 = "errorLog" →
    member.2.ItemsKeepOthers (SystemEntry.fields.map Field.name) .outermostMember

theorem isPair : IsPair DeployReply.mk
    (fun change reply => { reply with outcome := change reply.outcome })
    (fun change reply => { reply with diagnostics := change reply.diagnostics }) :=
  ⟨fun _ _ _ => rfl, fun _ _ _ => rfl⟩

variable {members : List (String × Outline)} {outcome : DeployOutcome} {diagnostics : Diagnostics}

/-- Where the logs have been read, they can be kept if what is no field of their entries can. -/
theorem check_log_iff (filled : fillKept .outermostMember Diagnostics.fields [] .blank members =
    .ok diagnostics) {member : String × Outline} (among : member ∈ members)
    (logs : member.1 = "log" ∨ member.1 = "errorLog") :
    member.2.check .outermostMember = .ok () ↔
      member.2.ItemsKeepOthers (SystemEntry.fields.map Field.name) .outermostMember := by
  have records (setting : Setting) (outline : Outline) (entry : SystemEntry)
      (read : SystemEntry.decoder setting outline = .ok entry) :=
    Decoder.check_iff_of_record SystemEntry.readsKept read
  have read : ∃ entries,
      Decoder.list SystemEntry.decoder .outermostMember member.2 = .ok entries := by
    rcases member with ⟨name, value⟩
    rcases logs with rfl | rfl
    · exact ⟨_, Diagnostics.shows_log.eq_ok_of_fillKept filled among⟩
    · exact ⟨_, Diagnostics.shows_errorLog.eq_ok_of_fillKept filled among⟩
  rcases read with ⟨entries, read⟩
  exact Decoder.check_iff_of_list records read

/-- Where both parts have been read, everything can be kept if what is neither of them can. -/
theorem forall_check_iff_keepsOthers
    (outcomeFilled : fillKept .outermostMember (DeployOutcome.fieldsOf id) [] .blank members =
      .ok outcome)
    (filled : fillKept .outermostMember Diagnostics.fields [] .blank members = .ok diagnostics) :
    (∀ member ∈ members, member.2.check .outermostMember = .ok ()) ↔ KeepsOthers members := by
  constructor
  · intro checked
    exact ⟨fun member among _ => checked member among,
      fun member among logs => (check_log_iff filled among logs).mp (checked member among)⟩
  · rintro ⟨ofReply, ofEntries⟩ member among
    by_cases inOutcome : member.1 ∈ DeployOutcome.names
    · exact check_of_fillKept DeployOutcome.readsKept outcomeFilled member among inOutcome
    by_cases logs : member.1 = "log" ∨ member.1 = "errorLog"
    · exact (check_log_iff filled among logs).mpr (ofEntries member among logs)
    by_cases raises : member.1 = "exception"
    · have named : ("exception", member.2) ∈ members := raises ▸ among
      exact SystemException.readsKept_decoder .outermostMember member.2 _
        (Diagnostics.shows_exception.eq_ok_of_fillKept filled named)
    · apply ofReply member among
      rw [not_or] at logs
      simp [inOutcome, Diagnostics.names, logs, raises]

/--
A value is the reply to a pull exactly if its members tell an outcome and diagnostics when each of
the two is read alone, and whatever else is there can be kept.
-/
theorem decoder_eq_ok_iff {outline : Outline} :
    decoder .outermost outline = .ok ⟨outcome, diagnostics⟩ ↔
      ∃ members, outline = .object (.ofList members) ∧ KeepsOthers members ∧
        DeployOutcome.decoder .outermost
          (.object (.ofList (only DeployOutcome.names members))) = .ok outcome ∧
        Diagnostics.decoder .outermost
          (.object (.ofList (only Diagnostics.names members))) = .ok diagnostics := by
  have apart : ∀ name ∈ (DeployOutcome.fieldsOf id).map Field.name,
      name ∉ Diagnostics.fields.map Field.name := by
    decide
  have alike (names : List String) : SeenAlike names [] [] := fun _ _ => Iff.rfl
  have first (members : List (String × Outline)) :
      DeployOutcome.decoder .outermost (.object (.ofList (only DeployOutcome.names members))) =
        fillKept .outermostMember (DeployOutcome.fieldsOf id) [] .blank members :=
    Decoder.record_only _ _ members
  have second (members : List (String × Outline)) :
      Diagnostics.decoder .outermost (.object (.ofList (only Diagnostics.names members))) =
        fillKept .outermostMember Diagnostics.fields [] .blank members :=
    Decoder.record_only _ _ members
  rw [decoder, DeployOutcome.fieldsOf_eq_within, Diagnostics.fieldsOf_eq_within,
    Decoder.merged_eq_ok_iff]
  simp only [first, second]
  constructor
  · rintro ⟨inner, members, opened, rfl, checked, filled⟩
    cases opened
    rcases (isPair.fillKept_eq_ok_iff apart (alike _) (alike _) _ _).mp filled with
      ⟨one, other, made, filledOne, filledOther⟩
    cases made
    rw [fillKept_kept_iff DeployOutcome.steady] at filledOne
    rw [fillKept_kept_iff Diagnostics.steady] at filledOther
    exact ⟨members, rfl, (forall_check_iff_keepsOthers filledOne filledOther).mp checked,
      filledOne, filledOther⟩
  · rintro ⟨members, rfl, others, filledOne, filledOther⟩
    refine ⟨.outermostMember, members, rfl, rfl,
      (forall_check_iff_keepsOthers filledOne filledOther).mpr others, ?_⟩
    rw [← fillKept_kept_iff DeployOutcome.steady] at filledOne
    rw [← fillKept_kept_iff Diagnostics.steady] at filledOther
    exact (isPair.fillKept_eq_ok_iff apart (alike _) (alike _) _ _).mpr
      ⟨outcome, diagnostics, rfl, filledOne, filledOther⟩

/-- A body is the reply to a pull exactly if it is one object that is, with nothing behind it. -/
theorem decode_eq_ok_iff {bytes : List UInt8} :
    decode decoder bytes = .ok ⟨outcome, diagnostics⟩ ↔
      ∃ members, Document.read bytes = ⟨.object (.ofList members), false⟩ ∧ KeepsOthers members ∧
        DeployOutcome.decoder .outermost
          (.object (.ofList (only DeployOutcome.names members))) = .ok outcome ∧
        Diagnostics.decoder .outermost
          (.object (.ofList (only Diagnostics.names members))) = .ok diagnostics := by
  rw [decode, bind_eq_ok_iff]
  rcases Document.read bytes with ⟨value, trailing⟩
  constructor
  · rintro ⟨reply, read, ended⟩
    cases trailing with
    | true => cases ended
    | false =>
        cases ended
        rcases decoder_eq_ok_iff.mp read with ⟨members, rfl, parts⟩
        exact ⟨members, rfl, parts⟩
  · rintro ⟨members, same, parts⟩
    cases same
    exact ⟨_, decoder_eq_ok_iff.mpr ⟨members, rfl, parts⟩, rfl⟩

end DeployReply

/-! ## Pulling -/

/-- The outcome that a body gives to a pull: what it tells if it can be read, and nothing if not. -/
inductive GivesOutcome (bytes : List UInt8) : DeployOutcome → Prop
  | told {outcome : DeployOutcome} {diagnostics : Diagnostics} {members : List (String × Outline)}
      (object : Document.read bytes = ⟨.object (.ofList members), false⟩)
      (read : decode DeployReply.decoder bytes = .ok ⟨outcome, diagnostics⟩)
      (told : outcome.IsToldBy members) : GivesOutcome bytes outcome
  | unread {fault : Fault} (refused : decode DeployReply.decoder bytes = .error fault) :
      GivesOutcome bytes .blank

namespace Repository

theorem givesOutcome_outcomeOf (reply : Http.Reply) :
    GivesOutcome reply.body (outcomeOf reply) := by
  unfold outcomeOf decodeReply
  cases read : decode DeployReply.decoder reply.body with
  | error fault => exact .unread read
  | ok body =>
      rcases DeployReply.decode_eq_ok_iff.mp read with ⟨members, object, -, told, -⟩
      exact .told object read (DeployOutcome.decoder_only_eq_ok_iff.mp told)

/--
A pull is one request.  It succeeds exactly if the status of the reply does, whatever the body is,
and its outcome is then the one that the body tells, or nothing is known of it.  A body can be read
exactly if it is an object whose members tell an outcome and diagnostics when each of the two is
read alone, and whatever else is in it can be kept; both are then as they are alone.
-/
theorem pull_reads_body_whole_or_not_at_all
    (repository : Repository) (commit : Option String) (world : World) :
    let url := repository.pullUrl commit
    let ended := runIn world (repository.deploy commit)
    (ended.2.system.sent = world.system.sent ++ [.get url] ∧ ended.2.provider = world.provider) ∧
    (match (world.exchange .system (.get url)).1 with
      | .failure reason => ended.1 = .error (.transport reason)
      | .reply reply =>
        if 200 ≤ reply.status ∧ reply.status < 300 then
          ∃ outcome, ended.1 = .ok outcome ∧ GivesOutcome reply.body outcome
        else
          ended.1 = .error (.http reply.status url)) ∧
    ∀ (bytes : List UInt8) (outcome : DeployOutcome) (diagnostics : Diagnostics),
      decode DeployReply.decoder bytes = .ok ⟨outcome, diagnostics⟩ ↔
        ∃ members, Document.read bytes = ⟨.object (.ofList members), false⟩ ∧
          DeployReply.KeepsOthers members ∧
          DeployOutcome.decoder .outermost
            (.object (.ofList (only DeployOutcome.names members))) = .ok outcome ∧
          Diagnostics.decoder .outermost
            (.object (.ofList (only Diagnostics.names members))) = .ok diagnostics := by
  intro url ended
  refine ⟨(repository.asks_deploy commit).sent_runIn world, ?_,
    fun bytes outcome diagnostics => DeployReply.decode_eq_ok_iff⟩
  have result : ended.1 = _ := (repository.asks_deploy commit).fst_runIn world
  rw [result]
  cases (world.exchange .system (.get url)).1 with
  | failure reason => rfl
  | reply reply =>
      dsimp only
      split
      · next success =>
          rw [← Http.Reply.isSuccess_iff] at success
          exact ⟨outcomeOf reply, Http.Answer.read_of_success success,
            givesOutcome_outcomeOf reply⟩
      · next failure =>
          rw [← Http.Reply.isSuccess_iff, Bool.not_eq_true] at failure
          exact Http.Answer.read_of_failure failure

/-- A fault in the log leaves nothing known of an outcome that could be read alone. -/
example :
    let faulty := "\x7b\"trkorr\":\"T1\",\"log\":[\x7b\"time\":\"\"\x7d]\x7d"
    let whole := "\x7b\"trkorr\":\"T1\",\"log\":[\x7b\"time\":1\x7d]\x7d"
    outcomeOf ⟨200, [], Text.Utf8.ofText faulty⟩ = .blank ∧
      outcomeOf ⟨200, [], Text.Utf8.ofText whole⟩ = ⟨"T1", "", ""⟩ := by
  decide +kernel

end Repository

end ChangeTransport
