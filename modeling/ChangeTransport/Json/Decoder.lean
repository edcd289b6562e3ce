import ChangeTransport.Json.Outline

/-!
# Decoders

A decoder turns an outline into a value of this library, or gives the first fault that a reader
meets who goes through the text once from the left.

A record is read from an object, whose members may stand in any order, or from an array of the
values of its fields in their order.  A field that is missing keeps its default, a field that is
given twice is a mismatch, and a member that is no field is passed over.  A *merged* record takes
the fields of several records out of one object; there the members that are not read at once are
kept and must all be readable.

Values may be nested 127 deep where they are read; passed values may be nested to any depth.
-/

namespace ChangeTransport.Json

/-- How values are read at one place of a text. -/
structure Setting where
  /-- How many more containers may be opened inside each other. -/
  room : Nat
  /-- The fault of an array that has more items than the record has fields. -/
  surplus : Fault
  deriving Repr, DecidableEq

/-- The setting of a whole text. -/
def Setting.outermost : Setting := ⟨127, .malformed⟩

/-- The setting of values that have been kept. -/
def Setting.kept (setting : Setting) : Setting := { setting with surplus := .mismatch }

/-- The setting inside a container. -/
def Setting.inside (setting : Setting) : Except Fault Setting :=
  match setting.room with
  | 0 => .error .malformed
  | room + 1 => .ok { setting with room }

/-- A way to read an outline as a value. -/
abbrev Decoder (α : Type) := Setting → Outline → Except Fault α

/-- The fault of a value of another type than the one wanted. -/
def Outline.unwanted : Outline → Fault
  | .number none => .malformed
  | .text none => .malformed
  | .broken fault => fault.read
  | _ => .mismatch

mutual

/-- Pass over a value. -/
def Outline.pass : Outline → Except Fault Unit
  | .array items => items.pass
  | .object members => members.pass
  | .broken fault => .error fault.passed
  | _ => .ok ()

/-- Pass over the items of an array. -/
def Items.pass : Items → Except Fault Unit
  | .closed => .ok ()
  | .broken fault => .error fault.passed
  | .more item rest => do item.pass; rest.pass

/-- Pass over the members of an object. -/
def Members.pass : Members → Except Fault Unit
  | .closed => .ok ()
  | .broken fault => .error fault.passed
  | .more _ value rest => do value.pass; rest.pass

end

mutual

/-- Read a value only to see that it can be read. -/
def Outline.check (setting : Setting) : Outline → Except Fault Unit
  | .number none => .error .malformed
  | .text none => .error .malformed
  | .array items => do items.check (← setting.inside)
  | .object members => do members.check (← setting.inside)
  | .broken fault => .error fault.read
  | _ => .ok ()

/-- Read the items of an array only to see that they can be read. -/
def Items.check (setting : Setting) : Items → Except Fault Unit
  | .closed => .ok ()
  | .broken fault => .error fault.read
  | .more item rest => do item.check setting; rest.check setting

/-- Read the members of an object only to see that they can be read. -/
def Members.check (setting : Setting) : Members → Except Fault Unit
  | .closed => .ok ()
  | .broken fault => .error fault.read
  | .more none _ _ => .error .malformed
  | .more (some _) value rest => do value.check setting; rest.check setting

end

namespace Decoder

/-- A text. -/
def text : Decoder String
  | _, .text (some value) => .ok value
  | _, outline => .error outline.unwanted

/-- A text or nothing. -/
def optionalText : Decoder (Option String)
  | _, .null => .ok none
  | setting, outline => do pure (some (← text setting outline))

/-- An integer of 64 bits with a sign. -/
def integer : Decoder Int
  | _, .number (some (.integer value)) =>
    if -0x8000000000000000 ≤ value ∧ value < 0x8000000000000000 then .ok value else .error .mismatch
  | _, outline => .error outline.unwanted

/-- The items of an array, each read in the same way. -/
def items {α : Type} (item : Decoder α) (setting : Setting) : Items → Except Fault (List α)
  | .closed => .ok []
  | .broken fault => .error fault.read
  | .more outline rest => do
    let value ← item setting outline
    let values ← items item setting rest
    pure (value :: values)

/-- An array. -/
def list {α : Type} (item : Decoder α) : Decoder (List α)
  | setting, .array outlines => do items item (← setting.inside) outlines
  | _, outline => .error outline.unwanted

end Decoder

/-- A field of a record: its name, and how a value given for it changes the record. -/
structure Field (ρ : Type) where
  name : String
  update : Decoder (ρ → ρ)

namespace Field

/-- A field of the given type. -/
def of {ρ α : Type} (name : String) (value : Decoder α) (set : α → ρ → ρ) : Field ρ where
  name
  update setting outline := do pure (set (← value setting outline))

/-- A field that holds a text. -/
def text {ρ : Type} (name : String) (set : String → ρ → ρ) : Field ρ :=
  of name Decoder.text set

/-- The field of a name. -/
def find? {ρ : Type} (fields : List (Field ρ)) (name : String) : Option (Field ρ) :=
  fields.find? (fun field => field.name == name)

end Field

/-- Read the items of an array as the fields of a record, in their order. -/
def Items.fill {ρ : Type} (setting : Setting) : List (Field ρ) → ρ → Items → Except Fault ρ
  | _, record, .closed => .ok record
  | _, _, .broken fault => .error fault.read
  | [], _, .more _ _ => .error setting.surplus
  | field :: fields, record, .more outline rest => do
    let update ← field.update setting outline
    Items.fill setting fields (update record) rest

/-- Read the members of an object as the fields of a record; `seen` holds the names read. -/
def Members.fill {ρ : Type} (setting : Setting) (fields : List (Field ρ)) :
    List String → ρ → Members → Except Fault ρ
  | _, record, .closed => .ok record
  | _, _, .broken fault => .error fault.read
  | _, _, .more none _ _ => .error .malformed
  | seen, record, .more (some name) value rest =>
    match Field.find? fields name with
    | none => do
      value.pass
      Members.fill setting fields seen record rest
    | some field =>
      if seen.contains name then
        .error .mismatch
      else do
        let update ← field.update setting value
        Members.fill setting fields (name :: seen) (update record) rest

/-- A record whose missing fields are those of `default`. -/
def Decoder.record {ρ : Type} (fields : List (Field ρ)) (default : ρ) : Decoder ρ
  | setting, .object members => do members.fill (← setting.inside) fields [] default
  | setting, .array items => do items.fill (← setting.inside) fields default
  | _, outline => .error outline.unwanted

/--
Read the members of an object that are fields of `direct` at once, and keep the others.  The
members kept come out with the last one first.
-/
def Members.gather {ρ : Type} (setting : Setting) (direct : List (Field ρ)) :
    List String → List (String × Outline) → ρ → Members →
      Except Fault (ρ × List (String × Outline))
  | _, before, record, .closed => .ok (record, before)
  | _, _, _, .broken fault => .error fault.read
  | _, _, _, .more none _ _ => .error .malformed
  | seen, before, record, .more (some name) value rest =>
    match Field.find? direct name with
    | none => do
      value.check setting
      Members.gather setting direct seen ((name, value) :: before) record rest
    | some field =>
      if seen.contains name then
        .error .mismatch
      else do
        let update ← field.update setting value
        Members.gather setting direct (name :: seen) before (update record) rest

/-- Read the members kept as the fields of a record, and leave out those that are none. -/
def fillKept {ρ : Type} (setting : Setting) (fields : List (Field ρ)) :
    List String → ρ → List (String × Outline) → Except Fault ρ
  | _, record, [] => .ok record
  | seen, record, (name, value) :: rest =>
    match Field.find? fields name with
    | none => fillKept setting fields seen record rest
    | some field =>
      if seen.contains name then
        .error .mismatch
      else do
        let update ← field.update setting value
        fillKept setting fields (name :: seen) (update record) rest

/--
A record merged out of one object: the fields `direct` are read where they stand, the fields
`merged` from what is kept, once the object has ended.
-/
def Decoder.merged {ρ : Type} (direct merged : List (Field ρ)) (default : ρ) : Decoder ρ
  | setting, .object members => do
    let setting ← setting.inside
    let (record, kept) ← members.gather setting direct [] [] default
    fillKept setting.kept merged [] record kept.reverse
  | _, outline => .error outline.unwanted

/-- Decode a whole text: one value, with nothing but blanks behind it. -/
def decode {α : Type} (decoder : Decoder α) (bytes : List UInt8) : Except Fault α := do
  let document := Document.read bytes
  let value ← decoder .outermost document.value
  if document.trailing then throw .malformed else pure value

end ChangeTransport.Json
