import ChangeTransport.Text.Utf8
import ChangeTransport.Xml.Attribute

/-!
# Reading elements as records

A record is read from an element: its fields are attributes, looked up by `@` and their name, and
child elements, looked up by their name; prefixes do not count.  A field that is missing keeps its
default, and one that is given twice is a fault.  A field that holds a list takes all child
elements of one full name that stand directly behind each other, with no text between or directly
behind them.  Everything that is no field is passed over.

Of an element that is passed over, only the text with which it begins is looked at.
-/

namespace ChangeTransport.Xml

/-- Why a document is refused. -/
inductive Fault where
  /-- The body is not UTF-8. -/
  | notText (place : Text.Utf8.Invalid)
  /-- There is no element in the document. -/
  | noRoot
  /-- The root element has another name than the one wanted. -/
  | otherRoot (wanted found : String)
  /-- The markup, a reference or the place of an element is at fault. -/
  | malformed
  /-- A fault that another reader has found, in its own words. -/
  | reported (reason : String)
  deriving Repr, DecidableEq

/-- The text that names a fault; a fault of the markup has no wording of its own. -/
def Fault.message : Fault → String
  | .notText place => "body is not valid UTF-8: " ++ place.message
  | .noRoot => "document has no root element"
  | .otherRoot wanted found =>
    "expected a <" ++ wanted ++ "> document, found <" ++ found ++ ">"
  | .malformed => "malformed document"
  | .reported reason => reason

/-- Whether the wording of a fault is fixed. -/
def Fault.isWorded : Fault → Bool
  | .malformed => false
  | .reported _ => false
  | _ => true

/-- A way to read an element as a value. -/
abbrev Decoder (α : Type) := Element → Except Fault α

/-- A part of the content: a text, or elements of one full name directly behind each other. -/
inductive Run where
  | text (characters : Option (List Char))
  | elements (first : Element) (others : List Element)

/-- Put a part in front of runs. -/
def Run.cons (node : Node) (runs : List Run) : List Run :=
  match node, runs with
  | .text characters, _ => .text characters :: runs
  | .element tag content, .elements first others :: rest =>
    let element : Element := ⟨tag, content⟩
    if element.name = first.name then
      .elements element (first :: others) :: rest
    else
      .elements element [] :: runs
  | .element tag content, _ => .elements ⟨tag, content⟩ [] :: runs

/-- The content of an element as runs. -/
def Element.runs (element : Element) : List Run :=
  element.content.foldr Run.cons []

/-- A text that can be read. -/
def checkText : Option (List Char) → Except Fault Unit
  | some _ => .ok ()
  | none => .error .malformed

/-- Pass over an element. -/
def Element.pass (element : Element) : Except Fault Unit :=
  match element.content with
  | .text characters :: _ => checkText characters
  | _ => .ok ()

/--
The text of an element that holds nothing else.  Two texts, which only a document type can part, are
no text of the element: they are refused, as an element in the place of a text is.
-/
def Element.text (element : Element) : Except Fault String :=
  match element.content with
  | [] => .ok ""
  | [.text (some characters)] => .ok (String.ofList characters)
  | _ => .error .malformed

/-- How the value of a field is given. -/
inductive FieldValue (ρ : Type) where
  /-- As an attribute, or as the text of a child element. -/
  | text (set : String → ρ → ρ)
  /-- As one child element. -/
  | element (update : Decoder (ρ → ρ))
  /-- As child elements that stand directly behind each other. -/
  | list (update : List Element → Except Fault (ρ → ρ))

/-- A field of a record, and the names by which it is looked up. -/
structure Field (ρ : Type) where
  names : List String
  value : FieldValue ρ

namespace Field

/-- A field that is an attribute. -/
def inTag {ρ : Type} (name : String) (set : String → ρ → ρ) : Field ρ :=
  ⟨["@" ++ name], .text set⟩

/-- A field that is an attribute whose local name may itself hold a prefix. -/
def inTagPrefixed {ρ : Type} (before name : String) (set : String → ρ → ρ) : Field ρ :=
  ⟨["@" ++ name, "@" ++ before ++ ":" ++ name], .text set⟩

/-- A field that is the text of a child element. -/
def text {ρ : Type} (name : String) (set : String → ρ → ρ) : Field ρ :=
  ⟨[name], .text set⟩

/-- A field that is one child element. -/
def element {ρ α : Type} (name : String) (decoder : Decoder α) (set : α → ρ → ρ) : Field ρ :=
  ⟨[name], .element fun element => do pure (set (← decoder element))⟩

/-- A field that is a list of child elements. -/
def list {ρ α : Type} (name : String) (decoder : Decoder α) (set : List α → ρ → ρ) : Field ρ :=
  ⟨[name], .list fun elements => do pure (set (← elements.mapM decoder))⟩

/-- The field of a name, and its place in the list. -/
def find? {ρ : Type} (fields : List (Field ρ)) (name : String) : Option (Nat × Field ρ) :=
  (fields.zipIdx.find? (fun entry => entry.1.names.contains name)).map
    (fun entry => (entry.2, entry.1))

end Field

/-- A record that is being read: the fields given so far, by their place, and its present value. -/
structure Filling (ρ : Type) where
  seen : List Nat
  record : ρ

/-- Note that a field is given; one that has been given before is a fault. -/
def Filling.see {ρ : Type} (filling : Filling ρ) (index : Nat) : Except Fault (Filling ρ) :=
  if filling.seen.contains index then
    .error .malformed
  else
    .ok { filling with seen := index :: filling.seen }

/-- Change the record. -/
def Filling.change {ρ : Type} (filling : Filling ρ) (update : ρ → ρ) : Filling ρ :=
  { filling with record := update filling.record }

/-- Take an attribute. -/
def Filling.take {ρ : Type} (fields : List (Field ρ)) (filling : Filling ρ)
    (given : Attribute) : Except Fault (Filling ρ) :=
  match Field.find? fields given.key with
  | some (index, ⟨_, .text set⟩) => do
    let filling ← filling.see index
    match resolve given.raw with
    | some characters => pure (filling.change (set (String.ofList characters)))
    | none => throw .malformed
  | some _ => .error .malformed
  | none => .ok filling

/-- Whether a text stands directly behind a run. -/
def beginsWithText : List Run → Bool
  | .text _ :: _ => true
  | _ => false

/-- Take the content. -/
def Filling.content {ρ : Type} (fields : List (Field ρ)) :
    Filling ρ → List Run → Except Fault (Filling ρ)
  | filling, [] => .ok filling
  | filling, .text characters :: rest => do
    checkText characters
    Filling.content fields filling rest
  | filling, .elements first others :: rest =>
    match Field.find? fields (String.ofList first.localName) with
    | none => do
      (first :: others).forM Element.pass
      Filling.content fields filling rest
    | some (index, field) => do
      let filling ← filling.see index
      match field.value with
      | .text set =>
        if others.isEmpty then
          let text ← first.text
          Filling.content fields (filling.change (set text)) rest
        else
          throw .malformed
      | .element update =>
        if others.isEmpty then
          let update ← update first
          Filling.content fields (filling.change update) rest
        else
          throw .malformed
      | .list update =>
        if beginsWithText rest then
          throw .malformed
        else
          let update ← update (first :: others)
          Filling.content fields (filling.change update) rest

/-- A record whose missing fields are those of `default`. -/
def Decoder.record {ρ : Type} (fields : List (Field ρ)) (default : ρ) : Decoder ρ
  | element =>
    match element.attributes? with
    | none => .error .malformed
    | some attributes => do
      let filling ← attributes.foldlM (Filling.take fields) ⟨[], default⟩
      let filling ← filling.content fields element.runs
      pure filling.record

/-- Decode a document of any root element. -/
def decodeCharacters {α : Type} (decoder : Decoder α) (characters : List Char) :
    Except Fault α :=
  match Element.ofTokens? (tokens characters) with
  | some root => decoder root
  | none => .error .malformed

/-- Check the name of the root element of a document. -/
def checkRoot (wanted : String) (characters : List Char) : Except Fault Unit :=
  match Opening.ofTokens (tokens characters) with
  | .element tag =>
    let found := String.ofList (localName (tagName tag))
    if found = wanted then .ok () else .error (.otherRoot wanted found)
  | .nothing => .error .noRoot
  | .broken => .error .malformed

/-- The characters of a body. -/
def bodyCharacters (body : List UInt8) : Except Fault (List Char) :=
  match Text.Utf8.decode body with
  | .ok characters => .ok characters
  | .error place => .error (.notText place)

/-- Decode a body, whatever its root element. -/
def decode {α : Type} (decoder : Decoder α) (body : List UInt8) : Except Fault α := do
  decodeCharacters decoder (← bodyCharacters body)

/-- Decode a body whose root element must have the given name. -/
def decodeDocument {α : Type} (decoder : Decoder α) (root : String) (body : List UInt8) :
    Except Fault α := do
  let characters ← bodyCharacters body
  checkRoot root characters
  decodeCharacters decoder characters

end ChangeTransport.Xml
