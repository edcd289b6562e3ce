import ChangeTransport.Xml.Node

/-!
# Attributes

The attributes in a start tag are read by a machine that takes one character at a time.  Every
attribute has a name, an equals sign and a value in quotes, and no two have the same full name.
-/

namespace ChangeTransport.Xml

/-- An attribute: its full name, and its value with the references in it. -/
structure Attribute where
  name : List Char
  raw : List Char
  deriving Repr, DecidableEq

/-- Where the machine stands; the lists hold characters with the last one first. -/
inductive AttributePlace where
  | between
  | name (before : List Char)
  /-- Behind a name and a blank. -/
  | afterName (name : List Char)
  /-- Behind the equals sign. -/
  | afterSign (name : List Char)
  | value (name : List Char) (mark : Char) (before : List Char)
  | stopped
  deriving Repr, DecidableEq

/-- The attributes read so far, the last one first, and the place behind them. -/
structure AttributeScanner where
  before : List Attribute
  place : AttributePlace
  deriving Repr, DecidableEq

namespace AttributeScanner

/-- Nothing read yet. -/
def start : AttributeScanner := ⟨[], .between⟩

/-- A whole name and its equals sign; a name that has been read before stops the reading. -/
def sign (scanner : AttributeScanner) (name : List Char) : AttributeScanner :=
  if scanner.before.any (fun earlier => earlier.name == name) then
    { scanner with place := .stopped }
  else
    { scanner with place := .afterSign name }

/-- Take one character. -/
def step (scanner : AttributeScanner) (character : Char) : AttributeScanner :=
  match scanner.place with
  | .between =>
    if isBlank character then scanner else { scanner with place := .name [character] }
  | .name before =>
    if character = '=' then scanner.sign before.reverse
    else if isBlank character then { scanner with place := .afterName before.reverse }
    else { scanner with place := .name (character :: before) }
  | .afterName name =>
    if isBlank character then scanner
    else if character = '=' then scanner.sign name
    else { scanner with place := .stopped }
  | .afterSign name =>
    if isBlank character then scanner
    else if character = '"' ∨ character = '\'' then
      { scanner with place := .value name character [] }
    else { scanner with place := .stopped }
  | .value name mark before =>
    if character = mark then ⟨⟨name, before.reverse⟩ :: scanner.before, .between⟩
    else { scanner with place := .value name mark (character :: before) }
  | .stopped => scanner

/-- All attributes, if the tag ends between two of them. -/
def finish? (scanner : AttributeScanner) : Option (List Attribute) :=
  match scanner.place with
  | .between => some scanner.before.reverse
  | _ => none

end AttributeScanner

/-- The attributes of an element, in their order; none when its tag is malformed. -/
def Element.attributes? (element : Element) : Option (List Attribute) :=
  ((element.tag.drop element.name.length).foldl AttributeScanner.step .start).finish?

/-- Whether a name declares a prefix or the namespace of names without one. -/
def isNamespaceName (name : List Char) : Bool :=
  name == "xmlns".toList || "xmlns:".toList.isPrefixOf name

/-- The name by which an attribute is looked up: a prefix does not count. -/
def Attribute.key (given : Attribute) : String :=
  String.ofList
    ('@' :: if isNamespaceName given.name then given.name else localName given.name)

end ChangeTransport.Xml
